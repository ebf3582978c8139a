import GotoAutomaton.About
import GotoAutomaton.State.Basic
import GotoAutomaton.State.Registry
import GotoAutomaton.Transition
import GotoAutomaton.Error
import GotoAutomaton.Data.FirstSeen
import GotoAutomaton.Data.OrderedMap
import GotoAutomaton.Log
import GotoAutomaton.Table.Basic
import GotoAutomaton.Table.Insert
import GotoAutomaton.Graph.Basic
import GotoAutomaton.Dot.Drawing
import GotoAutomaton.Analysis
import GotoAutomaton.Session.Run
import GotoAutomaton.Text.Digits
import GotoAutomaton.Json.Read
import GotoAutomaton.Json.Codec
import GotoAutomaton.Text.Class
import GotoAutomaton.Text.Quoted
import GotoAutomaton.Toml.Text
import GotoAutomaton.Toml.Scalar
import GotoAutomaton.Toml.Layout
import GotoAutomaton.Toml.Read
import GotoAutomaton.Config.File
import GotoAutomaton.Table.History
import GotoAutomaton.Session.Shift
import GotoAutomaton.Proofs.Table.Index
import GotoAutomaton.Proofs.Table.Ledger
import GotoAutomaton.Proofs.Table.Batch
import GotoAutomaton.Proofs.Graph.Adjacency
import GotoAutomaton.Proofs.Graph.BreadthFirst
import GotoAutomaton.Proofs.State.Registry
import GotoAutomaton.Proofs.Graph.Reach
import GotoAutomaton.Proofs.Analysis.Completeness
import GotoAutomaton.Proofs.Graph.Enumeration
import GotoAutomaton.Proofs.Table.Growth
import GotoAutomaton.Proofs.Session.Step
import GotoAutomaton.Proofs.Session.Identity
import GotoAutomaton.Proofs.Session.Ownership
import GotoAutomaton.Proofs.Shift.Registry
import GotoAutomaton.Proofs.Shift.Table
import GotoAutomaton.Proofs.Shift.Graph
import GotoAutomaton.Proofs.Shift.Session
import GotoAutomaton.Proofs.Dot.Reading
import GotoAutomaton.Proofs.Dot.Listing
import GotoAutomaton.Proofs.Dot.Digraph
import GotoAutomaton.Proofs.Json.Reading
import GotoAutomaton.Proofs.Json.Codec
import GotoAutomaton.Proofs.Graph.Distance
import GotoAutomaton.Proofs.Graph.Cycle
import GotoAutomaton.Proofs.Json.Grammar
import GotoAutomaton.Proofs.Table.Arrangement
import GotoAutomaton.Proofs.Table.Composition
import GotoAutomaton.Proofs.Table.Rebuilding
import GotoAutomaton.Proofs.Analysis.Monotone
import GotoAutomaton.Proofs.Analysis.Position
import GotoAutomaton.Proofs.Dot.Rearrangement
import GotoAutomaton.Proofs.Graph.Figures
import GotoAutomaton.Proofs.Table.Account
import GotoAutomaton.Proofs.Table.Partition
import GotoAutomaton.Proofs.Toml.Scalar
import GotoAutomaton.Proofs.Toml.Section
import GotoAutomaton.Proofs.Config.Outline
