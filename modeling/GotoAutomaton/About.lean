/-!
# Goto automata

The library is about automata whose states are named by identifiers and whose transitions are kept
in tables, and about the program that works on them.

Registries issue identifiers and list their own states; the identifiers of different registries are
told apart by a tag.  A table keeps transitions in the order they were inserted, at most one for
each origin and symbol, finds them through an index, and may be owned by a registry.  A graph is
made of transitions, with repetitions, for searching, counting and drawing.  An automaton is
analysed as a graph, by the position of its states, and as a table, for states that are foreign or
out of reach.  A session is a list of operations on registries, tables and graphs with their
replies, and this is what the program runs, with a log and under a configuration.

Beside what runs stands what it is measured by: `Ledger` for tables, `Path` for graphs,
`Dot.Drawing.read?` for drawings, `Outline` for configuration documents, and `Op.shift` for
sessions that start under another tag.  The modules under `Proofs` show that the two agree.  They go
from single steps to whole runs: one insertion, one batch, one history of a table (`Proofs.Table`);
one addition and then a graph made of many (`Proofs.Graph`); one operation and then a session
(`Proofs.Session`, `Proofs.Shift`).
-/

namespace GotoAutomaton

/-- The name that the program gives itself. -/
def programName : String :=
  "lr-goto"

/-- The version of the program. -/
def programVersion : String :=
  "0.1.0"

end GotoAutomaton
