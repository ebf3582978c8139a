import GotoAutomaton.Data.OrderedMap
import GotoAutomaton.Toml.Layout
import GotoAutomaton.Toml.Text

/-!
# Reading TOML

A text is laid out first.  If its layout is wrong it is malformed, whatever else is wrong with it;
otherwise its statements are resolved and carried out in their order, and the first fault counts.

A document is built table by table.  The table under a header is filled in by itself and then put
in its place.  What would define something a second time or extend what is closed is refused; for a
header in double brackets that comes out when its table is put in its place, for other headers at
once.
-/

namespace GotoAutomaton

namespace Toml

namespace Entries

/-- Changes the table at the end of a path, with tables made on the way as needed.  A path of
dotted keys must not go through a table that has its own header; no path goes through braces. -/
def update (dotted : Bool) (change : Making → Entries → Option Entries) :
    List String → Making → Entries → Option Entries
  | [], making, es => change making es
  | k :: path, _, es =>
      match OrderedMap.find k es with
      | none =>
          let making := if dotted then Making.dotted else Making.path
          (update dotted change path making []).map fun sub =>
            OrderedMap.place k (.table making sub) es
      | some (.table making sub) =>
          if making = .braces ∨ dotted ∧ making = .header then none
          else
            (update dotted change path making sub).map fun sub =>
              OrderedMap.place k (.table making sub) es
      | some (.tables earlier last) =>
          (update dotted change path .header last).map fun last =>
            OrderedMap.place k (.tables earlier last) es
      | some _ => none

/-- Gives a key without a value one. -/
def define (key : String) (value : Value) (es : Entries) : Option Entries :=
  match OrderedMap.find key es with
  | none => some (OrderedMap.place key value es)
  | some _ => none

/-- Carries out an assignment within a table.  The table that gets the key was made by dotted keys
exactly if there are dotted keys before the key. -/
def assign (path : List String) (key : String) (value : Value) (making : Making) (es : Entries) :
    Option Entries :=
  update (!path.isEmpty)
    (fun making es =>
      if decide (making = .dotted) = !path.isEmpty then define key value es else none)
    path making es

/-- The table at the end of a path to a header, empty if it is not there yet. -/
def descend : List String → Entries → Option Entries
  | [], es => some es
  | k :: path, es =>
      match OrderedMap.find k es with
      | none => some []
      | some (.table making sub) => if making = .braces then none else descend path sub
      | some (.tables _ last) => descend path last
      | some _ => none

/-- The entries that a table has when it gets its header: a table made on the way to a header may
still get its own and keeps what it has. -/
def underHeader (key : String) (es : Entries) : Option Entries :=
  match OrderedMap.find key es with
  | none => some []
  | some (.table .path sub) => some sub
  | some _ => none

/-- Appends a table to those under a header in double brackets. -/
def append (key : String) (sub es : Entries) : Option Entries :=
  match OrderedMap.find key es with
  | none => some (OrderedMap.place key (.tables [] sub) es)
  | some (.tables earlier last) =>
      some (OrderedMap.place key (.tables (earlier ++ [last]) sub) es)
  | some _ => none

end Entries

/-- What a table that is being filled in is. -/
inductive Place where
  | document
  /-- The table under a header in brackets. -/
  | header (path : List String) (key : String)
  /-- The last table under a header in double brackets. -/
  | element (path : List String) (key : String)

/-- A document under construction: the entries that it has without the table that is being filled
in, what that table is, and the entries of that table. -/
structure Draft where
  entries : Entries
  place : Place
  current : Entries

namespace Draft

def empty : Draft :=
  ⟨[], .document, []⟩

/-- The entries of the document once the table that was filled in is put in its place. -/
def finish (d : Draft) : Option Entries :=
  match d.place with
  | .document => some d.current
  | .header path key =>
      Entries.update false
        (fun _ es => some (OrderedMap.place key (.table .header d.current) es))
        path .header d.entries
  | .element path key =>
      Entries.update false (fun _ => Entries.append key d.current) path .header d.entries

/-- The document with the table under a header to be filled in. -/
def openHeader (path : List String) (key : String) (es : Entries) : Option Draft :=
  ((Entries.descend path es).bind (Entries.underHeader key)).map fun sub =>
    ⟨es, .header path key, sub⟩

/-- The document with a new table under a header in double brackets to be filled in. -/
def openElement (path : List String) (key : String) (es : Entries) : Draft :=
  ⟨es, .element path key, []⟩

def assign (path : List String) (key : String) (value : Value) (d : Draft) : Option Draft :=
  (Entries.assign path key value .header d.current).map fun es => ⟨d.entries, d.place, es⟩

end Draft

/-- The keys that lead on and the last key, all good and not too many. -/
def Keys.resolve (keys : Keys) : Except Fault (List String × String) := do
  let path ← Fault.demand (keys.path.mapM id)
  let key ← Fault.demand keys.last
  if path.length < deepest then .ok (path, key) else .error .tooManyKeys

mutual

/-- The value that is laid out. -/
def Layout.resolve : Layout → Except Fault Value
  | .scalar value => Fault.demand value
  | .arr items => (resolveAll items).map .arr
  | .braces assignments => (resolveInto [] assignments).map (.table .braces)

def resolveAll : List Layout → Except Fault (List Value)
  | [] => .ok []
  | item :: items => do
      let v ← item.resolve
      let vs ← resolveAll items
      .ok (v :: vs)

/-- Carries out assignments between braces, in their order. -/
def resolveInto (es : Entries) : List (Keys × Layout) → Except Fault Entries
  | [] => .ok es
  | (keys, layout) :: assignments => do
      let (path, key) ← keys.resolve
      let value ← layout.resolve
      let es ← Fault.demand (Entries.assign path key value .braces es)
      resolveInto es assignments

end

namespace Draft

/-- Resolves a statement and carries it out.  A header has the table before it put in its place
first. -/
def extend (d : Draft) : Statement → Except Fault Draft
  | .header keys => do
      let es ← Fault.demand d.finish
      let (path, key) ← keys.resolve
      Fault.demand (openHeader path key es)
  | .element keys => do
      let es ← Fault.demand d.finish
      let (path, key) ← keys.resolve
      .ok (openElement path key es)
  | .assign keys layout => do
      let (path, key) ← keys.resolve
      let value ← layout.resolve
      Fault.demand (d.assign path key value)

end Draft

/-- The entries of the document that a text is. -/
def readDocument (s : String) : Except Fault Entries := do
  let statements ← Fault.demand (readStatements s)
  let d ← statements.foldlM Draft.extend .empty
  Fault.demand d.finish

end Toml

end GotoAutomaton
