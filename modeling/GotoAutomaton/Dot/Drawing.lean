import GotoAutomaton.Data.FirstSeen
import GotoAutomaton.Graph.Basic
import GotoAutomaton.State.Registry

/-!
# Drawings

The drawing of a graph is a document of the DOT language: after a fixed heading one line for every
state, in ascending order, and one line for every transition, ordered by origin and destination
with parallel transitions in the order they were added.

Names and labels stand in quoted strings.  Inside a quoted string a backslash takes the next
character literally, so the backslashes and the quotes of a label are written behind a backslash;
names are printed identifiers, which have none.  `escape` does this by two replacements, backslashes
first; `escapeOnce` says what one pass over the text would write, `readQuoted` is the reader of
quoted strings, and `ClosesAt` says which quotes end one without reading it.

A document is written piece by piece into a sink, which takes bytes until its room is used up: the
first piece that does not fit is written as far as it fits, and nothing after it.

The reader of documents gives the points and the arrows back, names and labels without their
escapes, and makes a directed graph of them.  It knows nodes by their names only: wherever a name
stands, as a point or at an end of an arrow, it is the same node.

Main statements: escaping a text starts with its first character (`escapeChars_cons`), reading an
escaped text up to the closing quote gives the text back (`readQuoted_escapeChars`), nothing has to
be escaped in the names of a drawing (`Graph.bareNames_drawing`), and what a sink holds and whether
writing fails depend on the pieces put together (`Sink.held_write`, `Sink.result_write`).
-/

namespace GotoAutomaton

namespace Dot

/-- Puts a text in the place of every occurrence of a character. -/
def replaceChar (c : Char) (text : List Char) (cs : List Char) : List Char :=
  cs.flatMap fun d => if d = c then text else [d]

/-- Doubles the backslashes, then puts a backslash before every quote. -/
def escapeChars (cs : List Char) : List Char :=
  replaceChar '"' ['\\', '"'] (replaceChar '\\' ['\\', '\\'] cs)

/-- One pass from left to right, a backslash before every backslash and every quote. -/
def escapeOnce : List Char → List Char
  | [] => []
  | c :: cs =>
      if c = '\\' ∨ c = '"' then '\\' :: c :: escapeOnce cs else c :: escapeOnce cs

/-- The text as it stands between the quotes of a quoted string. -/
def escape (s : String) : String :=
  String.ofList (escapeChars s.toList)

/-- The text in double quotes, so that it reads back as one string. -/
def quote (s : String) : String :=
  "\"" ++ escape s ++ "\""

/-- Reads up to the first quote that no backslash takes, and gives the text read and what
follows the quote. -/
def readQuoted : List Char → Option (List Char × List Char)
  | [] => none
  | '"' :: rest => some ([], rest)
  | '\\' :: c :: rest => (readQuoted rest).map fun (cs, r) => (c :: cs, r)
  | '\\' :: [] => none
  | c :: rest => (readQuoted rest).map fun (cs, r) => (c :: cs, r)

/-- The number of backslashes at the end of a text. -/
def finalBackslashes (cs : List Char) : Nat :=
  (cs.reverse.takeWhile (· = '\\')).length

/-- A quote closes a string if the backslashes right before it are even in number: they take one
another, so that none is left to take the quote. -/
def ClosesAt (cs : List Char) (n : Nat) : Prop :=
  cs[n]? = some '"' ∧ finalBackslashes (cs.take n) % 2 = 0

instance (cs : List Char) (n : Nat) : Decidable (ClosesAt cs n) :=
  inferInstanceAs (Decidable (_ ∧ _))

@[simp] theorem escapeChars_nil : escapeChars [] = [] := by
  rfl

theorem escapeChars_cons
    (c : Char)
    (cs : List Char) :
    escapeChars (c :: cs) =
      (if c = '\\' ∨ c = '"' then ['\\', c] else [c]) ++ escapeChars cs := by
  by_cases hb : c = '\\'
  · subst hb
    simp [escapeChars, replaceChar]
  · by_cases hq : c = '"'
    · subst hq
      simp [escapeChars, replaceChar]
    · simp [escapeChars, replaceChar, hb, hq]

theorem escapeChars_append (cs ds : List Char) :
    escapeChars (cs ++ ds) = escapeChars cs ++ escapeChars ds := by
  simp [escapeChars, replaceChar]

theorem readQuoted_escapeChars (cs rest : List Char) :
    readQuoted (escapeChars cs ++ '"' :: rest) = some (cs, rest) := by
  induction cs with
  | nil =>
      simp [readQuoted]
  | cons c cs ih =>
      rw [escapeChars_cons]
      by_cases h : c = '\\' ∨ c = '"'
      · simp [h, readQuoted, ih]
      · have hb : c ≠ '\\' := fun hc => h (Or.inl hc)
        have hq : c ≠ '"' := fun hc => h (Or.inr hc)
        simp [readQuoted, ih, hb, hq]

structure Point where
  name : String
  label : String
  deriving DecidableEq

structure Arrow where
  tail : String
  head : String
  label : String
  deriving DecidableEq

/-- The points and the arrows of a drawing, in the order they are written. -/
structure Drawing where
  points : List Point
  arrows : List Arrow
  deriving DecidableEq

/-- The lines before the first point. -/
def heading : List String :=
  ["digraph Automaton \x7b\n", "  rankdir=LR;\n", "  node [shape=circle];\n", "\n"]

/-- A point is written as its name with its label as an attribute.  Names are written as they are
and labels are escaped. -/
def Point.line (p : Point) : String :=
  "  \"" ++ p.name ++ "\" [label=" ++ quote p.label ++ "];\n"

/-- An arrow is written between the names of its ends, with its label as an attribute. -/
def Arrow.line (a : Arrow) : String :=
  "  \"" ++ a.tail ++ "\" -> \"" ++ a.head ++ "\" [label=" ++ quote a.label ++ "];\n"

/-- A text in which nothing has to be escaped. -/
def Bare (s : String) : Prop :=
  ∀ c ∈ s.toList, c ≠ '\\' ∧ c ≠ '"'

theorem escapeChars_of_forall_ne
    {cs : List Char}
    (hcs : ∀ c ∈ cs, c ≠ '\\' ∧ c ≠ '"') :
    escapeChars cs = cs := by
  induction cs with
  | nil =>
      rfl
  | cons c cs ih =>
      obtain ⟨⟨hb, hq⟩, hrest⟩ := List.forall_mem_cons.1 hcs
      rw [escapeChars_cons, if_neg (not_or.2 ⟨hb, hq⟩), ih hrest, List.singleton_append]

/-- A bare text stands between the quotes as it is. -/
theorem quote_of_bare
    {s : String}
    (hs : Bare s) :
    quote s = "\"" ++ s ++ "\"" := by
  rw [quote, escape, escapeChars_of_forall_ne hs, String.ofList_toList]

namespace Drawing

/-- The lines of the document, a blank line between points and arrows. -/
def lines (d : Drawing) : List String :=
  heading ++ d.points.map Point.line ++ ["\n"] ++ d.arrows.map Arrow.line ++ ["\x7d\n"]

def text (d : Drawing) : String :=
  String.join d.lines

/-- Nothing has to be escaped in the names of points and of the ends of arrows. -/
structure BareNames (d : Drawing) : Prop where
  points : ∀ p ∈ d.points, Bare p.name
  tails : ∀ a ∈ d.arrows, Bare a.tail
  heads : ∀ a ∈ d.arrows, Bare a.head

end Drawing
end Dot

namespace Transition

variable {σ : Type}

/-- Transitions go by origin, and by destination from one origin; parallel ones are alike. -/
def leEnds (s t : Transition σ) : Bool :=
  if s.origin = t.origin then s.destination.le t.destination else s.origin.le t.origin

end Transition

namespace Graph

variable {σ : Type}

/-- The short form of a registered state, and the printed identifier of any other. -/
def labelOf (r : Registry) (x : StateId) : String :=
  match r.get? x with
  | none => x.text
  | some s => s.short

/-- The drawing of a graph, its states labelled by a registry. -/
def drawing [Symbol σ] (g : Graph σ) (r : Registry) : Dot.Drawing where
  points := (StateId.sort g.index.keys).map fun x => ⟨x.text, labelOf r x⟩
  arrows := (g.transitions.mergeSort Transition.leEnds).map fun t =>
    ⟨t.origin.text, t.destination.text, Symbol.text t.symbol⟩

end Graph

/-- An identifier is printed as a letter and digits, so nothing has to be escaped in it. -/
theorem StateId.bare_text (x : StateId) : Dot.Bare x.text := by
  intro c hc
  rw [StateId.text, String.toList_append, List.mem_append] at hc
  rcases hc with hletter | hdigit
  · obtain rfl : c = 'S' := List.mem_singleton.1 hletter
    decide
  · rw [Nat.repr, String.toList_ofList] at hdigit
    have hc := Nat.isDigit_of_mem_toDigits (by decide) (Nat.le_refl 10) hdigit
    constructor <;> (rintro rfl; cases hc)

/-- The names in a drawing of a graph are printed identifiers. -/
theorem Graph.bareNames_drawing
    {σ : Type}
    [Symbol σ]
    (g : Graph σ)
    (r : Registry) :
    (g.drawing r).BareNames where
  points p hp := by
    obtain ⟨x, _, rfl⟩ := List.mem_map.1 hp
    exact x.bare_text
  tails a ha := by
    obtain ⟨t, _, rfl⟩ := List.mem_map.1 ha
    exact t.origin.bare_text
  heads a ha := by
    obtain ⟨t, _, rfl⟩ := List.mem_map.1 ha
    exact t.destination.bare_text

namespace Sink

def bytes (s : String) : List UInt8 :=
  s.toUTF8.data.toList

/-- What a sink holds after writing, and how the writing ended. -/
structure Written where
  held : List UInt8
  result : Except Error Unit

/-- The failure of a sink without room for a piece. -/
def full : Error :=
  .io "failed to write whole buffer"

/-- Writes pieces into a sink with room for a number of bytes. -/
def write (room : Nat) : List (List UInt8) → Written
  | [] => ⟨[], .ok ()⟩
  | piece :: pieces =>
      if piece.length ≤ room then
        let rest := write (room - piece.length) pieces
        { rest with held := piece ++ rest.held }
      else
        ⟨piece.take room, .error full⟩

theorem bytes_append (s t : String) : bytes (s ++ t) = bytes s ++ bytes t := by
  simp [bytes, String.toUTF8]

theorem bytes_join (ss : List String) : bytes (String.join ss) = (ss.map bytes).flatten := by
  induction ss with
  | nil =>
      rfl
  | cons s ss ih =>
      simp [bytes_append, ih]

/-- A sink holds the first bytes of the pieces put together, as many as it has room for. -/
theorem held_write
    (room : Nat)
    (pieces : List (List UInt8)) :
    (write room pieces).held = pieces.flatten.take room := by
  induction pieces generalizing room with
  | nil =>
      simp [write]
  | cons piece pieces ih =>
      by_cases h : piece.length ≤ room
      · simp [write, h, ih, List.take_append, List.take_of_length_le]
      · have h' : room ≤ piece.length := by omega
        simp [write, h, List.take_append_of_le_length h']

/-- Writing fails exactly if the pieces put together do not fit. -/
theorem result_write
    (room : Nat)
    (pieces : List (List UInt8)) :
    (write room pieces).result =
      if pieces.flatten.length ≤ room then .ok () else .error full := by
  induction pieces generalizing room with
  | nil =>
      simp [write]
  | cons piece pieces ih =>
      by_cases h : piece.length ≤ room
      · have hrest :
            pieces.flatten.length ≤ room - piece.length ↔
              (piece :: pieces).flatten.length ≤ room := by
          simp only [List.flatten_cons, List.length_append]
          omega
        simp only [write, h, if_true, ih, hrest]
      · have hall : ¬ (piece :: pieces).flatten.length ≤ room := by
          simp only [List.flatten_cons, List.length_append]
          omega
        simp only [write, h, if_false, hall]

end Sink

namespace Dot

/-- Writes a document line by line into a sink. -/
def Drawing.write (d : Drawing) (room : Nat) : Sink.Written :=
  Sink.write room (d.lines.map Sink.bytes)

/-- The lines put together are the document. -/
theorem Drawing.flatten_map_bytes_lines (d : Drawing) :
    (d.lines.map Sink.bytes).flatten = Sink.bytes d.text :=
  (Sink.bytes_join d.lines).symm

/-- What follows a fixed text at the head of a text. -/
def strip : (fixed : List Char) → List Char → Option (List Char)
  | [], cs => some cs
  | _ :: _, [] => none
  | d :: ds, c :: cs => if c = d then strip ds cs else none

/-- Reads a quoted string after a fixed text. -/
def readAfter (fixed : String) (cs : List Char) : Option (String × List Char) :=
  ((strip fixed.toList cs).bind (strip ['"'])).bind fun cs =>
    (readQuoted cs).map fun (s, rest) => (String.ofList s, rest)

def readPoint (cs : List Char) : Option (Point × List Char) :=
  (readAfter "  " cs).bind fun (name, cs) =>
    (readAfter " [label=" cs).bind fun (label, cs) =>
      (strip "];\n".toList cs).map fun rest => (⟨name, label⟩, rest)

def readArrow (cs : List Char) : Option (Arrow × List Char) :=
  (readAfter "  " cs).bind fun (tail, cs) =>
    (readAfter " -> " cs).bind fun (head, cs) =>
      (readAfter " [label=" cs).bind fun (label, cs) =>
        (strip "];\n".toList cs).map fun rest => (⟨tail, head, label⟩, rest)

/-- Reads items as long as the text goes on with a blank, and fewer than `bound`. -/
def readItems {α : Type} (item : List Char → Option (α × List Char)) :
    (bound : Nat) → List Char → Option (List α × List Char)
  | 0, _ => none
  | bound + 1, cs =>
      match cs with
      | ' ' :: _ =>
          (item cs).bind fun (x, rest) =>
            (readItems item bound rest).map fun (xs, rest) => (x :: xs, rest)
      | _ => some ([], cs)

def Drawing.read? (s : String) : Option Drawing :=
  let bound := s.length + 1
  (strip (String.join heading).toList s.toList).bind fun cs =>
    (readItems readPoint bound cs).bind fun (points, cs) =>
      (strip ['\n'] cs).bind fun cs =>
        (readItems readArrow bound cs).bind fun (arrows, cs) =>
          (strip "\x7d\n".toList cs).bind fun rest =>
            if rest.isEmpty then some ⟨points, arrows⟩ else none

namespace Drawing

/-- The nodes of the directed graph, each by its name and once. -/
def nodes (d : Drawing) : List String :=
  distinct (d.points.map Point.name ++ d.arrows.flatMap fun a => [a.tail, a.head])

/-- The edges of the directed graph, as pairs of nodes. -/
def joints (d : Drawing) : List (String × String) :=
  d.arrows.map fun a => (a.tail, a.head)

/-- The directed graph of a drawing is the same as a transition graph, but for what the nodes are
called: every state has a node of its own, there are no other nodes, and there is an edge for each
transition, between the nodes of the transition's own states. -/
def Depicts {σ : Type} (d : Drawing) (g : Graph σ) : Prop :=
  ∃ node : StateId → String,
    (∀ x ∈ g.states, ∀ y ∈ g.states, node x = node y → x = y) ∧
    (∀ n, n ∈ d.nodes ↔ ∃ x ∈ g.states, node x = n) ∧
    d.joints.Perm (g.transitions.map fun t => (node t.origin, node t.destination))

end Drawing
end Dot

end GotoAutomaton
