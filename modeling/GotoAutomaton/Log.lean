import GotoAutomaton.Error
import GotoAutomaton.Text.Class
import GotoAutomaton.Transition

/-!
# The log

What the library does is reported as events.  An event is data; its level and its wording are
functions of it, and a log line is the two put together.

Which log lines are wanted is said by a list of directives, separated by commas.  A directive may
name a target, a span with fields in brackets, and after an equals sign a level.  It is read from
left to right after the white space around it has been dropped, but the parts are cut out of the
directive as it was given, at the places found without that white space.  White space before a
directive therefore shifts the start of its level to the left.
-/

namespace GotoAutomaton

/-- How much attention a log line asks for. -/
inductive Level where
  | debug
  | info
  | warn
  deriving DecidableEq

/-- The name of a level at the head of a log line. -/
def Level.text : Level → String
  | debug => "DEBUG"
  | info => "INFO"
  | warn => "WARN"

/-- What is reported while tables are built, frozen and validated. -/
inductive Event (σ : Type) where
  /-- A transition becomes part of the table. -/
  | inserting (t : Transition σ)
  /-- The table already has exactly this transition. -/
  | alreadyPresent (t : Transition σ)
  /-- An insertion is refused. -/
  | refusing (c : Conflict)
  /-- A transition is rejected for a state of another automaton. -/
  | rejecting (t : Transition σ) (state : StateId)
  /-- A batch had refused insertions. -/
  | batchRefusals (refused added : Nat)
  /-- The table takes no further insertion. -/
  | frozen (transitions origins : Nat)
  /-- A validation found nothing amiss in an automaton with this many states. -/
  | complete (states : Nat)
  /-- A validation found states of other automata or states out of reach. -/
  | incomplete (foreign unreachable : List StateId)
  deriving DecidableEq

/-- An identifier with both its parts spelled out. -/
def StateId.detail (x : StateId) : String :=
  "StateId \x7b automaton: AutomatonId(" ++ x.automaton.number.toNat.repr ++ "), index: " ++
    x.index.repr ++ " \x7d"

/-- A list of identifiers with all parts spelled out. -/
def StateId.detailList (xs : List StateId) : String :=
  "[" ++ String.intercalate ", " (xs.map StateId.detail) ++ "]"

namespace Event

variable {σ : Type}

/-- Routine steps are for debugging, freezing is for information, the rest is a warning. -/
def level : Event σ → Level
  | inserting _ => .debug
  | alreadyPresent _ => .debug
  | refusing _ => .warn
  | rejecting _ _ => .warn
  | batchRefusals _ _ => .warn
  | frozen _ _ => .info
  | complete _ => .debug
  | incomplete _ _ => .warn

def text [Symbol σ] : Event σ → String
  | inserting t => "Inserting " ++ t.text
  | alreadyPresent t => "Already present: " ++ t.text
  | refusing c => c.text
  | rejecting t state => "Rejecting " ++ t.text ++ ": " ++ state.text ++ " is foreign"
  | batchRefusals refused added =>
      refused.repr ++ " conflict(s) while inserting, " ++ added.repr ++ " transition(s) added"
  | frozen transitions origins =>
      "Transition table frozen with " ++ transitions.repr ++ " transitions over " ++
        origins.repr ++ " origin states"
  | complete states => "Automaton with " ++ states.repr ++ " states is complete"
  | incomplete foreign unreachable =>
      "Automaton incomplete: foreign " ++ StateId.detailList foreign ++ ", unreachable " ++
        StateId.detailList unreachable

end Event

/-- A line of the log: the level, a blank, and the wording. -/
def logLine (level : Level) (text : String) : String :=
  level.text ++ " " ++ text

def Event.line {σ : Type} [Symbol σ] (e : Event σ) : String :=
  logLine e.level e.text

namespace Directive

/-- Why a directive is no good. -/
inductive Fault where
  /-- It has not the form of a directive. -/
  | form
  /-- What stands in the place of the level is no level. -/
  | level
  deriving DecidableEq

def Fault.text : Fault → String
  | form => "invalid filter directive"
  | level =>
      "error parsing level filter: expected one of \"off\", \"error\", \"warn\", \"info\", " ++
        "\"debug\", \"trace\", or a number 0-5"

/-- Where in a directive the reader is; a place that needs it knows where it began, in bytes. -/
inductive Place where
  | start
  | name
  | span
  | field (began : Nat)
  | fields
  | target
  | level (began : Nat)
  deriving DecidableEq

/-- The place after one more character, which stands at the given byte. -/
def Place.step (place : Place) (i : Nat) (c : Char) : Option Place :=
  match place with
  | start =>
      if c = '[' then some span
      else if isAlphanumeric c || c == '-' || c == ':' || c == '_' then some name
      else none
  | name =>
      if c = '=' then some (level (i + 1))
      else if c = '[' then some span
      else some name
  | span =>
      if c = ']' then some target
      else if c = '{' then some (field (i + 1))
      else some span
  | field began =>
      if c = '}' then (if began = i then none else some fields)
      else some (field began)
  | fields => if c = ']' then some target else none
  | target => if c = '=' then some (level (i + 1)) else none
  | level began => some (level began)

/-- The place at the end of a text that starts at the given byte. -/
def walk (place : Place) (i : Nat) : List Char → Option Place
  | [] => some place
  | c :: cs => (place.step i c).bind fun place => walk place (i + c.utf8Size) cs

/-- What is left of a text after a number of bytes. -/
def dropBytes : Nat → List Char → List Char
  | _, [] => []
  | n, c :: cs => if n = 0 then c :: cs else dropBytes (n - c.utf8Size) cs

def levelNames : List String :=
  ["off", "error", "warn", "info", "debug", "trace"]

/-- Whether a text is a number from zero to five, leading zeros and one plus sign allowed. -/
def isLevelNumber (cs : List Char) : Bool :=
  let digits := match cs with
    | '+' :: rest => rest
    | _ => cs
  !digits.isEmpty && digits.all Char.isDigit && decide (Nat.ofDigitChars 10 digits 0 ≤ 5)

/-- Whether a text is a level: a number, or a name in capital or small letters. -/
def isLevel (cs : List Char) : Bool :=
  isLevelNumber cs || levelNames.any fun name => name.toList == cs.map Char.toLower

def check (directive : List Char) : Except Fault Unit :=
  match walk .start 0 (trim directive) with
  | some .name => .ok ()
  | some .target => .ok ()
  | some (.level began) =>
      let level := dropBytes began directive
      if level.isEmpty || isLevel level then .ok () else .error .level
  | _ => .error .form

/-- The pieces of a text between commas. -/
def pieces : List Char → List (List Char)
  | [] => [[]]
  | c :: cs =>
      match pieces cs with
      | [] => [[c]]
      | piece :: rest => if c = ',' then [] :: piece :: rest else (c :: piece) :: rest

theorem pieces_ne_nil (cs : List Char) : pieces cs ≠ [] := by
  cases cs with
  | nil =>
      simp [pieces]
  | cons c cs =>
      rw [pieces]
      split
      · simp
      · split <;> simp

/-- The pieces with commas between them are the text again. -/
theorem intercalate_pieces (cs : List Char) : [','].intercalate (pieces cs) = cs := by
  induction cs with
  | nil =>
      rfl
  | cons c cs ih =>
      obtain ⟨piece, rest, h⟩ := List.exists_cons_of_ne_nil (pieces_ne_nil cs)
      rw [h] at ih
      by_cases hc : c = ','
      · have hpieces : pieces (c :: cs) = [] :: piece :: rest := by
          simp [pieces, h, hc]
        rw [hpieces, ← ih, hc]
        simp [List.intercalate]
      · have hpieces : pieces (c :: cs) = (c :: piece) :: rest := by
          simp [pieces, h, hc]
        rw [hpieces, ← ih]
        cases rest with
        | nil =>
            simp [List.intercalate]
        | cons piece' rest =>
            simp [List.intercalate]

/-- Checks a list of directives; empty ones are passed over and the first fault counts. -/
def checkAll (directives : String) : Except Fault Unit :=
  ((pieces directives.toList).filter fun piece => !piece.isEmpty).forM check

end Directive

end GotoAutomaton
