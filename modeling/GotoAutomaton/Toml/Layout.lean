import GotoAutomaton.Toml.Scalar

/-!
# The layout of TOML documents

Brackets, commas, equals signs, dots and line ends lay a document out as a list of statements, one
a line: headers, which choose the table that the next keys go to, and assignments, which give a key
of that table a value.  Arrays and tables in braces may go over several lines, have comments in
them and a comma after their last item.

Whether keys and scalars are good ones does not matter to the layout, and some may even be missing:
keys before or after a dot, before an equals sign and in a header, and values at the end of a line
or of a table in braces.  What is missing or no good is none.
-/

namespace GotoAutomaton
namespace Toml

/-- How deep arrays and tables in braces may be nested, and how many keys may have dots between
them. -/
def deepest : Nat :=
  80

/-- Keys with dots between them: the keys that lead on, and the last. -/
structure Keys where
  path : List (Option String)
  last : Option String

namespace Keys

/-- Keys behind a first one. -/
def behind (key : Option String) (keys : Keys) : Keys :=
  ⟨key :: keys.path, keys.last⟩

end Keys

/-- A value as it is laid out. -/
inductive Layout where
  /-- A value without brackets. -/
  | scalar (value : Option Value)
  | arr (items : List Layout)
  /-- Assignments between braces. -/
  | braces (assignments : List (Keys × Layout))

/-- A statement as it is laid out. -/
inductive Statement where
  | header (keys : Keys)
  | element (keys : Keys)
  | assign (keys : Keys) (value : Layout)

/-- What follows blanks, line ends and comments, given whether the text starts inside a comment. -/
def skipTrivia (inComment : Bool) : List Char → Option (List Char)
  | [] => some []
  | '\r' :: '\n' :: rest => skipTrivia false rest
  | '\n' :: rest => skipTrivia false rest
  | c :: rest =>
      if inComment then (if isAllowed c then skipTrivia true rest else none)
      else if isBlank c then skipTrivia false rest
      else if c == '#' then skipTrivia true rest
      else some (c :: rest)

/-- What follows a line on which nothing is left but blanks and a comment, given whether the text
starts inside the comment. -/
def endLine (inComment : Bool) : List Char → Option (List Char)
  | [] => some []
  | '\r' :: '\n' :: rest => some rest
  | '\n' :: rest => some rest
  | c :: rest =>
      if inComment then (if isAllowed c then endLine true rest else none)
      else if isBlank c then endLine false rest
      else if c == '#' then endLine true rest
      else none

def skipBlanks (cs : List Char) : List Char :=
  cs.dropWhile isBlank

/-- What follows the line end after the rest of a line of which no sense is made, given a text that
has fewer characters than `bound`.  Quoted texts and comments are what they are elsewhere. -/
def skipLineTo : (bound : Nat) → List Char → Option (List Char)
  | 0, _ => none
  | bound + 1, cs =>
      match cs with
      | [] => some []
      | c :: rest =>
          if c == '#' || c == '\r' || c == '\n' then endLine false cs
          else skipLineTo bound (((readKey cs).map Prod.snd).getD rest)

/-- What follows the line end after the rest of a line of which no sense is made. -/
def skipLine (cs : List Char) : Option (List Char) :=
  skipLineTo (cs.length + 1) cs

/-- Reads fewer than `bound` keys with dots between them, and tells whether the last one is there,
good or not. -/
def readKeysTo : (bound : Nat) → List Char → Keys × Bool × List Char
  | 0, cs => (⟨[], none⟩, false, cs)
  | bound + 1, cs =>
      let cs := skipBlanks cs
      let (key, present, rest) :=
        match readKey cs with
        | some (key, rest) => (key, true, skipBlanks rest)
        | none => (none, false, cs)
      match rest with
      | '.' :: rest =>
          let (keys, present, rest) := readKeysTo bound rest
          (keys.behind key, present, rest)
      | _ => (⟨[], key⟩, present, rest)

/-- Reads keys with dots between them and the blanks after them, and tells whether the last one is
there. -/
def readKeys (cs : List Char) : Keys × Bool × List Char :=
  readKeysTo (cs.length + 1) cs

/-- Whether nothing is left on a line but a comment. -/
def isAtEnd : List Char → Bool
  | [] => true
  | c :: _ => c == '#' || c == '\r' || c == '\n'

mutual

/-- Reads a value in which arrays and braces are nested at most `depth` deep. -/
def readValue : (bound depth : Nat) → List Char → Option (Layout × List Char)
  | 0, _, _ => none
  | bound + 1, depth, cs =>
      match cs with
      | '[' :: rest =>
          match depth with
          | 0 => none
          | depth + 1 => (readItems bound depth rest).map fun (items, r) => (.arr items, r)
      | '{' :: rest =>
          match depth with
          | 0 => none
          | depth + 1 => (readBraces bound depth rest).map fun (as, r) => (.braces as, r)
      | c :: _ =>
          if isPlain c then
            let (v, r) := readScalar cs
            some (.scalar v, r)
          else none
      | [] => none

/-- Reads the items of an array and the closing bracket. -/
def readItems : (bound depth : Nat) → List Char → Option (List Layout × List Char)
  | 0, _, _ => none
  | bound + 1, depth, cs =>
      match skipTrivia false cs with
      | none => none
      | some (']' :: rest) => some ([], rest)
      | some cs =>
          match readValue bound depth cs with
          | none => none
          | some (v, rest) =>
              match skipTrivia false rest with
              | some (',' :: rest) =>
                  (readItems bound depth rest).map fun (vs, r) => (v :: vs, r)
              | some (']' :: rest) => some ([v], rest)
              | _ => none

/-- Reads the assignments of a table in braces and the closing brace.  Lines may end before and
after an equals sign, but not at the dots between keys. -/
def readBraces : (bound depth : Nat) → List Char → Option (List (Keys × Layout) × List Char)
  | 0, _, _ => none
  | bound + 1, depth, cs =>
      match skipTrivia false cs with
      | none => none
      | some ('}' :: rest) => some ([], rest)
      | some cs =>
          let (keys, _, rest) := readKeys cs
          match skipTrivia false rest with
          | some ('}' :: rest) => some ([(keys, .scalar none)], rest)
          | some ('=' :: rest) =>
              match skipTrivia false rest with
              | none => none
              | some ('}' :: rest) => some ([(keys, .scalar none)], rest)
              | some cs =>
                  match readValue bound depth cs with
                  | none => none
                  | some (v, rest) =>
                      match skipTrivia false rest with
                      | some (',' :: rest) =>
                          (readBraces bound depth rest).map fun (as, r) => ((keys, v) :: as, r)
                      | some ('}' :: rest) => some ([(keys, v)], rest)
                      | _ => none
          | _ => none

end

/-- Reads a header with single or double brackets after the opening ones, and the rest of its line.
Where the last key is missing, the closing brackets may be missing, too. -/
def readHeader (double : Bool) (cs : List Char) : Option (Statement × List Char) :=
  let (keys, complete, rest) := readKeys cs
  let following :=
    match double, rest with
    | false, ']' :: rest => endLine false rest
    | true, ']' :: ']' :: rest => endLine false rest
    | true, ']' :: _ => none
    | _, _ => if complete then none else skipLine rest
  following.map fun rest => (if double then .element keys else .header keys, rest)

/-- Reads an assignment and the rest of its line. -/
def readAssignment (cs : List Char) : Option (Statement × List Char) :=
  match readKeys cs with
  | (keys, _, '=' :: rest) =>
      let rest := skipBlanks rest
      if isAtEnd rest then (endLine false rest).map fun r => (.assign keys (.scalar none), r)
      else
        (readValue (2 * rest.length + 2) deepest rest).bind fun (v, r) =>
          (endLine false r).map fun r => (.assign keys v, r)
  | _ => none

/-- Reads a statement and the rest of its line. -/
def readStatement (cs : List Char) : Option (Statement × List Char) :=
  match cs with
  | '[' :: '[' :: rest => readHeader true rest
  | '[' :: rest => readHeader false rest
  | _ => readAssignment cs

/-- Reads fewer than `bound` statements. -/
def readStatementsTo : (bound : Nat) → List Char → Option (List Statement)
  | 0, _ => none
  | bound + 1, cs =>
      match skipTrivia false cs with
      | none => none
      | some [] => some []
      | some cs =>
          match readStatement cs with
          | none => none
          | some (statement, rest) => (readStatementsTo bound rest).map (statement :: ·)

/-- The statements of a text; a byte order mark before the first is passed over. -/
def readStatements (s : String) : Option (List Statement) :=
  let cs := match s.toList with
    | '\ufeff' :: rest => rest
    | cs => cs
  readStatementsTo (cs.length + 1) cs

end Toml
end GotoAutomaton
