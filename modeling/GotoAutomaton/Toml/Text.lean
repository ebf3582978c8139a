import GotoAutomaton.Text.Digits

/-!
# TOML values and text

A document is a table.  Tables remember how they came to be, because that decides by what they may
be extended later: a table under its own header once, a table on the way to a header or made by a
dotted key under conditions, a table between braces never.  A text is not read as a document for one
of two reasons, worded by `Fault.text`.

There are four kinds of quoted text: in double quotes with escapes or in single quotes without, and
each on one line or, in three quotes, on several.  Text on several lines may end in up to two quotes
of its own before the closing three.

Of the lines of a document, headers and keys with a value are written.  Text is written in double
quotes with quotes, backslashes and control characters escaped.  There are several ways to escape a
character: `SpellsAll` has all of them, and `quoteText` takes one.
-/

namespace GotoAutomaton

namespace Toml

/-- How a table came to be. -/
inductive Making where
  /-- By its own header; the document itself counts as such. -/
  | header
  /-- On the way to the table of a header. -/
  | path
  /-- On the way to a value, by a dotted key. -/
  | dotted
  /-- Between braces. -/
  | braces
  deriving DecidableEq

/-- The magnitude of a floating-point literal. -/
inductive Magnitude where
  /-- A decimal number: the mantissa times ten to the power of the exponent. -/
  | decimal (mantissa : Nat) (exponent : Int)
  /-- Infinity, or not a number. -/
  | special
  deriving DecidableEq

inductive Value where
  | bool (b : Bool)
  | int (n : Int)
  /-- What is taken for an integer and stands for none: no reader can take it. -/
  | intLike
  | float (magnitude : Magnitude)
  | str (s : String)
  | moment
  | arr (items : List Value)
  | table (making : Making) (entries : List (String × Value))
  /-- Tables under a repeated header in double brackets; the last one is open for extension. -/
  | tables (earlier : List (List (String × Value))) (last : List (String × Value))

/-- The entries of a table in the order of their keys' first occurrence. -/
abbrev Entries :=
  List (String × Value)

/-- Why a text is not read as a document. -/
inductive Fault where
  /-- It is not written, not put together or not filled in as it should be. -/
  | malformed
  /-- It has too many keys with dots between them. -/
  | tooManyKeys
  deriving DecidableEq

namespace Fault

/-- The text shown for a fault.  Too many keys are reported in a line of their own. -/
def text : Fault → String
  | malformed => "TOML parse error"
  | tooManyKeys => "recursion limit\n"

/-- What is there, or the fault that it is not. -/
def demand {α : Type} : Option α → Except Fault α
  | some a => .ok a
  | none => .error malformed

end Fault

def isBlank (c : Char) : Bool :=
  c == ' ' || c == '\t'

/-- The characters allowed in comments and quoted text: no controls but the tab. -/
def isAllowed (c : Char) : Bool :=
  c == '\t' || decide (32 ≤ c.toNat) && c.toNat != 127

/-- What follows a line end at the head of a text. -/
def newline? : List Char → Option (List Char)
  | '\n' :: rest => some rest
  | '\r' :: '\n' :: rest => some rest
  | _ => none

/-- What follows the blanks and line ends at the head of a text. -/
def skipBlankLines : List Char → List Char
  | ' ' :: rest => skipBlankLines rest
  | '\t' :: rest => skipBlankLines rest
  | '\n' :: rest => skipBlankLines rest
  | '\r' :: '\n' :: rest => skipBlankLines rest
  | rest => rest

/-- Reads a character given by its number in a fixed count of hexadecimal digits. -/
def readNumbered (count : Nat) (cs : List Char) : Option (Char × List Char) :=
  if (cs.take count).length = count then
    ((Hex.number? 0 (cs.take count)).bind Hex.scalar?).map fun c => (c, cs.drop count)
  else none

/-- Reads an escape after its backslash. -/
def readEscape : List Char → Option (Char × List Char)
  | 'b' :: rest => some (Char.ofNat 8, rest)
  | 't' :: rest => some ('\t', rest)
  | 'n' :: rest => some ('\n', rest)
  | 'f' :: rest => some (Char.ofNat 12, rest)
  | 'r' :: rest => some ('\r', rest)
  | 'e' :: rest => some (Char.ofNat 27, rest)
  | '"' :: rest => some ('"', rest)
  | '\\' :: rest => some ('\\', rest)
  | 'x' :: rest => readNumbered 2 rest
  | 'u' :: rest => readNumbered 4 rest
  | 'U' :: rest => readNumbered 8 rest
  | _ => none

/-- What follows a backslash at the end of a line, the blanks at the head of the next lines
dropped. -/
def foldLine? (cs : List Char) : Option (List Char) :=
  (newline? (cs.dropWhile isBlank)).map skipBlankLines

/-- The kind of a quoted text. -/
structure Quotation where
  quote : Char
  /-- Whether it is in three quotes and may go over several lines. -/
  long : Bool
  deriving DecidableEq

namespace Quotation

/-- Backslashes are special between double quotes. -/
def hasEscapes (q : Quotation) : Bool :=
  q.quote == '"'

/-- If the text ends here: the quotes that belong to it, and what follows it. -/
def close? (q : Quotation) (cs : List Char) : Option (List Char × List Char) :=
  let n := (cs.takeWhile (· == q.quote)).length
  if q.long then
    if 3 ≤ n then
      let own := min (n - 3) 2
      some (List.replicate own q.quote, cs.drop (own + 3))
    else none
  else if 1 ≤ n then some ([], cs.drop 1)
  else none

/-- Characters put before the text that was read, if it is good. -/
def keep (cs : List Char) (read : Option (List Char) × List Char) :
    Option (List Char) × List Char :=
  (read.1.map (cs ++ ·), read.2)

/-- Reads up to the end of a quoted text that has fewer characters than `bound`, or of the line or
the whole text if the quotes are never closed.  There is no text if they are not, or if a character
or an escape is not allowed. -/
def readTo (q : Quotation) : (bound : Nat) → List Char → Option (List Char) × List Char
  | 0, cs => (none, cs)
  | bound + 1, cs =>
      match q.close? cs with
      | some (own, rest) => (some own, rest)
      | none =>
          match cs with
          | [] => (none, [])
          | '\n' :: rest =>
              if q.long then keep ['\n'] (q.readTo bound rest)
              else (none, '\n' :: rest)
          | '\r' :: '\n' :: rest =>
              if q.long then keep ['\r', '\n'] (q.readTo bound rest)
              else (none, '\n' :: rest)
          | c :: rest =>
              if c == '\\' && q.hasEscapes then
                match readEscape rest, if q.long then foldLine? rest else none with
                | some (e, rest), _ => keep [e] (q.readTo bound rest)
                | none, some rest => q.readTo bound rest
                | none, none => (none, (q.readTo bound rest).2)
              else if isAllowed c then keep [c] (q.readTo bound rest)
              else (none, (q.readTo bound rest).2)

/-- Reads a quoted text after its opening quotes. -/
def read (q : Quotation) (cs : List Char) : Option String × List Char :=
  let (text, rest) := q.readTo (cs.length + 1) cs
  (text.map String.ofList, rest)

/-- The kind of a quoted text and its beginning, given what follows its first quote; a line end
right after three opening quotes is not part of it. -/
def ofOpening (quote : Char) (cs : List Char) : Quotation × List Char :=
  match cs with
  | c :: d :: rest =>
      if c == quote && d == quote then (⟨quote, true⟩, (newline? rest).getD rest)
      else (⟨quote, false⟩, cs)
  | _ => (⟨quote, false⟩, cs)

end Quotation

/-- The letters that stand for a character behind a backslash. -/
def escapeLetters : List (Char × Char) :=
  [('b', Char.ofNat 8), ('t', '\t'), ('n', '\n'), ('f', Char.ofNat 12), ('r', '\r'),
    ('e', Char.ofNat 27), ('"', '"'), ('\\', '\\')]

/-- The marks that stand behind a backslash before the number of a character, each with the count of
its hexadecimal digits. -/
def escapeMarks : List (Char × Nat) :=
  [('x', 2), ('u', 4), ('U', 8)]

/-- The ways to write a character in double quotes. -/
inductive Spells (c : Char) : List Char → Prop
  /-- As it is, if it is no quote, no backslash and no control character but the tab. -/
  | plain :
      c ≠ '"' →
      c ≠ '\\' →
      c = '\t' ∨ 32 ≤ c.toNat ∧ c.toNat ≠ 127 →
      Spells c [c]
  | letter {l : Char} :
      (l, c) ∈ escapeLetters →
      Spells c ['\\', l]
  | number {mark : Char} {digits : List Char} :
      (mark, digits.length) ∈ escapeMarks →
      Hex.number? 0 digits = some c.toNat →
      Spells c ('\\' :: mark :: digits)

/-- The ways to write characters in double quotes, one after the other. -/
inductive SpellsAll : List Char → List Char → Prop
  | nil : SpellsAll [] []
  | cons {c : Char} {cs text texts : List Char} :
      Spells c text →
      SpellsAll cs texts →
      SpellsAll (c :: cs) (text ++ texts)

/-- A text in double quotes is written for another. -/
def Quotes (s quoted : String) : Prop :=
  ∃ text, SpellsAll s.toList text ∧ quoted.toList = '"' :: text ++ ['"']

/-- A character as it is written in double quotes. -/
def escapeChar (c : Char) : List Char :=
  if c = '"' then ['\\', '"']
  else if c = '\\' then ['\\', '\\']
  else if c.toNat < 32 ∨ c.toNat = 127 then
    ['\\', 'u', '0', '0', Hex.digit (c.toNat / 16), Hex.digit (c.toNat % 16)]
  else [c]

def quoteText (s : String) : String :=
  String.ofList ('"' :: s.toList.flatMap escapeChar ++ ['"'])

def headerLine (key : String) : String :=
  "[" ++ key ++ "]\n"

def keyLine (key value : String) : String :=
  key ++ " = " ++ value ++ "\n"

end Toml

end GotoAutomaton
