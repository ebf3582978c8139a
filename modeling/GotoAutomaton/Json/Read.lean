import GotoAutomaton.Text.Digits

/-!
# JSON values, their texts and their reader

A value keeps what a reader of typed data can tell apart: the fields of an object stay in order
and may repeat, and the literal of a number is kept unless it consists of digits only.

Values are written without blanks.  In a string quotes, backslashes and control characters are
escaped; everything else stands for itself.  The reader takes the JSON grammar to the letter: no
leading zeros, no control characters in strings, four hexadecimal digits in an escape, and nothing
but blanks around the value.  Nesting may be as deep as the text is long.
-/

namespace GotoAutomaton

namespace Json

inductive Value where
  | null
  | bool (b : Bool)
  /-- A number written with digits only. -/
  | nat (n : Nat)
  /-- A number written with a sign, a fraction or an exponent. -/
  | number (literal : List Char)
  | str (s : String)
  | arr (items : List Value)
  | obj (fields : List (String × Value))
  /-- A string that is no text because it has half of a surrogate pair, or an object with such a
  key. -/
  | unpaired
  deriving Inhabited

/-- The values of the fields with a name, in order. -/
def valuesOf (name : String) (fields : List (String × Value)) : List Value :=
  (fields.filter fun field => decide (field.1 = name)).map Prod.snd

/-- A character as it is written inside a string. -/
def escapeChar (c : Char) : List Char :=
  if c = '"' then ['\\', '"']
  else if c = '\\' then ['\\', '\\']
  else if c.toNat = 8 then ['\\', 'b']
  else if c.toNat = 9 then ['\\', 't']
  else if c.toNat = 10 then ['\\', 'n']
  else if c.toNat = 12 then ['\\', 'f']
  else if c.toNat = 13 then ['\\', 'r']
  else if c.toNat < 32 then
    ['\\', 'u', '0', '0', Hex.digit (c.toNat / 16), Hex.digit (c.toNat % 16)]
  else [c]

/-- A string between its quotes. -/
def quoteChars (cs : List Char) : List Char :=
  '"' :: cs.flatMap escapeChar ++ ['"']

mutual

def Value.chars : Value → List Char
  | .null => "null".toList
  | .bool true => "true".toList
  | .bool false => "false".toList
  | .nat n => Nat.toDigits 10 n
  | .number literal => literal
  | .str s => quoteChars s.toList
  | .arr items => '[' :: itemChars items
  | .obj fields => '{' :: fieldChars fields
  | .unpaired => "\"\\ud800\"".toList

/-- The items of an array up to the closing bracket. -/
def itemChars : List Value → List Char
  | [] => [']']
  | [v] => v.chars ++ [']']
  | v :: vs => v.chars ++ ',' :: itemChars vs

/-- The fields of an object up to the closing brace. -/
def fieldChars : List (String × Value) → List Char
  | [] => ['}']
  | [(name, v)] => quoteChars name.toList ++ ':' :: v.chars ++ ['}']
  | (name, v) :: fields => quoteChars name.toList ++ ':' :: v.chars ++ ',' :: fieldChars fields

end

theorem Value.chars_str (s : String) : (Value.str s).chars = quoteChars s.toList :=
  rfl

theorem Value.chars_arr (items : List Value) : (Value.arr items).chars = '[' :: itemChars items :=
  rfl

theorem Value.chars_obj (fields : List (String × Value)) :
    (Value.obj fields).chars = '\x7b' :: fieldChars fields :=
  rfl

def Value.text (v : Value) : String :=
  String.ofList v.chars

/-- The four blanks between the parts of a value. -/
def isBlank (c : Char) : Bool :=
  c == ' ' || c == '\t' || c == '\n' || c == '\r'

def skipBlanks (cs : List Char) : List Char :=
  cs.dropWhile isBlank

/-- A part of a string: a character, or a sixteen-bit unit given by an escape. -/
inductive Piece where
  | char (c : Char)
  | unit (n : Nat)
  deriving DecidableEq

/-- The first half of a surrogate pair. -/
def isHighHalf (n : Nat) : Bool :=
  decide (0xD800 ≤ n) && decide (n < 0xDC00)

/-- The second half of a surrogate pair. -/
def isLowHalf (n : Nat) : Bool :=
  decide (0xDC00 ≤ n) && decide (n < 0xE000)

/-- The characters of a string; there are none if a half of a pair stands alone. -/
def pairUp : List Piece → Option (List Char)
  | [] => some []
  | .char c :: ps => (pairUp ps).map (c :: ·)
  | .unit n :: ps =>
      if isHighHalf n then
        match ps with
        | .unit m :: ps =>
            if isLowHalf m then
              (pairUp ps).map (Char.ofNat (0x10000 + 0x400 * (n - 0xD800) + (m - 0xDC00)) :: ·)
            else none
        | _ => none
      else if isLowHalf n then none
      else (pairUp ps).map (Char.ofNat n :: ·)

/-- The character that an escape of one letter stands for. -/
def simpleEscape? (c : Char) : Option Char :=
  match c with
  | '"' => some '"'
  | '\\' => some '\\'
  | '/' => some '/'
  | 'b' => some (Char.ofNat 8)
  | 'f' => some (Char.ofNat 12)
  | 'n' => some '\n'
  | 'r' => some '\r'
  | 't' => some '\t'
  | _ => none

/-- Reads the parts of a string up to its closing quote. -/
def readPieces : List Char → Option (List Piece × List Char)
  | [] => none
  | '"' :: rest => some ([], rest)
  | '\\' :: 'u' :: a :: b :: c :: d :: rest =>
      match Hex.number? 0 [a, b, c, d] with
      | none => none
      | some n => (readPieces rest).map fun (ps, r) => (.unit n :: ps, r)
  | '\\' :: c :: rest =>
      match simpleEscape? c with
      | none => none
      | some e => (readPieces rest).map fun (ps, r) => (.char e :: ps, r)
  | c :: rest =>
      if c.toNat < 32 || c == '\\' then none
      else (readPieces rest).map fun (ps, r) => (.char c :: ps, r)

/-- Reads a string after its opening quote; the string has no text if a half of a pair stands
alone. -/
def readString (cs : List Char) : Option (Option String × List Char) :=
  (readPieces cs).map fun (ps, rest) => ((pairUp ps).map String.ofList, rest)

/-- The characters of number literals. -/
def isNumberChar (c : Char) : Bool :=
  c.isDigit || c == '-' || c == '+' || c == '.' || c == 'e' || c == 'E'

/-- Whether a text is digits, and at least one. -/
def isDigits (cs : List Char) : Bool :=
  !cs.isEmpty && cs.all Char.isDigit

/-- Whether a text is digits without a leading zero, or a single zero. -/
def isWhole (cs : List Char) : Bool :=
  isDigits cs && (cs.length == 1 || cs.head? != some '0')

/-- Whether a text is an exponent, or nothing. -/
def isExponent : List Char → Bool
  | [] => true
  | e :: rest =>
      (e == 'e' || e == 'E') &&
        match rest with
        | '+' :: ds => isDigits ds
        | '-' :: ds => isDigits ds
        | ds => isDigits ds

/-- Whether a text is a fraction, an exponent, both in this order, or nothing. -/
def isTail : List Char → Bool
  | '.' :: rest =>
      isDigits (rest.takeWhile Char.isDigit) && isExponent (rest.dropWhile Char.isDigit)
  | rest => isExponent rest

def isNumber (cs : List Char) : Bool :=
  let unsigned := match cs with
    | '-' :: rest => rest
    | _ => cs
  isWhole (unsigned.takeWhile Char.isDigit) && isTail (unsigned.dropWhile Char.isDigit)

def readNumber (cs : List Char) : Option (Value × List Char) :=
  let literal := cs.takeWhile isNumberChar
  let rest := cs.dropWhile isNumberChar
  if isWhole literal then some (.nat (Nat.ofDigitChars 10 literal 0), rest)
  else if isNumber literal then some (.number literal, rest)
  else none

/-- An object with the given fields; it has no text if a name has none. -/
def object (fields : List (Option String × Value)) : Value :=
  match fields.mapM fun (name, v) => name.map fun name => (name, v) with
  | none => .unpaired
  | some fields => .obj fields

mutual

/-- Reads a value at the head of a text, nested at most `bound` deep. -/
def readValue : (bound : Nat) → List Char → Option (Value × List Char)
  | 0, _ => none
  | bound + 1, cs =>
      match cs with
      | 'n' :: 'u' :: 'l' :: 'l' :: rest => some (.null, rest)
      | 't' :: 'r' :: 'u' :: 'e' :: rest => some (.bool true, rest)
      | 'f' :: 'a' :: 'l' :: 's' :: 'e' :: rest => some (.bool false, rest)
      | '"' :: rest =>
          (readString rest).map fun (s, r) => ((s.map Value.str).getD .unpaired, r)
      | '[' :: rest =>
          match skipBlanks rest with
          | ']' :: r => some (.arr [], r)
          | r => (readItems bound r).map fun (vs, r) => (.arr vs, r)
      | '{' :: rest =>
          match skipBlanks rest with
          | '}' :: r => some (.obj [], r)
          | r => (readFields bound r).map fun (fs, r) => (object fs, r)
      | _ => readNumber cs

/-- Reads the items of an array, at least one, and the closing bracket. -/
def readItems : (bound : Nat) → List Char → Option (List Value × List Char)
  | 0, _ => none
  | bound + 1, cs =>
      match readValue bound (skipBlanks cs) with
      | none => none
      | some (v, rest) =>
          match skipBlanks rest with
          | ',' :: r => (readItems bound r).map fun (vs, r) => (v :: vs, r)
          | ']' :: r => some ([v], r)
          | _ => none

/-- Reads the fields of an object, at least one, and the closing brace. -/
def readFields : (bound : Nat) → List Char → Option (List (Option String × Value) × List Char)
  | 0, _ => none
  | bound + 1, cs =>
      match skipBlanks cs with
      | '"' :: rest =>
          match readString rest with
          | none => none
          | some (name, rest) =>
              match skipBlanks rest with
              | ':' :: rest =>
                  match readValue bound (skipBlanks rest) with
                  | none => none
                  | some (v, rest) =>
                      match skipBlanks rest with
                      | ',' :: r => (readFields bound r).map fun (fs, r) => ((name, v) :: fs, r)
                      | '}' :: r => some ([(name, v)], r)
                      | _ => none
              | _ => none
      | _ => none

end

/-- The value that a text is, blanks before and after it allowed. -/
def Value.read? (s : String) : Option Value :=
  let cs := s.toList
  match readValue (2 * cs.length + 2) (skipBlanks cs) with
  | some (v, rest) => if (skipBlanks rest).isEmpty then some v else none
  | none => none

end Json

end GotoAutomaton
