import GotoAutomaton.Text.Digits
import GotoAutomaton.Toml.Text

/-!
# Keys and scalars

The end of a key or of a value without brackets is found whether or not it is a good one: quoted
text ends at its closing quotes, everything else at the next bracket, comma, equals sign, comment
or line end, or at blanks.  Keys end at dots, too.

In numbers underscores may stand between two digits.  Decimal integers and the whole part of a
floating-point number have no leading zeros and may have a sign; integers to the bases sixteen,
eight and two have no sign and may have leading zeros.  Some texts pass for integers though they are
none, which only matters to who looks at their value.

A date is a day of the calendar, a time goes to the minute or further, and only a date with a time
may tell its distance from universal time.  The configuration has no use for the moment itself, so
all that is decided here is whether a text is one.
-/

namespace GotoAutomaton

namespace Toml

/-- The digits of a text in which single underscores stand between digits only. -/
def ungroup (isDigit : Char → Bool) : List Char → Option (List Char)
  | [] => none
  | [c] => if isDigit c then some [c] else none
  | c :: '_' :: cs => if isDigit c then (ungroup isDigit cs).map (c :: ·) else none
  | c :: cs => if isDigit c then (ungroup isDigit cs).map (c :: ·) else none

def wholeDigits (cs : List Char) : Option (List Char) :=
  match ungroup Char.isDigit cs with
  | some ['0'] => some ['0']
  | some ('0' :: _) => none
  | digits => digits

/-- The number that decimal digits stand for. -/
def decimal (digits : List Char) : Nat :=
  Nat.ofDigitChars 10 digits 0

/-- A text without its sign, and whether the sign is a minus. -/
def splitSign : List Char → Bool × List Char
  | '+' :: cs => (false, cs)
  | '-' :: cs => (true, cs)
  | cs => (false, cs)

def signed (negative : Bool) (n : Nat) : Int :=
  if negative then -(n : Int) else n

def readDecimal (cs : List Char) : Option Int :=
  let (negative, cs) := splitSign cs
  (wholeDigits cs).map fun digits => signed negative (decimal digits)

/-- Whether a character is a digit to a base up to sixteen. -/
def isDigitTo (base : Nat) (c : Char) : Bool :=
  match Hex.value? c with
  | none => false
  | some d => decide (d < base)

/-- The number that digits to a base stand for, given what the digits before them stand for. -/
def numberTo (base acc : Nat) : List Char → Nat
  | [] => acc
  | c :: cs => numberTo base (base * acc + (Hex.value? c).getD 0) cs

/-- Reads the digits of an integer to a base. -/
def readTo (base : Nat) (cs : List Char) : Option Int :=
  (ungroup (isDigitTo base) cs).map fun digits => (numberTo base 0 digits : Int)

def readInteger : List Char → Option Int
  | '0' :: 'x' :: cs => readTo 16 cs
  | '0' :: 'o' :: cs => readTo 8 cs
  | '0' :: 'b' :: cs => readTo 2 cs
  | cs => readDecimal cs

/-- Whether every underscore stands between hexadecimal digits, given whether one stands before
the text. -/
def isGrouped (afterDigit : Bool) : List Char → Bool
  | [] => true
  | c :: cs =>
      if c == '_' then afterDigit && (cs.head?.any (isDigitTo 16)) && isGrouped false cs
      else isGrouped (isDigitTo 16 c) cs

/-- Whether a text is taken for an integer without standing for one: a mark of a base without
digits, or digits with an underscore after them and anything after that but spaces and what makes
a floating-point number. -/
def isIntLike (cs : List Char) : Bool :=
  cs == "0x".toList || cs == "0o".toList || cs == "0b".toList ||
    let (_, cs) := splitSign cs
    let rest := cs.dropWhile Char.isDigit
    cs.head?.any (fun c => c.isDigit && c != '0') && rest.head? == some '_' &&
      isGrouped true rest && rest.all fun c => !" .eE".contains c

/-- Reads an exponent after its letter. -/
def readExponent (cs : List Char) : Option Int :=
  let (negative, cs) := splitSign cs
  (ungroup Char.isDigit cs).map fun digits => signed negative (decimal digits)

/-- Whether a character starts an exponent. -/
def isExponentMark (c : Char) : Bool :=
  c == 'e' || c == 'E'

/-- Reads a fraction, an exponent or both after the digits of the whole part. -/
def readTail (whole cs : List Char) : Option Magnitude :=
  match cs with
  | '.' :: cs =>
      match ungroup Char.isDigit (cs.takeWhile fun c => !isExponentMark c),
          cs.dropWhile fun c => !isExponentMark c with
      | some fraction, [] =>
          some (.decimal (decimal (whole ++ fraction)) (-(fraction.length : Int)))
      | some fraction, _ :: exponent =>
          (readExponent exponent).map fun e =>
            .decimal (decimal (whole ++ fraction)) (e - fraction.length)
      | none, _ => none
  | mark :: exponent =>
      if isExponentMark mark then (readExponent exponent).map fun e => .decimal (decimal whole) e
      else none
  | [] => none

def readFloat (cs : List Char) : Option Magnitude :=
  let (_, cs) := splitSign cs
  if cs == "inf".toList || cs == "nan".toList then some .special
  else
    let inWhole c := c.isDigit || c == '_'
    (wholeDigits (cs.takeWhile inWhole)).bind fun whole =>
      readTail whole (cs.dropWhile inWhole)

/-- Whether an integer has 128 bits at most, with or without a sign. -/
def integerFits (n : Int) : Bool :=
  decide (-(Nat.pow 2 127 : Nat) ≤ n) && decide (n < (Nat.pow 2 128 : Nat))

/-- The least number that is rounded to infinity: halfway between the largest finite number of 64
bits and the power of two after it. -/
def infinityBound : Nat :=
  Nat.pow 2 1024 - Nat.pow 2 970

/-- Whether a decimal number is rounded to a finite number of 64 bits.  The first two tests spare
the powers of ten that the last one takes where the digits alone decide. -/
def Magnitude.fits : Magnitude → Bool
  | special => true
  | decimal m e =>
      let places := ((Nat.toDigits 10 m).length : Int) + e
      if m = 0 ∨ places < 309 then true
      else if 309 < places then false
      else decide (m * Nat.pow 10 e.toNat < infinityBound * Nat.pow 10 (-e).toNat)

/-- Reads a number of exactly so many digits. -/
def readFixed (count : Nat) (cs : List Char) : Option (Nat × List Char) :=
  let digits := cs.take count
  if digits.length = count ∧ digits.all Char.isDigit then
    some (Nat.ofDigitChars 10 digits 0, cs.drop count)
  else none

/-- Reads two digits that stand for at most the given number. -/
def readUpTo (most : Nat) (cs : List Char) : Option (List Char) :=
  match readFixed 2 cs with
  | some (n, rest) => if n ≤ most then some rest else none
  | none => none

/-- What follows a character at the head of a text. -/
def after (c : Char) : List Char → Option (List Char)
  | [] => none
  | d :: rest => if d = c then some rest else none

def isLeap (year : Nat) : Bool :=
  year % 4 == 0 && (year % 100 != 0 || year % 400 == 0)

def daysIn (year month : Nat) : Nat :=
  if month = 2 then (if isLeap year then 29 else 28)
  else if month = 4 ∨ month = 6 ∨ month = 9 ∨ month = 11 then 30
  else 31

def readDate (cs : List Char) : Option (List Char) := do
  let (year, cs) ← readFixed 4 cs
  let cs ← after '-' cs
  let (month, cs) ← readFixed 2 cs
  let cs ← after '-' cs
  let (day, cs) ← readFixed 2 cs
  if 1 ≤ month ∧ month ≤ 12 ∧ 1 ≤ day ∧ day ≤ daysIn year month then some cs else none

/-- Reads a fraction of a second, if there is one. -/
def readFraction : List Char → Option (List Char)
  | '.' :: cs =>
      if (cs.takeWhile Char.isDigit).isEmpty then none else some (cs.dropWhile Char.isDigit)
  | cs => some cs

/-- Reads seconds, if there are any; a leap second is the sixtieth. -/
def readSeconds : List Char → Option (List Char)
  | ':' :: cs => (readUpTo 60 cs).bind readFraction
  | cs => some cs

def readTime (cs : List Char) : Option (List Char) :=
  (readUpTo 23 cs).bind fun cs => (after ':' cs).bind fun cs =>
    (readUpTo 59 cs).bind readSeconds

/-- Reads a distance from universal time. -/
def readOffset : List Char → Option (List Char)
  | [] => none
  | c :: cs =>
      if c == 'Z' || c == 'z' then some cs
      else if c == '+' || c == '-' then
        (readUpTo 23 cs).bind fun cs => (after ':' cs).bind (readUpTo 59)
      else none

/-- Whether a text is a date and nothing else. -/
def isDate (cs : List Char) : Bool :=
  readDate cs == some []

/-- Whether a text is a date, a time, or both with or without an offset. -/
def isMoment (cs : List Char) : Bool :=
  isDate cs || readTime cs == some [] ||
    match readDate cs with
    | some (c :: time) =>
        (c == 'T' || c == 't' || c == ' ') &&
          match readTime time with
          | some rest => rest.isEmpty || readOffset rest == some []
          | none => false
    | _ => false

/-- The characters that do not end a text without quotes. -/
def isPlain (c : Char) : Bool :=
  !(isBlank c || ['=', ',', '[', ']', '{', '}', '#', '\r', '\n'].contains c)

/-- The characters of keys without quotes. -/
def isKeyChar (c : Char) : Bool :=
  c.isAlphanum || c == '-' || c == '_'

/-- Finds the end of a quoted key after its first quote and tells which key it is.  In three quotes
there is no good key. -/
def readQuotedKey (quote : Char) (cs : List Char) : Option String × List Char :=
  let (q, cs) := Quotation.ofOpening quote cs
  let (key, rest) := q.read cs
  (if q.long then none else key, rest)

/-- Whether a character does not end a key without quotes. -/
def isInKey (c : Char) : Bool :=
  isPlain c && c != '.'

/-- Finds the end of a key, if there is one, and tells which key it is, if it is a good one. -/
def readKey (cs : List Char) : Option (Option String × List Char) :=
  match cs with
  | '"' :: rest => some (readQuotedKey '"' rest)
  | '\'' :: rest => some (readQuotedKey '\'' rest)
  | _ =>
      let key := cs.takeWhile isInKey
      if key.isEmpty then none
      else
        some (if key.all isKeyChar then some (String.ofList key) else none, cs.dropWhile isInKey)

/-- The value that a text without quotes or brackets is. -/
def ofPlain? (cs : List Char) : Option Value :=
  if cs == "true".toList then some (.bool true)
  else if cs == "false".toList then some (.bool false)
  else
    match readInteger cs, readFloat cs with
    | some n, _ => some (.int n)
    | none, some magnitude => some (.float magnitude)
    | none, none =>
        if isIntLike cs then some .intLike
        else if isMoment cs then some .moment
        else none

/-- Whether a character starts a text that is neither quoted nor behind a dot. -/
def isWordStart (c : Char) : Bool :=
  isPlain c && !(['.', '"', '\''].contains c)

/-- The text without quotes at the head of another, given whether it starts within a word.  Blanks
belong to it if a word follows them, as between a date and a time; quotes do within words only. -/
def takePlain (inWord : Bool) : List Char → List Char
  | [] => []
  | c :: cs =>
      if c == '.' then c :: takePlain false cs
      else if isWordStart c || isPlain c && inWord then c :: takePlain true cs
      else if isBlank c && (cs.dropWhile isBlank).head?.any isWordStart then
        c :: takePlain false cs
      else []

/-- Finds the end of a quoted text after its first quote and tells which text it is. -/
def readText (quote : Char) (cs : List Char) : Option Value × List Char :=
  let (q, cs) := Quotation.ofOpening quote cs
  let (s, rest) := q.read cs
  (s.map .str, rest)

/-- Finds the end of a value without brackets and tells which value it is, if it is a good one. -/
def readScalar (cs : List Char) : Option Value × List Char :=
  match cs with
  | '"' :: rest => readText '"' rest
  | '\'' :: rest => readText '\'' rest
  | _ =>
      let text := takePlain false cs
      (ofPlain? text, cs.drop text.length)

end Toml

end GotoAutomaton
