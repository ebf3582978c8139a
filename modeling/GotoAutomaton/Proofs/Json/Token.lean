import GotoAutomaton.Json.Read
import GotoAutomaton.Text.Digits
import Mathlib.Tactic.SplitIfs

/-!
# Written strings and numbers

A written string ends at the quote behind it: every quote of its own is escaped, and each written
character is read as one part of the string, of which the parts together give the characters back.
A number written with digits has no leading zero, and ends where a text goes on with something that
cannot be part of a number.

Main statements: `readString_flatMap_escapeChar` and `readNumber_toDigits`, and that only the digits
of a number are read as this number without a sign, a fraction or an exponent
(`readNumber_eq_nat_iff`).
-/

namespace GotoAutomaton
namespace Json

/-- The part of a string as which a written character is read: its number for a control character
without an escape of one letter, and otherwise the character. -/
def pieceOf (c : Char) : Piece :=
  if c.toNat < 32 ∧ c.toNat ∉ [8, 9, 10, 12, 13] then .unit c.toNat else .char c

/-- A written character is read as one part of the string. -/
theorem readPieces_escapeChar
    (c : Char)
    (cs : List Char) :
    readPieces (escapeChar c ++ cs) =
      (readPieces cs).map fun (ps, rest) => (pieceOf c :: ps, rest) := by
  have hofNat (n : Nat) (h : c.toNat = n) : c = Char.ofNat n := by
    rw [← h, Char.ofNat_toNat]
  unfold escapeChar
  split_ifs with hquote hbackslash h8 h9 h10 h12 h13 hcontrol
  · subst hquote
    rfl
  · subst hbackslash
    rfl
  · rw [hofNat 8 h8]
    rfl
  · rw [hofNat 9 h9]
    rfl
  · rw [hofNat 10 h10]
    rfl
  · rw [hofNat 12 h12]
    rfl
  · rw [hofNat 13 h13]
    rfl
  · have hpiece : pieceOf c = .unit c.toNat := by
      simp [pieceOf, hcontrol, h8, h9, h10, h12, h13]
    simp [readPieces, Hex.number?_digits (Nat.lt_trans hcontrol (by decide)), hpiece]
  · have hpiece : pieceOf c = .char c := by
      simp [pieceOf, hcontrol]
    simp [readPieces, hbackslash, hcontrol, hpiece]

theorem readPieces_flatMap_escapeChar (cs rest : List Char) :
    readPieces (cs.flatMap escapeChar ++ '"' :: rest) = some (cs.map pieceOf, rest) := by
  induction cs with
  | nil =>
      rfl
  | cons c cs ih =>
      rw [List.flatMap_cons, List.append_assoc, readPieces_escapeChar, ih]
      rfl

/-- A unit that is no half of a pair stands for itself. -/
theorem pairUp_cons_unit
    {n : Nat}
    (hn : n < 0xD800)
    (ps : List Piece) :
    pairUp (.unit n :: ps) = (pairUp ps).map (Char.ofNat n :: ·) := by
  have hhigh : isHighHalf n = false := by
    simp [isHighHalf, Nat.not_le.2 hn]
  have hlow : isLowHalf n = false := by
    simp [isLowHalf, Nat.not_le.2 (Nat.lt_trans hn (by decide : 0xD800 < 0xDC00))]
  rw [pairUp.eq_def]
  simp only [hhigh, hlow, Bool.false_eq_true, if_false]

theorem pairUp_map_pieceOf (cs : List Char) : pairUp (cs.map pieceOf) = some cs := by
  induction cs with
  | nil =>
      rfl
  | cons c cs ih =>
      rw [List.map_cons, pieceOf]
      split
      next hcontrol =>
          rw [pairUp_cons_unit (Nat.lt_trans hcontrol.1 (by decide)), ih, Char.ofNat_toNat]
          rfl
      next =>
          rw [pairUp, ih]
          rfl

/-- A written string is read up to its closing quote, and as what was written. -/
theorem readString_flatMap_escapeChar (cs rest : List Char) :
    readString (cs.flatMap escapeChar ++ '"' :: rest) = some (some (String.ofList cs), rest) := by
  rw [readString, readPieces_flatMap_escapeChar]
  simp only [Option.map_some, pairUp_map_pieceOf]

/-- A text cannot go on with a number: it is at its end or starts with something else. -/
def EndsNumber (rest : List Char) : Prop :=
  ∀ c ∈ rest.head?, isNumberChar c = false

theorem endsNumber_nil : EndsNumber [] := by
  intro c hc
  cases hc

theorem isNumberChar_of_isDigit
    {c : Char}
    (hc : c.isDigit = true) :
    isNumberChar c = true := by
  simp [isNumberChar, hc]

/-- A number is read as far as its characters go. -/
theorem readNumber_append
    {literal rest : List Char}
    (hliteral : ∀ c ∈ literal, isNumberChar c = true)
    (hrest : EndsNumber rest) :
    readNumber (literal ++ rest) =
      if isWhole literal then some (.nat (Nat.ofDigitChars 10 literal 0), rest)
      else if isNumber literal then some (.number literal, rest)
      else none := by
  have htake : (literal ++ rest).takeWhile isNumberChar = literal := by
    rw [List.takeWhile_append_of_pos hliteral]
    cases rest with
    | nil =>
        simp
    | cons c rest =>
        simp [hrest c rfl]
  have hdrop : (literal ++ rest).dropWhile isNumberChar = rest := by
    rw [List.dropWhile_append_of_pos hliteral]
    cases rest with
    | nil =>
        rfl
    | cons c rest =>
        simp [hrest c rfl]
  rw [readNumber, htake, hdrop]

theorem isNumberChar_of_mem_toDigits
    {n : Nat}
    {c : Char}
    (hc : c ∈ Nat.toDigits 10 n) :
    isNumberChar c = true :=
  isNumberChar_of_isDigit (Digits.isDigit_of_mem_toDigits hc)

theorem isWhole_toDigits (n : Nat) : isWhole (Nat.toDigits 10 n) = true := by
  have hdigits : isDigits (Nat.toDigits 10 n) = true := by
    have hall : (Nat.toDigits 10 n).all Char.isDigit = true :=
      List.all_eq_true.2 fun c hc => Digits.isDigit_of_mem_toDigits hc
    simp [isDigits, hall]
  rw [isWhole, hdigits, Bool.true_and, Bool.or_eq_true]
  cases n with
  | zero =>
      exact Or.inl rfl
  | succ n =>
      right
      simpa using Digits.head?_toDigits_ne_zero (Nat.succ_pos n)

theorem readNumber_toDigits
    (n : Nat)
    {rest : List Char}
    (hrest : EndsNumber rest) :
    readNumber (Nat.toDigits 10 n ++ rest) = some (.nat n, rest) := by
  have hchars : ∀ c ∈ Nat.toDigits 10 n, isNumberChar c = true :=
    fun _ hc => isNumberChar_of_mem_toDigits hc
  rw [readNumber_append hchars hrest, if_pos (isWhole_toDigits n),
    Nat.ofDigitChars_toDigits (by decide) (Nat.le_refl 10)]

/-- Whole numbers are written with the digits of their values.  One that starts with a zero is the
zero. -/
theorem toDigits_ofDigitChars_of_isWhole
    {cs : List Char}
    (h : isWhole cs = true) :
    Nat.toDigits 10 (Nat.ofDigitChars 10 cs 0) = cs := by
  simp only [isWhole, isDigits, Bool.and_eq_true, Bool.or_eq_true, Bool.not_eq_true',
    List.isEmpty_eq_false_iff, List.all_eq_true, beq_iff_eq, bne_iff_ne] at h
  obtain ⟨⟨hne, hdigits⟩, hzero⟩ := h
  obtain ⟨c, cs, rfl⟩ := List.exists_cons_of_ne_nil hne
  obtain ⟨hlt, hchar⟩ := Digits.digitChar_of_isDigit (hdigits c List.mem_cons_self)
  by_cases hc : c = '0'
  · subst hc
    have hlength := hzero.resolve_right fun hhead => hhead rfl
    rw [List.length_cons, Nat.add_eq_right, List.length_eq_zero_iff] at hlength
    subst hlength
    rfl
  · have hpos : 0 < c.toNat - '0'.toNat := by
      rw [Nat.pos_iff_ne_zero]
      intro hvalue
      rw [hvalue] at hchar
      exact hc hchar.symm
    rw [Nat.ofDigitChars_cons, Nat.mul_zero, Nat.zero_add,
      Digits.toDigits_ofDigitChars hpos fun d hd => hdigits d (List.mem_cons_of_mem _ hd),
      Nat.toDigits_of_lt_base hlt, hchar, List.singleton_append]

/-- A literal is a number of digits only if it consists of the digits of the number. -/
theorem readNumber_eq_nat_iff
    {literal : List Char}
    {n : Nat} :
    readNumber literal = some (.nat n, []) ↔ literal = Nat.toDigits 10 n := by
  constructor
  · intro h
    have hsplit := List.takeWhile_append_dropWhile (p := isNumberChar) (l := literal)
    simp only [readNumber] at h
    split_ifs at h with hwhole
    · simp only [Option.some.injEq, Prod.mk.injEq, Value.nat.injEq] at h
      obtain ⟨rfl, hrest⟩ := h
      rw [hrest, List.append_nil] at hsplit
      rw [toDigits_ofDigitChars_of_isWhole hwhole, hsplit]
    · simp only [Option.some.injEq, Prod.mk.injEq, reduceCtorEq, false_and] at h
  · rintro rfl
    have hread := readNumber_toDigits n endsNumber_nil
    rwa [List.append_nil] at hread

end Json
end GotoAutomaton
