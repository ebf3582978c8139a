/-!
# Digits and scalar values

Escapes in quoted text name a character by its number in hexadecimal.  Not every number names a
character: the surrogates and everything beyond the last code point do not.  Decimal digits are the
digits with which a number is written, and the number as which digits are read.

Main statements: a number below 256 that is written with two hexadecimal digits reads back
(`Hex.number?_digits`), every character is found by its number (`Hex.scalar?_toNat`), and decimal
digits behind those of a positive number are kept when the number is read and written again
(`Digits.toDigits_ofDigitChars`).
-/

namespace GotoAutomaton

namespace Hex

/-- The value of a hexadecimal digit of either case. -/
def value? (c : Char) : Option Nat :=
  if '0' ≤ c ∧ c ≤ '9' then some (c.toNat - '0'.toNat)
  else if 'a' ≤ c ∧ c ≤ 'f' then some (c.toNat - 'a'.toNat + 10)
  else if 'A' ≤ c ∧ c ≤ 'F' then some (c.toNat - 'A'.toNat + 10)
  else none

/-- The number that digits stand for, given the number that the digits before them stand for. -/
def number? (acc : Nat) : List Char → Option Nat
  | [] => some acc
  | c :: cs => (value? c).bind fun d => number? (16 * acc + d) cs

/-- The lower-case digit of a value below sixteen. -/
def digit (n : Nat) : Char :=
  if n < 10 then Char.ofNat ('0'.toNat + n) else Char.ofNat ('a'.toNat + (n - 10))

/-- The character with a number, if the number is a scalar value. -/
def scalar? (n : Nat) : Option Char :=
  if n < 0xD800 ∨ 0xDFFF < n ∧ n < 0x110000 then some (Char.ofNat n) else none

theorem value?_digit : ∀ n, n < 16 → value? (digit n) = some n := by
  decide

/-- Two digits behind two zeros. -/
theorem number?_digits
    {n : Nat}
    (hn : n < 256) :
    number? 0 ['0', '0', digit (n / 16), digit (n % 16)] = some n := by
  have hhigh := value?_digit (n / 16) (by omega)
  have hlow := value?_digit (n % 16) (by omega)
  have hzero : value? '0' = some 0 := by
    decide
  simp only [number?, hzero, hhigh, hlow, Option.bind_some, Option.some.injEq]
  omega

theorem scalar?_toNat (c : Char) : scalar? c.toNat = some c := by
  have hvalid : c.toNat < 0xD800 ∨ 0xDFFF < c.toNat ∧ c.toNat < 0x110000 := c.valid
  rw [scalar?, if_pos hvalid, Char.ofNat_toNat]

end Hex

namespace Digits

theorem isDigit_of_mem_toDigits
    {n : Nat}
    {c : Char}
    (hc : c ∈ Nat.toDigits 10 n) :
    c.isDigit = true :=
  Nat.isDigit_of_mem_toDigits (by decide) (Nat.le_refl 10) hc

/-- The digits of a positive number do not start with a zero. -/
theorem head?_toDigits_ne_zero
    {n : Nat}
    (hn : 0 < n) :
    (Nat.toDigits 10 n).head? ≠ some '0' := by
  induction n using Nat.strongRecOn with
  | ind n ih =>
      by_cases hsmall : n < 10
      · have hdigit : ∀ d, d < 10 → 0 < d → d.digitChar ≠ '0' := by
          decide
        rw [Nat.toDigits_of_lt_base hsmall, List.head?_cons, Ne, Option.some.injEq]
        exact hdigit n hsmall hn
      · have hhead := ih (n / 10) (by omega) (by omega)
        rw [Nat.toDigits_of_base_le (by decide) (by omega), List.head?_append]
        cases h : (Nat.toDigits 10 (n / 10)).head? with
        | none =>
            exact absurd (List.head?_eq_none_iff.1 h) Nat.toDigits_ne_nil
        | some d =>
            rw [h] at hhead
            exact hhead

theorem digitChar_of_isDigit
    {c : Char}
    (hc : c.isDigit = true) :
    c.toNat - '0'.toNat < 10 ∧ (c.toNat - '0'.toNat).digitChar = c := by
  have hdigits : ∀ d < 10, d.digitChar = Char.ofNat (48 + d) := by
    decide
  simp only [Char.isDigit, Bool.and_eq_true, decide_eq_true_eq, UInt32.le_iff_toNat_le] at hc
  have hlow : 48 ≤ c.toNat := hc.1
  have hhigh : c.toNat ≤ 57 := hc.2
  have hzero : '0'.toNat = 48 := rfl
  rw [hzero]
  refine ⟨by omega, ?_⟩
  rw [hdigits _ (by omega), Nat.add_sub_cancel' hlow, Char.ofNat_toNat]

/-- Reading further digits behind those of a positive number. -/
theorem toDigits_ofDigitChars
    {n : Nat}
    (hn : 0 < n)
    {cs : List Char}
    (hcs : ∀ c ∈ cs, c.isDigit = true) :
    Nat.toDigits 10 (Nat.ofDigitChars 10 cs n) = Nat.toDigits 10 n ++ cs := by
  induction cs generalizing n with
  | nil =>
      rw [Nat.ofDigitChars_nil, List.append_nil]
  | cons c cs ih =>
      obtain ⟨hlt, hchar⟩ := digitChar_of_isDigit (hcs c List.mem_cons_self)
      rw [Nat.ofDigitChars_cons, ih (by omega) fun d hd => hcs d (List.mem_cons_of_mem _ hd),
        ← Nat.toDigits_append_toDigits (by decide) hn hlt, Nat.toDigits_of_lt_base hlt, hchar,
        List.append_assoc, List.singleton_append]

end Digits

end GotoAutomaton
