import GotoAutomaton.Text.Digits
import GotoAutomaton.Toml.Scalar
import GotoAutomaton.Toml.Text

/-!
# Written text and scalars

A text in double quotes reads back as what it was written for, whichever way its characters are
escaped: an escape ends where the next character begins, and no character of the text can be taken
for the quote at its end.

A value that stands alone on the rest of a line is read up to the end of the line.  Truth values and
numbers are words without anything that ends a word, and text in double quotes ends at its own
quotes.

Main statements: `Quotation.read_of_spellsAll`, that the text written by `quoteText` is one of those
that can be written (`quotes_quoteText`), and `writes_bool`, `writes_nat` and `writes_text`.
-/

namespace GotoAutomaton

namespace Toml

/-- Text between single double quotes. -/
def Quotation.plain : Quotation :=
  ⟨'"', false⟩

/-- A character of a class is none that the class does not have. -/
theorem ne_of_class
    {p : Char → Bool}
    {c d : Char}
    (hc : p c = true)
    (hd : p d = false) :
    c ≠ d := by
  rintro rfl
  rw [hd] at hc
  cases hc

theorem readNumbered_append
    {c : Char}
    {digits : List Char}
    (hdigits : Hex.number? 0 digits = some c.toNat)
    (rest : List Char) :
    readNumbered digits.length (digits ++ rest) = some (c, rest) := by
  simp [readNumbered, hdigits, Hex.scalar?_toNat]

theorem readEscape_letter
    {l c : Char}
    (hletter : (l, c) ∈ escapeLetters)
    (rest : List Char) :
    readEscape (l :: rest) = some (c, rest) := by
  simp only [escapeLetters, List.mem_cons, Prod.mk.injEq, List.not_mem_nil, or_false] at hletter
  rcases hletter with h | h | h | h | h | h | h | h <;> obtain ⟨rfl, rfl⟩ := h <;> rfl

theorem readEscape_number
    {mark c : Char}
    {digits : List Char}
    (hmark : (mark, digits.length) ∈ escapeMarks)
    (hdigits : Hex.number? 0 digits = some c.toNat)
    (rest : List Char) :
    readEscape (mark :: (digits ++ rest)) = some (c, rest) := by
  have hread := readNumbered_append hdigits rest
  simp only [escapeMarks, List.mem_cons, Prod.mk.injEq, List.not_mem_nil, or_false] at hmark
  rcases hmark with ⟨rfl, hlength⟩ | ⟨rfl, hlength⟩ | ⟨rfl, hlength⟩ <;>
    rw [hlength] at hread <;> exact hread

theorem isAllowed_iff
    {c : Char} :
    isAllowed c = true ↔ c = '\t' ∨ 32 ≤ c.toNat ∧ c.toNat ≠ 127 := by
  simp [isAllowed]

namespace Quotation

theorem readTo_quote
    (bound : Nat)
    (rest : List Char) :
    plain.readTo (bound + 1) ('"' :: rest) = (some [], rest) := by
  simp [plain, readTo, close?]

/-- A character that is written as it is.  It is allowed, so it starts no line end. -/
theorem readTo_allowed
    {c : Char}
    (hquote : c ≠ '"')
    (hbackslash : c ≠ '\\')
    (hc : isAllowed c = true)
    (bound : Nat)
    (cs : List Char) :
    plain.readTo (bound + 1) (c :: cs) = keep [c] (plain.readTo bound cs) := by
  have hnewline : c ≠ '\n' := ne_of_class hc (by decide)
  have hreturn : c ≠ '\r' := ne_of_class hc (by decide)
  simp [plain, readTo, close?, hquote, hbackslash, hc, hreturn]

/-- A character that is escaped. -/
theorem readTo_escape
    {c : Char}
    {cs rest : List Char}
    (hescape : readEscape cs = some (c, rest))
    (bound : Nat) :
    plain.readTo (bound + 1) ('\\' :: cs) = keep [c] (plain.readTo bound rest) := by
  simp [plain, readTo, close?, hasEscapes, hescape]

/-- However a character is written, it is read in one step. -/
theorem readTo_of_spells
    {c : Char}
    {text : List Char}
    (htext : Spells c text)
    (bound : Nat)
    (rest : List Char) :
    plain.readTo (bound + 1) (text ++ rest) = keep [c] (plain.readTo bound rest) := by
  cases htext with
  | plain hquote hbackslash hc =>
      exact readTo_allowed hquote hbackslash (isAllowed_iff.2 hc) bound rest
  | letter hletter =>
      exact readTo_escape (readEscape_letter hletter rest) bound
  | number hmark hdigits =>
      exact readTo_escape (readEscape_number hmark hdigits rest) bound

/-- A written text is read up to its closing quote, and as what it was written for. -/
theorem readTo_of_spellsAll
    {cs text : List Char}
    (htext : SpellsAll cs text)
    {bound : Nat}
    (hbound : text.length < bound)
    (rest : List Char) :
    plain.readTo bound (text ++ '"' :: rest) = (some cs, rest) := by
  induction htext generalizing bound with
  | nil =>
      obtain ⟨bound, rfl⟩ := Nat.exists_eq_succ_of_ne_zero (Nat.ne_zero_of_lt hbound)
      exact readTo_quote bound rest
  | @cons c cs text texts hc _ ih =>
      obtain ⟨bound, rfl⟩ := Nat.exists_eq_succ_of_ne_zero (Nat.ne_zero_of_lt hbound)
      have hlength : 0 < text.length := by
        cases hc <;> simp
      rw [List.length_append] at hbound
      rw [List.append_assoc, readTo_of_spells hc, ih (by omega)]
      rfl

theorem read_of_spellsAll
    {cs text : List Char}
    (htext : SpellsAll cs text)
    (rest : List Char) :
    plain.read (text ++ '"' :: rest) = (some (String.ofList cs), rest) := by
  have hbound : text.length < (text ++ '"' :: rest).length + 1 := by
    rw [List.length_append]
    omega
  rw [read, readTo_of_spellsAll htext hbound]
  rfl

theorem ofOpening_of_ne
    {quote c : Char}
    (hc : c ≠ quote)
    (cs : List Char) :
    ofOpening quote (c :: cs) = (⟨quote, false⟩, c :: cs) := by
  cases cs <;> simp [ofOpening, hc]

/-- Text in double quotes is not taken for text in three. -/
theorem ofOpening_of_spellsAll
    {cs text : List Char}
    (htext : SpellsAll cs text)
    {c : Char}
    (hc : c ≠ '"')
    (rest : List Char) :
    ofOpening '"' (text ++ '"' :: c :: rest) = (plain, text ++ '"' :: c :: rest) := by
  cases htext with
  | nil =>
      simp [ofOpening, plain, hc]
  | cons hchar _ =>
      cases hchar with
      | plain hquote =>
          exact ofOpening_of_ne hquote _
      | letter =>
          exact ofOpening_of_ne (by decide) _
      | number =>
          exact ofOpening_of_ne (by decide) _

end Quotation

theorem spells_escapeChar (c : Char) : Spells c (escapeChar c) := by
  unfold escapeChar
  split
  · next hquote =>
      subst hquote
      exact .letter (by decide)
  · next hquote =>
      split
      · next hbackslash =>
          subst hbackslash
          exact .letter (by decide)
      · next hbackslash =>
          split
          · next hcontrol =>
              exact .number (by simp [escapeMarks]) (Hex.number?_digits (by omega))
          · next hcontrol =>
              exact .plain hquote hbackslash (by omega)

theorem spellsAll_flatMap_escapeChar (cs : List Char) :
    SpellsAll cs (cs.flatMap escapeChar) := by
  induction cs with
  | nil =>
      exact .nil
  | cons c cs ih =>
      exact .cons (spells_escapeChar c) ih

theorem quotes_quoteText (s : String) : Quotes s (quoteText s) :=
  ⟨_, spellsAll_flatMap_escapeChar s.toList, String.toList_ofList⟩

/-- A text stands for a value on the rest of a line. -/
structure Writes (value : Value) (text : String) : Prop where
  /-- It starts with something that is no blank, comment or bracket. -/
  head : ∃ c cs, text.toList = c :: cs ∧ isPlain c = true
  readScalar : ∀ rest, readScalar (text.toList ++ '\n' :: rest) = (some value, '\n' :: rest)

/-- The characters that start no word. -/
def marks : List Char :=
  [' ', '\t', '=', ',', '[', ']', '{', '}', '#', '\r', '\n', '.', '"', '\'']

theorem isWordStart_eq (c : Char) : isWordStart c = !marks.contains c := by
  simp only [isWordStart, isPlain, isBlank, marks, List.contains_cons, Bool.not_or, Bool.and_assoc,
    List.contains_nil, Bool.not_false, Bool.and_true]

/-- A class of characters that has none of the marks. -/
theorem isWordStart_of_class
    {p : Char → Bool}
    (hp : marks.any p = false)
    {c : Char}
    (hc : p c = true) :
    isWordStart c = true := by
  have hmark : c ∉ marks := fun hmark => List.any_eq_false.1 hp c hmark hc
  rw [isWordStart_eq, Bool.not_eq_true', List.contains_eq_mem, decide_eq_false hmark]

theorem isPlain_of_isWordStart
    {c : Char}
    (hc : isWordStart c = true) :
    isPlain c = true := by
  simp only [isWordStart, Bool.and_eq_true] at hc
  exact hc.1

/-- A word goes on to the end of its line. -/
theorem takePlain_append
    {word : List Char}
    (hword : ∀ c ∈ word, isWordStart c = true)
    (inWord : Bool)
    (rest : List Char) :
    takePlain inWord (word ++ '\n' :: rest) = word := by
  induction word generalizing inWord with
  | nil =>
      simp [takePlain, isWordStart, isPlain, isBlank]
  | cons c word ih =>
      have hc := hword c List.mem_cons_self
      have hdot : c ≠ '.' := ne_of_class hc (by decide)
      have htail := ih fun d hd => hword d (List.mem_cons_of_mem c hd)
      simp [takePlain, hdot, hc, htail]

/-- A word is read as what it stands for. -/
theorem writes_of_word
    {text : String}
    {value : Value}
    (hne : text.toList ≠ [])
    (hword : ∀ c ∈ text.toList, isWordStart c = true)
    (hvalue : ofPlain? text.toList = some value) :
    Writes value text := by
  obtain ⟨c, cs, htext⟩ := List.exists_cons_of_ne_nil hne
  have hc : isWordStart c = true := hword c (htext ▸ List.mem_cons_self)
  refine ⟨⟨c, cs, htext, isPlain_of_isWordStart hc⟩, fun rest => ?_⟩
  have hquote : c ≠ '"' := ne_of_class hc (by decide)
  have happostrophe : c ≠ '\'' := ne_of_class hc (by decide)
  have htake := takePlain_append hword false rest
  rw [htext] at hvalue htake ⊢
  rw [List.cons_append] at htake ⊢
  simp [readScalar, hquote, happostrophe, htake, hvalue]

theorem writes_bool (b : Bool) : Writes (.bool b) (if b then "true" else "false") := by
  cases b with
  | false =>
      exact writes_of_word (by decide) (List.all_eq_true.1 (by decide)) (by rfl)
  | true =>
      exact writes_of_word (by decide) (List.all_eq_true.1 (by decide)) (by rfl)

/-- The digits of a number are no word with another meaning. -/
theorem ungroup_of_isDigit
    {cs : List Char}
    (hne : cs ≠ [])
    (hcs : ∀ c ∈ cs, c.isDigit = true) :
    ungroup Char.isDigit cs = some cs := by
  induction cs with
  | nil =>
      exact absurd rfl hne
  | cons c cs ih =>
      have hc := hcs c List.mem_cons_self
      cases cs with
      | nil =>
          simp [ungroup, hc]
      | cons d cs =>
          have htail := ih (List.cons_ne_nil d cs) fun e he => hcs e (List.mem_cons_of_mem c he)
          have hunderscore : d ≠ '_' := ne_of_class (hcs d (by simp)) (by decide)
          rw [ungroup, if_pos hc, htail, Option.map_some]
          · simp
          · simpa using hunderscore

/-- A number has no leading zero. -/
theorem wholeDigits_toDigits (n : Nat) :
    wholeDigits (Nat.toDigits 10 n) = some (Nat.toDigits 10 n) := by
  have hdigits : ungroup Char.isDigit (Nat.toDigits 10 n) = some (Nat.toDigits 10 n) :=
    ungroup_of_isDigit Nat.toDigits_ne_nil fun c hc => Digits.isDigit_of_mem_toDigits hc
  rw [wholeDigits, hdigits]
  cases n with
  | zero =>
      rfl
  | succ n =>
      have hhead : (Nat.toDigits 10 (n + 1)).head? ≠ some '0' :=
        Digits.head?_toDigits_ne_zero (Nat.succ_pos n)
      split
      · next h =>
          rw [h]
      · next h =>
          rw [Option.some.inj h] at hhead
          exact absurd rfl hhead
      · rfl

/-- Digits have no sign. -/
theorem splitSign_of_isDigit
    {cs : List Char}
    (hcs : ∀ c ∈ cs, c.isDigit = true) :
    splitSign cs = (false, cs) := by
  unfold splitSign
  split
  · exact absurd (hcs '+' List.mem_cons_self) (by decide)
  · exact absurd (hcs '-' List.mem_cons_self) (by decide)
  · rfl

/-- Digits have no mark of another base. -/
theorem readInteger_of_isDigit
    {cs : List Char}
    (hcs : ∀ c ∈ cs, c.isDigit = true) :
    readInteger cs = readDecimal cs := by
  unfold readInteger
  split
  · exact absurd (hcs 'x' (by simp)) (by decide)
  · exact absurd (hcs 'o' (by simp)) (by decide)
  · exact absurd (hcs 'b' (by simp)) (by decide)
  · rfl

theorem readInteger_toDigits (n : Nat) : readInteger (Nat.toDigits 10 n) = some (n : Int) := by
  have hdigits : ∀ c ∈ Nat.toDigits 10 n, c.isDigit = true :=
    fun _ hc => Digits.isDigit_of_mem_toDigits hc
  rw [readInteger_of_isDigit hdigits]
  simp [readDecimal, splitSign_of_isDigit hdigits, wholeDigits_toDigits, signed, decimal,
    Nat.ofDigitChars_toDigits]

theorem ofPlain?_toDigits (n : Nat) : ofPlain? (Nat.toDigits 10 n) = some (.int n) := by
  have hne {s : String} (hs : ∃ c ∈ s.toList, c.isDigit = false) :
      Nat.toDigits 10 n ≠ s.toList := by
    rintro h
    obtain ⟨c, hc, hdigit⟩ := hs
    rw [← h] at hc
    exact absurd (Digits.isDigit_of_mem_toDigits hc) (by simp [hdigit])
  have htrue : Nat.toDigits 10 n ≠ "true".toList := hne ⟨'t', by decide, by decide⟩
  have hfalse : Nat.toDigits 10 n ≠ "false".toList := hne ⟨'f', by decide, by decide⟩
  simp only [ofPlain?, beq_iff_eq, if_neg htrue, if_neg hfalse, readInteger_toDigits]

theorem writes_nat (n : Nat) : Writes (.int n) n.repr := by
  apply writes_of_word
  · rw [Nat.toList_repr]
    exact Nat.toDigits_ne_nil
  · rw [Nat.toList_repr]
    exact fun c hc => isWordStart_of_class (by decide) (Digits.isDigit_of_mem_toDigits hc)
  · rw [Nat.toList_repr]
    exact ofPlain?_toDigits n

theorem writes_text
    {s quoted : String}
    (hquoted : Quotes s quoted) :
    Writes (.str s) quoted := by
  obtain ⟨text, htext, hlist⟩ := hquoted
  refine ⟨⟨'"', text ++ ['"'], hlist, by decide⟩, fun rest => ?_⟩
  have hopening := Quotation.ofOpening_of_spellsAll htext (c := '\n') (by decide) rest
  have hread := Quotation.read_of_spellsAll htext ('\n' :: rest)
  rw [hlist]
  simp [readScalar, readText, hopening, hread]

end Toml

end GotoAutomaton
