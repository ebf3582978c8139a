import GotoAutomaton.Proofs.Json.Token

/-!
# Values read back

A value that is written as a text is read back from the text.  A reader knows where a written value
ends: a string at its quote, an array and an object at their brackets, and a number where what
follows cannot go on with it, which is the end of the text or a separator.  Each level of nesting
takes at least one character, so that the length of a text bounds the levels that reading it takes.

Main statement: `Value.Proper.read?_text`.
-/

namespace GotoAutomaton
namespace Json

/-- A value as reading gives it: the literals that it keeps are numbers, and not of digits only. -/
inductive Value.Proper : Value → Prop
  | null : Proper .null
  | bool (b : Bool) : Proper (.bool b)
  | nat (n : Nat) : Proper (.nat n)
  | number {literal : List Char} :
      isNumber literal = true →
      isWhole literal = false →
      (∀ c ∈ literal, isNumberChar c = true) →
      Proper (.number literal)
  | str (s : String) : Proper (.str s)
  | arr {items : List Value} :
      (∀ v ∈ items, Proper v) →
      Proper (.arr items)
  | obj {fields : List (String × Value)} :
      (∀ field ∈ fields, Proper field.2) →
      Proper (.obj fields)
  | unpaired : Proper .unpaired

/-- The value is known by its first character, and is read wherever it is written, with nothing
behind it touched. -/
structure Value.ReadsBack (v : Value) : Prop where
  starts : ∃ c cs, v.chars = c :: cs ∧ isBlank c = false ∧ c ≠ ']'
  read : ∀ (bound : Nat) (rest : List Char), v.chars.length ≤ bound → EndsNumber rest →
    readValue bound (v.chars ++ rest) = some (v, rest)

theorem endsNumber_cons
    {c : Char}
    (hc : isNumberChar c = false)
    (rest : List Char) :
    EndsNumber (c :: rest) := by
  intro d hd
  rw [List.head?_cons, Option.mem_some_iff] at hd
  rw [← hd]
  exact hc

theorem skipBlanks_cons
    {c : Char}
    (hc : isBlank c = false)
    (cs : List Char) :
    skipBlanks (c :: cs) = c :: cs := by
  simp [skipBlanks, hc]

/-- No blank and no bracket is part of a number. -/
theorem isBlank_of_isNumberChar
    {c : Char}
    (hc : isNumberChar c = true) :
    isBlank c = false ∧ c ≠ ']' := by
  constructor
  · rw [Bool.eq_false_iff]
    intro hblank
    simp only [isBlank, Bool.or_eq_true, beq_iff_eq] at hblank
    rcases hblank with ((rfl | rfl) | rfl) | rfl <;> revert hc <;> decide
  · rintro rfl
    revert hc
    decide

theorem ne_nil_of_isNumber
    {literal : List Char}
    (h : isNumber literal = true) :
    literal ≠ [] := by
  rintro rfl
  revert h
  decide

/-- A written value starts with neither a blank nor a closing bracket. -/
theorem Value.Proper.exists_chars_eq_cons
    {v : Value}
    (hv : v.Proper) :
    ∃ c cs, v.chars = c :: cs ∧ isBlank c = false ∧ c ≠ ']' := by
  have hliteral (literal : List Char) (hne : literal ≠ [])
      (hchars : ∀ c ∈ literal, isNumberChar c = true) :
      ∃ c cs, literal = c :: cs ∧ isBlank c = false ∧ c ≠ ']' := by
    obtain ⟨c, cs, rfl⟩ := List.exists_cons_of_ne_nil hne
    exact ⟨c, cs, rfl, isBlank_of_isNumberChar (hchars c List.mem_cons_self)⟩
  cases hv with
  | null =>
      exact ⟨'n', _, rfl, by decide, by decide⟩
  | bool b =>
      cases b with
      | true =>
          exact ⟨'t', _, rfl, by decide, by decide⟩
      | false =>
          exact ⟨'f', _, rfl, by decide, by decide⟩
  | nat n =>
      exact hliteral _ Nat.toDigits_ne_nil fun _ hc => isNumberChar_of_mem_toDigits hc
  | number hnumber _ hchars =>
      exact hliteral _ (ne_nil_of_isNumber hnumber) hchars
  | str s =>
      exact ⟨'"', _, rfl, by decide, by decide⟩
  | arr _ =>
      exact ⟨'[', _, rfl, by decide, by decide⟩
  | obj _ =>
      exact ⟨'\x7b', _, rfl, by decide, by decide⟩
  | unpaired =>
      exact ⟨'"', _, rfl, by decide, by decide⟩

theorem Value.ReadsBack.skipBlanks_chars
    {v : Value}
    (hv : v.ReadsBack)
    (rest : List Char) :
    skipBlanks (v.chars ++ rest) = v.chars ++ rest := by
  obtain ⟨c, cs, hchars, hblank, _⟩ := hv.starts
  rw [hchars]
  exact skipBlanks_cons hblank _

/-- What starts like a number is read as a number, since none of the other forms starts like one. -/
theorem readValue_of_isNumberChar
    {c : Char}
    (hc : isNumberChar c = true)
    (bound : Nat)
    (cs : List Char) :
    readValue (bound + 1) (c :: cs) = readNumber (c :: cs) := by
  have hne (d : Char) (hd : isNumberChar d = false) : c ≠ d := by
    rintro rfl
    rw [hc] at hd
    cases hd
  simp [readValue, hne 'n' (by decide), hne 't' (by decide), hne 'f' (by decide),
    hne '"' (by decide), hne '[' (by decide), hne '\x7b' (by decide)]

/-- A quote opens a string. -/
theorem readValue_quote
    (bound : Nat)
    (cs : List Char) :
    readValue (bound + 1) ('"' :: cs) =
      (readString cs).map fun (s, r) => ((s.map Value.str).getD .unpaired, r) := by
  rw [readValue.eq_def]
  rfl

/-- A bracket opens an array. -/
theorem readValue_bracket
    (bound : Nat)
    (cs : List Char) :
    readValue (bound + 1) ('[' :: cs) =
      match skipBlanks cs with
      | ']' :: r => some (.arr [], r)
      | r => (readItems bound r).map fun (vs, r) => (.arr vs, r) := by
  rw [readValue.eq_def]
  rfl

/-- A brace opens an object. -/
theorem readValue_brace
    (bound : Nat)
    (cs : List Char) :
    readValue (bound + 1) ('\x7b' :: cs) =
      match skipBlanks cs with
      | '\x7d' :: r => some (.obj [], r)
      | r => (readFields bound r).map fun (fs, r) => (object fs, r) := by
  rw [readValue.eq_def]
  rfl

theorem itemChars_singleton (v : Value) : itemChars [v] = v.chars ++ [']'] := by
  rw [itemChars]

theorem itemChars_cons_cons
    (v w : Value)
    (vs : List Value) :
    itemChars (v :: w :: vs) = v.chars ++ ',' :: itemChars (w :: vs) := by
  simp [itemChars]

theorem exists_itemChars_eq_append
    (v : Value)
    (vs : List Value) :
    ∃ tail, itemChars (v :: vs) = v.chars ++ tail := by
  cases vs with
  | nil =>
      exact ⟨_, itemChars_singleton v⟩
  | cons w vs =>
      exact ⟨_, itemChars_cons_cons v w vs⟩

/-- An item is read, and then the separator decides whether there are more. -/
theorem readItems_chars
    {v : Value}
    (hv : v.ReadsBack)
    {bound : Nat}
    (hbound : v.chars.length ≤ bound)
    {c : Char}
    (hc : c = ',' ∨ c = ']')
    (rest : List Char) :
    readItems (bound + 1) (v.chars ++ c :: rest) =
      if c = ',' then (readItems bound rest).map fun (vs, r) => (v :: vs, r)
      else some ([v], rest) := by
  rw [readItems, hv.skipBlanks_chars]
  rcases hc with rfl | rfl
  · rw [hv.read bound _ hbound (endsNumber_cons (by decide) rest)]
    simp [skipBlanks_cons (by decide : isBlank ',' = false)]
  · rw [hv.read bound _ hbound (endsNumber_cons (by decide) rest)]
    simp [skipBlanks_cons (by decide : isBlank ']' = false)]

theorem readItems_itemChars
    {v : Value}
    {vs : List Value}
    (hback : ∀ u ∈ v :: vs, u.ReadsBack)
    {bound : Nat}
    (hbound : (itemChars (v :: vs)).length ≤ bound)
    (rest : List Char) :
    readItems bound (itemChars (v :: vs) ++ rest) = some (v :: vs, rest) := by
  induction vs generalizing v bound with
  | nil =>
      rw [itemChars_singleton, List.length_append, List.length_singleton] at hbound
      obtain ⟨bound, rfl⟩ := Nat.exists_eq_succ_of_ne_zero (by omega : bound ≠ 0)
      have hitem : v.chars.length ≤ bound := by
        omega
      have hstep := readItems_chars (hback v List.mem_cons_self) hitem (Or.inr rfl) rest
      rw [itemChars_singleton, List.append_assoc]
      exact hstep
  | cons w vs ih =>
      rw [itemChars_cons_cons, List.length_append, List.length_cons] at hbound
      obtain ⟨bound, rfl⟩ := Nat.exists_eq_succ_of_ne_zero (by omega : bound ≠ 0)
      have hitem : v.chars.length ≤ bound := by
        omega
      have hrest : readItems bound (itemChars (w :: vs) ++ rest) = some (w :: vs, rest) :=
        ih (fun u hu => hback u (List.mem_cons_of_mem v hu)) (by omega)
      have hstep := readItems_chars (hback v List.mem_cons_self) hitem (Or.inl rfl)
        (itemChars (w :: vs) ++ rest)
      rw [if_pos rfl, hrest] at hstep
      rw [itemChars_cons_cons, List.append_assoc]
      exact hstep

/-- A field as it is written, up to its separator. -/
def pairChars (field : String × Value) : List Char :=
  quoteChars field.1.toList ++ ':' :: field.2.chars

theorem fieldChars_singleton (field : String × Value) :
    fieldChars [field] = pairChars field ++ ['\x7d'] := by
  simp [fieldChars, pairChars]

theorem fieldChars_cons_cons
    (field field' : String × Value)
    (fields : List (String × Value)) :
    fieldChars (field :: field' :: fields) =
      pairChars field ++ ',' :: fieldChars (field' :: fields) := by
  simp [fieldChars, pairChars]

theorem exists_fieldChars_eq_append
    (field : String × Value)
    (fields : List (String × Value)) :
    ∃ tail, fieldChars (field :: fields) = pairChars field ++ tail := by
  cases fields with
  | nil =>
      exact ⟨_, fieldChars_singleton field⟩
  | cons field' fields =>
      exact ⟨_, fieldChars_cons_cons field field' fields⟩

/-- A field is read as its name and its value, and then the separator decides whether there are
more. -/
theorem readFields_pairChars
    {field : String × Value}
    (hv : field.2.ReadsBack)
    {bound : Nat}
    (hbound : field.2.chars.length ≤ bound)
    {c : Char}
    (hc : c = ',' ∨ c = '\x7d')
    (rest : List Char) :
    readFields (bound + 1) (pairChars field ++ c :: rest) =
      if c = ',' then
        (readFields bound rest).map fun (fs, r) => ((some field.1, field.2) :: fs, r)
      else some ([(some field.1, field.2)], rest) := by
  have hchars : pairChars field ++ c :: rest =
      '"' :: (field.1.toList.flatMap escapeChar ++ '"' :: ':' :: (field.2.chars ++ c :: rest)) := by
    simp [pairChars, quoteChars]
  rw [hchars, readFields, skipBlanks_cons (by decide)]
  simp only [readString_flatMap_escapeChar, String.ofList_toList,
    skipBlanks_cons (by decide : isBlank ':' = false), hv.skipBlanks_chars]
  rcases hc with rfl | rfl
  · rw [hv.read bound _ hbound (endsNumber_cons (by decide) rest)]
    simp [skipBlanks_cons (by decide : isBlank ',' = false)]
  · rw [hv.read bound _ hbound (endsNumber_cons (by decide) rest)]
    simp [skipBlanks_cons (by decide : isBlank '\x7d' = false)]

theorem length_chars_lt_length_pairChars (field : String × Value) :
    field.2.chars.length < (pairChars field).length := by
  simp only [pairChars, List.length_append, List.length_cons]
  omega

theorem readFields_fieldChars
    {field : String × Value}
    {fields : List (String × Value)}
    (hback : ∀ f ∈ field :: fields, f.2.ReadsBack)
    {bound : Nat}
    (hbound : (fieldChars (field :: fields)).length ≤ bound)
    (rest : List Char) :
    readFields bound (fieldChars (field :: fields) ++ rest) =
      some ((field :: fields).map fun f => (some f.1, f.2), rest) := by
  induction fields generalizing field bound with
  | nil =>
      have hlength := length_chars_lt_length_pairChars field
      rw [fieldChars_singleton, List.length_append, List.length_singleton] at hbound
      obtain ⟨bound, rfl⟩ := Nat.exists_eq_succ_of_ne_zero (by omega : bound ≠ 0)
      have hfield : field.2.chars.length ≤ bound := by
        omega
      have hstep := readFields_pairChars (hback field List.mem_cons_self) hfield (Or.inr rfl) rest
      rw [fieldChars_singleton, List.append_assoc]
      exact hstep
  | cons field' fields ih =>
      have hlength := length_chars_lt_length_pairChars field
      rw [fieldChars_cons_cons, List.length_append, List.length_cons] at hbound
      obtain ⟨bound, rfl⟩ := Nat.exists_eq_succ_of_ne_zero (by omega : bound ≠ 0)
      have hfield : field.2.chars.length ≤ bound := by
        omega
      have hrest : readFields bound (fieldChars (field' :: fields) ++ rest) =
          some ((field' :: fields).map fun f => (some f.1, f.2), rest) :=
        ih (fun f hf => hback f (List.mem_cons_of_mem field hf)) (by omega)
      have hstep := readFields_pairChars (hback field List.mem_cons_self) hfield (Or.inl rfl)
        (fieldChars (field' :: fields) ++ rest)
      rw [if_pos rfl, hrest] at hstep
      rw [fieldChars_cons_cons, List.append_assoc]
      exact hstep

/-- An object whose names are texts has these fields. -/
theorem object_map_some (fields : List (String × Value)) :
    object (fields.map fun f => (some f.1, f.2)) = .obj fields := by
  have hnames (g : Option String × Value → Option (String × Value))
      (hg : ∀ f, g (some f.1, f.2) = some f) :
      (fields.map fun f => (some f.1, f.2)).mapM g = some fields := by
    induction fields with
    | nil =>
        rfl
    | cons field fields ih =>
        simp [ih, hg]
  rw [object, hnames _ fun f => rfl]

/-- An array is read when its items are.  The first item does not start with the bracket that would
end the array. -/
theorem readValue_arr
    {items : List Value}
    (hback : ∀ u ∈ items, u.ReadsBack)
    {bound : Nat}
    (hbound : (itemChars items).length ≤ bound)
    (rest : List Char) :
    readValue (bound + 1) ((Value.arr items).chars ++ rest) = some (.arr items, rest) := by
  rw [Value.chars_arr, List.cons_append, readValue_bracket]
  cases items with
  | nil =>
      rw [itemChars, List.singleton_append, skipBlanks_cons (by decide)]
      rfl
  | cons v vs =>
      obtain ⟨c, cs, hchars, hblank, hbracket⟩ := (hback v List.mem_cons_self).starts
      obtain ⟨tail, htail⟩ := exists_itemChars_eq_append v vs
      have hitems := readItems_itemChars hback hbound rest
      rw [htail, hchars, List.cons_append, List.cons_append] at hitems ⊢
      rw [skipBlanks_cons hblank]
      split
      next heq =>
          exact absurd (List.cons.inj heq).1 hbracket
      next =>
          rw [hitems]
          rfl

/-- An object is read when the values of its fields are. -/
theorem readValue_obj
    {fields : List (String × Value)}
    (hback : ∀ f ∈ fields, f.2.ReadsBack)
    {bound : Nat}
    (hbound : (fieldChars fields).length ≤ bound)
    (rest : List Char) :
    readValue (bound + 1) ((Value.obj fields).chars ++ rest) = some (.obj fields, rest) := by
  rw [Value.chars_obj, List.cons_append, readValue_brace]
  cases fields with
  | nil =>
      rw [fieldChars, List.singleton_append, skipBlanks_cons (by decide)]
      rfl
  | cons field fields =>
      obtain ⟨tail, htail⟩ := exists_fieldChars_eq_append field fields
      have hfields := readFields_fieldChars hback hbound rest
      rw [htail, pairChars, quoteChars, List.cons_append, List.cons_append, List.cons_append,
        List.cons_append] at hfields ⊢
      rw [skipBlanks_cons (by decide)]
      change (readFields bound _).map (fun (fs, r) => (object fs, r)) = _
      simp only [hfields, Option.map_some, object_map_some]

/-- A string is read as what was written. -/
theorem readValue_str
    (s : String)
    (bound : Nat)
    (rest : List Char) :
    readValue (bound + 1) ((Value.str s).chars ++ rest) = some (.str s, rest) := by
  have hchars : (Value.str s).chars ++ rest =
      '"' :: (s.toList.flatMap escapeChar ++ '"' :: rest) := by
    simp [Value.chars_str, quoteChars]
  rw [hchars, readValue_quote, readString_flatMap_escapeChar, String.ofList_toList]
  rfl

/-- Half of a surrogate pair is read as a string that is no text. -/
theorem readValue_unpaired
    (bound : Nat)
    (rest : List Char) :
    readValue (bound + 1) (Value.unpaired.chars ++ rest) = some (.unpaired, rest) := by
  have hpieces : readPieces ("\\ud800\"".toList ++ rest) = some ([.unit 0xD800], rest) :=
    rfl
  have hpairs : pairUp [.unit 0xD800] = none := by
    decide
  have hstring : readString ("\\ud800\"".toList ++ rest) = some (none, rest) := by
    simp only [readString, hpieces, Option.map_some, hpairs, Option.map_none]
  have hread := readValue_quote bound ("\\ud800\"".toList ++ rest)
  rw [hstring] at hread
  exact hread

/-- A number is read from its literal. -/
theorem readValue_literal
    {literal rest : List Char}
    {v : Value}
    (hne : literal ≠ [])
    (hliteral : ∀ c ∈ literal, isNumberChar c = true)
    (hread : readNumber (literal ++ rest) = some (v, rest))
    (bound : Nat) :
    readValue (bound + 1) (literal ++ rest) = some (v, rest) := by
  obtain ⟨c, cs, rfl⟩ := List.exists_cons_of_ne_nil hne
  rw [← hread]
  exact readValue_of_isNumberChar (hliteral c List.mem_cons_self) bound (cs ++ rest)

theorem Value.Proper.readsBack_of_readValue
    {v : Value}
    (hv : v.Proper)
    (hread : ∀ (bound : Nat) (rest : List Char), v.chars.length ≤ bound + 1 → EndsNumber rest →
      readValue (bound + 1) (v.chars ++ rest) = some (v, rest)) :
    v.ReadsBack := by
  refine ⟨hv.exists_chars_eq_cons, fun bound rest hbound hrest => ?_⟩
  obtain ⟨c, cs, hchars, -⟩ := hv.exists_chars_eq_cons
  have hpos : bound ≠ 0 := by
    rintro rfl
    rw [hchars, List.length_cons] at hbound
    omega
  obtain ⟨bound, rfl⟩ := Nat.exists_eq_succ_of_ne_zero hpos
  exact hread bound rest hbound hrest

/-- Every proper value is read back wherever it is written; the induction follows its parts, whose
texts are shorter than its own. -/
theorem Value.Proper.readsBack
    {v : Value}
    (hv : v.Proper) :
    v.ReadsBack := by
  induction hv with
  | null =>
      exact Proper.null.readsBack_of_readValue fun bound rest _ _ => rfl
  | bool b =>
      refine (Proper.bool b).readsBack_of_readValue fun bound rest _ _ => ?_
      cases b <;> rfl
  | nat n =>
      refine (Proper.nat n).readsBack_of_readValue fun bound rest _ hrest => ?_
      have hchars : ∀ c ∈ Nat.toDigits 10 n, isNumberChar c = true :=
        fun _ hc => isNumberChar_of_mem_toDigits hc
      exact readValue_literal Nat.toDigits_ne_nil hchars (readNumber_toDigits n hrest) bound
  | number hnumber hwhole hchars =>
      refine (Proper.number hnumber hwhole hchars).readsBack_of_readValue
        fun bound rest _ hrest => ?_
      have hread := readNumber_append hchars hrest
      rw [hwhole, hnumber] at hread
      exact readValue_literal (ne_nil_of_isNumber hnumber) hchars hread bound
  | str s =>
      exact (Proper.str s).readsBack_of_readValue fun bound rest _ _ => readValue_str s bound rest
  | arr hitems hback =>
      refine (Proper.arr hitems).readsBack_of_readValue fun bound rest hbound _ => ?_
      rw [chars_arr, List.length_cons] at hbound
      exact readValue_arr hback (Nat.le_of_succ_le_succ hbound) rest
  | obj hfields hback =>
      refine (Proper.obj hfields).readsBack_of_readValue fun bound rest hbound _ => ?_
      rw [chars_obj, List.length_cons] at hbound
      exact readValue_obj hback (Nat.le_of_succ_le_succ hbound) rest
  | unpaired =>
      exact Proper.unpaired.readsBack_of_readValue fun bound rest _ _ =>
        readValue_unpaired bound rest

/-- Every proper value is read back from its text. -/
theorem Value.Proper.read?_text
    {v : Value}
    (hv : v.Proper) :
    Value.read? v.text = some v := by
  have hback := hv.readsBack
  have hbound : v.chars.length ≤ 2 * v.chars.length + 2 := by
    omega
  have hblanks := hback.skipBlanks_chars []
  have hread := hback.read _ [] hbound endsNumber_nil
  rw [List.append_nil] at hblanks hread
  rw [Value.read?, Value.text, String.toList_ofList, hblanks, hread]
  rfl

end Json
end GotoAutomaton
