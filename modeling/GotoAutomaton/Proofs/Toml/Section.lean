import GotoAutomaton.Proofs.Toml.Scalar
import GotoAutomaton.Toml.Layout
import GotoAutomaton.Toml.Read

/-!
# Written lines and sections

A header of one key is laid out as a header, and a key with a value as an assignment, whatever
follows on the next line.  A document of such lines is laid out line by line.

A document that is written section by section, a header of one key and then a field a line, reads
back as these sections in their order, each a table with its fields.  Every statement of it gives a
value to a key that is still free, and the table under a header is put in its place by the next
header or at the end.

Main statements: `lays_headerLine`, `lays_keyLine`, `readStatements_join` and
`readDocument_sections`.
-/

namespace GotoAutomaton

namespace Toml

/-- A key that needs no quotes. -/
def IsBare (key : String) : Prop :=
  key.toList ≠ [] ∧ key.toList.all isKeyChar = true

instance (key : String) : Decidable (IsBare key) :=
  inferInstanceAs (Decidable (_ ∧ _))

/-- A key without others before it. -/
def Keys.single (key : String) : Keys :=
  ⟨[], some key⟩

/-- The characters at the start of a header or of a key without quotes. -/
def isLineStart (c : Char) : Bool :=
  c == '[' || isKeyChar c

/-- A line is laid out as a statement, whatever follows it. -/
structure Lays (statement : Statement) (line : String) : Prop where
  head : ∃ c cs, line.toList = c :: cs ∧ isLineStart c = true
  readStatement : ∀ rest, readStatement (line.toList ++ rest) = some (statement, rest)

theorem IsBare.exists_head
    {key : String}
    (hkey : IsBare key) :
    ∃ c cs, key.toList = c :: cs ∧ isKeyChar c = true := by
  obtain ⟨hne, hchars⟩ := hkey
  obtain ⟨c, cs, hcs⟩ := List.exists_cons_of_ne_nil hne
  exact ⟨c, cs, hcs, List.all_eq_true.1 hchars c (hcs ▸ List.mem_cons_self)⟩

theorem isPlain_of_isKeyChar
    {c : Char}
    (hc : isKeyChar c = true) :
    isPlain c = true :=
  isPlain_of_isWordStart (isWordStart_of_class (by decide) hc)

theorem isInKey_of_isKeyChar
    {c : Char}
    (hc : isKeyChar c = true) :
    isInKey c = true := by
  have hplain : isPlain c = true := isPlain_of_isKeyChar hc
  have hdot : c ≠ '.' := ne_of_class hc (by decide)
  simp [isInKey, hplain, hdot]

/-- A key that needs no quotes is read up to the next character that is not in it. -/
theorem readKey_append
    {key : String}
    (hkey : IsBare key)
    {c : Char}
    (hc : isInKey c = false)
    (rest : List Char) :
    readKey (key.toList ++ c :: rest) = some (some key, c :: rest) := by
  obtain ⟨d, ds, hds, hd⟩ := hkey.exists_head
  have hall : key.toList.all isKeyChar = true := hkey.2
  have hin : ∀ e ∈ key.toList, isInKey e = true := fun e he =>
    isInKey_of_isKeyChar (List.all_eq_true.1 hall e he)
  have htake : (key.toList ++ c :: rest).takeWhile isInKey = key.toList := by
    rw [List.takeWhile_append_of_pos hin, List.takeWhile_cons_of_neg (by simp [hc]),
      List.append_nil]
  have hdrop : (key.toList ++ c :: rest).dropWhile isInKey = c :: rest := by
    rw [List.dropWhile_append_of_pos hin, List.dropWhile_cons_of_neg (by simp [hc])]
  have hquote : d ≠ '"' := ne_of_class hd (by decide)
  have happostrophe : d ≠ '\'' := ne_of_class hd (by decide)
  have hword : readKey (key.toList ++ c :: rest) =
      some (some (String.ofList key.toList), c :: rest) := by
    rw [hds, List.cons_append] at htake hdrop ⊢
    rw [hds] at hall
    simp [readKey, hquote, happostrophe, htake, hdrop, hall]
  rw [hword, String.ofList_toList]

theorem isBlank_of_isPlain
    {c : Char}
    (hc : isPlain c = true) :
    isBlank c = false := by
  simp only [isPlain, Bool.not_eq_true', Bool.or_eq_false_iff] at hc
  exact hc.1

theorem skipBlanks_of_isPlain
    {c : Char}
    (hc : isPlain c = true)
    (cs : List Char) :
    skipBlanks (c :: cs) = c :: cs := by
  rw [skipBlanks, List.dropWhile_cons_of_neg (by simp [isBlank_of_isPlain hc])]

/-- A key is read on its own if no dot follows it. -/
theorem readKeys_append
    {key : String}
    (hkey : IsBare key)
    {c d : Char}
    {rest rest' : List Char}
    (hc : isInKey c = false)
    (hrest : skipBlanks (c :: rest) = d :: rest')
    (hd : d ≠ '.') :
    readKeys (key.toList ++ c :: rest) = (.single key, true, d :: rest') := by
  obtain ⟨e, es, hes, he⟩ := hkey.exists_head
  have hskip : skipBlanks (key.toList ++ c :: rest) = key.toList ++ c :: rest := by
    rw [hes, List.cons_append, skipBlanks_of_isPlain (isPlain_of_isKeyChar he)]
  rw [readKeys, readKeysTo]
  simp [hskip, readKey_append hkey hc, hrest, hd, Keys.single]

theorem readStatement_bracket
    {c : Char}
    (hc : c ≠ '[')
    (cs : List Char) :
    readStatement ('[' :: c :: cs) = readHeader false (c :: cs) := by
  simp [readStatement, hc]

theorem readStatement_of_ne
    {c : Char}
    (hc : c ≠ '[')
    (cs : List Char) :
    readStatement (c :: cs) = readAssignment (c :: cs) := by
  simp [readStatement, hc]

theorem lays_headerLine
    {key : String}
    (hkey : IsBare key) :
    Lays (.header (.single key)) (headerLine key) := by
  obtain ⟨c, cs, hcs, hc⟩ := hkey.exists_head
  have hbracket : c ≠ '[' := ne_of_class hc (by decide)
  refine ⟨⟨'[', key.toList ++ [']', '\n'], by simp [headerLine], by decide⟩, fun rest => ?_⟩
  have hline : (headerLine key).toList ++ rest = '[' :: (key.toList ++ ']' :: '\n' :: rest) := by
    simp [headerLine]
  have hkeys : readKeys (key.toList ++ ']' :: '\n' :: rest) =
      (.single key, true, ']' :: '\n' :: rest) :=
    readKeys_append hkey (by decide) rfl (by decide)
  have hheader : readHeader false (key.toList ++ ']' :: '\n' :: rest) =
      some (.header (.single key), rest) := by
    rw [readHeader, hkeys]
    rfl
  rw [hline, ← hheader, hcs]
  exact readStatement_bracket hbracket _

/-- A written value starts with no bracket and is read up to the end of its line. -/
theorem readValue_of_writes
    {value : Value}
    {text : String}
    (htext : Writes value text)
    (bound depth : Nat)
    (rest : List Char) :
    readValue (bound + 1) depth (text.toList ++ '\n' :: rest) =
      some (.scalar (some value), '\n' :: rest) := by
  obtain ⟨c, cs, hcs, hc⟩ := htext.head
  have hscalar := htext.readScalar rest
  have hbracket : c ≠ '[' := ne_of_class hc (by decide)
  have hbrace : c ≠ '{' := ne_of_class hc (by decide)
  rw [hcs, List.cons_append] at hscalar ⊢
  simp [readValue, hc, hscalar]

/-- What is laid out as a value stands between the equals sign and the end of the line. -/
theorem readAssignment_of_writes
    {key : String}
    (hkey : IsBare key)
    {value : Value}
    {text : String}
    (htext : Writes value text)
    (rest : List Char) :
    readAssignment (key.toList ++ ' ' :: '=' :: ' ' :: (text.toList ++ '\n' :: rest)) =
      some (.assign (.single key) (.scalar (some value)), rest) := by
  have hkeys : readKeys (key.toList ++ ' ' :: '=' :: ' ' :: (text.toList ++ '\n' :: rest)) =
      (.single key, true, '=' :: ' ' :: (text.toList ++ '\n' :: rest)) :=
    readKeys_append hkey (by decide) rfl (by decide)
  obtain ⟨c, cs, hcs, hc⟩ := htext.head
  have hskip : skipBlanks (' ' :: (text.toList ++ '\n' :: rest)) = text.toList ++ '\n' :: rest := by
    have hblank := skipBlanks_of_isPlain hc (cs ++ '\n' :: rest)
    rw [hcs, List.cons_append]
    exact hblank
  have hend : isAtEnd (text.toList ++ '\n' :: rest) = false := by
    have hcomment : c ≠ '#' := ne_of_class hc (by decide)
    have hreturn : c ≠ '\r' := ne_of_class hc (by decide)
    have hnewline : c ≠ '\n' := ne_of_class hc (by decide)
    simp [hcs, isAtEnd, hcomment, hreturn, hnewline]
  rw [readAssignment, hkeys]
  simp [hskip, hend, readValue_of_writes htext, endLine]

theorem lays_keyLine
    {key : String}
    (hkey : IsBare key)
    {value : Value}
    {text : String}
    (htext : Writes value text) :
    Lays (.assign (.single key) (.scalar (some value))) (keyLine key text) := by
  obtain ⟨c, cs, hcs, hc⟩ := hkey.exists_head
  have hbracket : c ≠ '[' := ne_of_class hc (by decide)
  have hhead : isLineStart c = true := by
    rw [isLineStart, hc, Bool.or_true]
  refine ⟨⟨c, cs ++ " = ".toList ++ text.toList ++ ['\n'], by simp [keyLine, hcs], hhead⟩,
    fun rest => ?_⟩
  have hline : (keyLine key text).toList ++ rest =
      key.toList ++ ' ' :: '=' :: ' ' :: (text.toList ++ '\n' :: rest) := by
    simp [keyLine]
  rw [hline, ← readAssignment_of_writes hkey htext, hcs]
  exact readStatement_of_ne hbracket _

namespace Lays

variable {statement : Statement} {line : String}

/-- A line starts with nothing that is passed over before it. -/
theorem skipTrivia_append
    (hline : Lays statement line)
    (rest : List Char) :
    skipTrivia false (line.toList ++ rest) = some (line.toList ++ rest) := by
  obtain ⟨c, cs, hcs, hc⟩ := hline.head
  have hreturn : c ≠ '\r' := ne_of_class hc (by decide)
  have hnewline : c ≠ '\n' := ne_of_class hc (by decide)
  have hcomment : c ≠ '#' := ne_of_class hc (by decide)
  have hspace : c ≠ ' ' := ne_of_class hc (by decide)
  have htab : c ≠ '\t' := ne_of_class hc (by decide)
  rw [hcs, List.cons_append]
  simp [skipTrivia, isBlank, hcomment, hspace, htab, hreturn]

theorem readStatementsTo_append
    (hline : Lays statement line)
    (bound : Nat)
    (rest : List Char) :
    readStatementsTo (bound + 1) (line.toList ++ rest) =
      (readStatementsTo bound rest).map (statement :: ·) := by
  obtain ⟨c, cs, hcs, -⟩ := hline.head
  have hskip := hline.skipTrivia_append rest
  have hread := hline.readStatement rest
  rw [hcs, List.cons_append] at hskip hread ⊢
  simp only [readStatementsTo, hskip, hread]

end Lays

/-- The characters of lines, one line after the other. -/
def textOf (ls : List (Statement × String)) : List Char :=
  ls.flatMap fun l => l.2.toList

theorem toList_join_map_snd (ls : List (Statement × String)) :
    (String.join (ls.map Prod.snd)).toList = textOf ls := by
  simp [textOf, String.toList_join, List.flatMap_map]

/-- Each line takes one step, and there are no more lines than characters. -/
theorem readStatementsTo_textOf
    {ls : List (Statement × String)}
    (hls : ∀ l ∈ ls, Lays l.1 l.2)
    {bound : Nat}
    (hbound : (textOf ls).length < bound) :
    readStatementsTo bound (textOf ls) = some (ls.map Prod.fst) := by
  induction ls generalizing bound with
  | nil =>
      obtain ⟨bound, rfl⟩ := Nat.exists_eq_succ_of_ne_zero (Nat.ne_zero_of_lt hbound)
      rfl
  | cons l ls ih =>
      obtain ⟨bound, rfl⟩ := Nat.exists_eq_succ_of_ne_zero (Nat.ne_zero_of_lt hbound)
      have hline := hls l List.mem_cons_self
      have htail : (textOf ls).length < bound := by
        obtain ⟨c, cs, hcs, -⟩ := hline.head
        rw [textOf, List.flatMap_cons, List.length_append, hcs, List.length_cons] at hbound
        rw [textOf]
        omega
      rw [textOf, List.flatMap_cons, hline.readStatementsTo_append]
      rw [← textOf, ih (fun l' hl' => hls l' (List.mem_cons_of_mem l hl')) htail]
      rfl

/-- Lines are laid out one after the other.  The first one does not start with a byte order mark,
which would be passed over. -/
theorem readStatements_join
    {ls : List (Statement × String)}
    (hls : ∀ l ∈ ls, Lays l.1 l.2) :
    readStatements (String.join (ls.map Prod.snd)) = some (ls.map Prod.fst) := by
  have hread := readStatementsTo_textOf hls (Nat.lt_succ_self _)
  cases ls with
  | nil =>
      rfl
  | cons l ls =>
      obtain ⟨c, cs, hcs, hc⟩ := (hls l List.mem_cons_self).head
      have hmark : c ≠ '\ufeff' := ne_of_class hc (by decide)
      rw [readStatements, toList_join_map_snd, ← hread]
      simp [textOf, hcs, hmark]

/-- A written field. -/
structure Field where
  key : String
  value : Value
  text : String
  isBare : IsBare key
  writes : Writes value text

namespace Field

def statement (f : Field) : Statement :=
  .assign (.single f.key) (.scalar (some f.value))

def line (f : Field) : String :=
  keyLine f.key f.text

def entry (f : Field) : String × Value :=
  (f.key, f.value)

end Field

/-- A written section. -/
structure Section where
  key : String
  fields : List Field
  isBare : IsBare key
  nodup_keys : (fields.map Field.key).Nodup

namespace Section

def statements (s : Section) : List Statement :=
  .header (.single s.key) :: s.fields.map Field.statement

def lines (s : Section) : List String :=
  headerLine s.key :: s.fields.map Field.line

def entry (s : Section) : String × Value :=
  (s.key, .table .header (s.fields.map Field.entry))

/-- The lines, each with the statement as which it is laid out. -/
def layout (s : Section) : List (Statement × String) :=
  (.header (.single s.key), headerLine s.key) :: s.fields.map fun f => (f.statement, f.line)

theorem map_fst_layout (s : Section) : s.layout.map Prod.fst = s.statements := by
  simp [layout, statements, Function.comp_def]

theorem map_snd_layout (s : Section) : s.layout.map Prod.snd = s.lines := by
  simp [layout, lines, Function.comp_def]

theorem lays_of_mem_layout
    {s : Section}
    {l : Statement × String}
    (hl : l ∈ s.layout) :
    Lays l.1 l.2 := by
  rw [layout, List.mem_cons, List.mem_map] at hl
  rcases hl with rfl | ⟨f, -, rfl⟩
  · exact lays_headerLine s.isBare
  · exact lays_keyLine f.isBare f.writes

end Section

theorem resolve_single (key : String) : (Keys.single key).resolve = .ok ([], key) := by
  rfl

/-- An assignment to a free key adds an entry to the table that is being filled in. -/
theorem extend_assign
    {d : Draft}
    {f : Field}
    (hkey : f.key ∉ d.current.map Prod.fst) :
    d.extend f.statement = .ok ⟨d.entries, d.place, d.current ++ [f.entry]⟩ := by
  have hfind : OrderedMap.find f.key d.current = none := OrderedMap.find_eq_none_iff.2 hkey
  have hassign : d.assign [] f.key f.value = some ⟨d.entries, d.place, d.current ++ [f.entry]⟩ := by
    simp [Draft.assign, Entries.assign, Entries.update, Entries.define, hfind,
      OrderedMap.place_of_not_mem hkey, Field.entry]
  simp [Draft.extend, Field.statement, resolve_single, Layout.resolve, Fault.demand, hassign, bind,
    Except.bind]

/-- A header with a free key has an empty table filled in. -/
theorem extend_header
    {d : Draft}
    {es : Entries}
    (hd : d.finish = some es)
    {key : String}
    (hkey : key ∉ es.map Prod.fst) :
    d.extend (.header (.single key)) = .ok ⟨es, .header [] key, []⟩ := by
  have hfind : OrderedMap.find key es = none := OrderedMap.find_eq_none_iff.2 hkey
  have hopen : Draft.openHeader [] key es = some ⟨es, .header [] key, []⟩ := by
    simp [Draft.openHeader, Entries.descend, Entries.underHeader, hfind]
  simp [Draft.extend, hd, resolve_single, Fault.demand, hopen, bind, Except.bind]

theorem finish_header
    {es : Entries}
    {key : String}
    (hkey : key ∉ es.map Prod.fst)
    (current : Entries) :
    (Draft.mk es (.header [] key) current).finish =
      some (es ++ [(key, .table .header current)]) := by
  simp [Draft.finish, Entries.update, OrderedMap.place_of_not_mem hkey]

/-- Fields with different keys are added one after the other. -/
theorem foldlM_extend_fields
    {fs : List Field}
    {d : Draft}
    (hkeys : (d.current.map Prod.fst ++ fs.map Field.key).Nodup) :
    (fs.map Field.statement).foldlM Draft.extend d =
      .ok ⟨d.entries, d.place, d.current ++ fs.map Field.entry⟩ := by
  induction fs generalizing d with
  | nil =>
      simp [pure, Except.pure]
  | cons f fs ih =>
      have hkey : f.key ∉ d.current.map Prod.fst := by
        rw [List.map_cons, List.nodup_append] at hkeys
        exact fun hmem => hkeys.2.2 f.key hmem f.key List.mem_cons_self rfl
      have htail :
          ((d.current ++ [f.entry]).map Prod.fst ++ fs.map Field.key).Nodup := by
        simpa [Field.entry] using hkeys
      have hfold := ih (d := ⟨d.entries, d.place, d.current ++ [f.entry]⟩) htail
      have hentries : d.current ++ (f :: fs).map Field.entry =
          d.current ++ [f.entry] ++ fs.map Field.entry := by
        simp
      rw [List.map_cons, List.foldlM_cons, extend_assign hkey, hentries]
      exact hfold

/-- A section with a free key is added as a table. -/
theorem exists_foldlM_extend_section
    {d : Draft}
    {es : Entries}
    (hd : d.finish = some es)
    {s : Section}
    (hkey : s.key ∉ es.map Prod.fst) :
    ∃ d', s.statements.foldlM Draft.extend d = .ok d' ∧ d'.finish = some (es ++ [s.entry]) := by
  refine ⟨⟨es, .header [] s.key, s.fields.map Field.entry⟩, ?_, finish_header hkey _⟩
  rw [Section.statements, List.foldlM_cons, extend_header hd hkey]
  exact foldlM_extend_fields s.nodup_keys

/-- Sections with different keys are added one after the other. -/
theorem exists_foldlM_extend_sections
    {ss : List Section}
    {d : Draft}
    {es : Entries}
    (hd : d.finish = some es)
    (hkeys : (es.map Prod.fst ++ ss.map Section.key).Nodup) :
    ∃ d', (ss.flatMap Section.statements).foldlM Draft.extend d = .ok d' ∧
      d'.finish = some (es ++ ss.map Section.entry) := by
  induction ss generalizing d es with
  | nil =>
      exact ⟨d, rfl, by simpa using hd⟩
  | cons s ss ih =>
      have hkey : s.key ∉ es.map Prod.fst := by
        rw [List.map_cons, List.nodup_append] at hkeys
        exact fun hmem => hkeys.2.2 s.key hmem s.key List.mem_cons_self rfl
      have htail : ((es ++ [s.entry]).map Prod.fst ++ ss.map Section.key).Nodup := by
        simpa [Section.entry] using hkeys
      obtain ⟨d₁, hfold₁, hd₁⟩ := exists_foldlM_extend_section hd hkey
      obtain ⟨d₂, hfold₂, hd₂⟩ := ih hd₁ htail
      refine ⟨d₂, ?_, by simpa using hd₂⟩
      rw [List.flatMap_cons, List.foldlM_append, hfold₁]
      exact hfold₂

/-- A document of sections is read as these sections. -/
theorem readDocument_sections
    {ss : List Section}
    (hkeys : (ss.map Section.key).Nodup) :
    readDocument (String.join (ss.flatMap Section.lines)) = .ok (ss.map Section.entry) := by
  have hlays : ∀ l ∈ ss.flatMap Section.layout, Lays l.1 l.2 := by
    intro l hl
    obtain ⟨s, -, hs⟩ := List.mem_flatMap.1 hl
    exact Section.lays_of_mem_layout hs
  have hread : readStatements (String.join (ss.flatMap Section.lines)) =
      some (ss.flatMap Section.statements) := by
    have hjoin := readStatements_join hlays
    simpa only [List.map_flatMap, Section.map_fst_layout, Section.map_snd_layout] using hjoin
  have hempty : Draft.empty.finish = some [] := rfl
  obtain ⟨d, hfold, hd⟩ := exists_foldlM_extend_sections hempty (by simpa using hkeys)
  simp [readDocument, hread, Fault.demand, hfold, hd, bind, Except.bind]

end Toml

end GotoAutomaton
