import GotoAutomaton.Config.File
import GotoAutomaton.Proofs.Toml.Section

/-!
# Documents of outlines

The document of an outline reads back as the configuration that it stands for, however its text is
put in quotes.  Neither the order of the sections nor that of the fields matters to what is found.
A field that is left out has its default, and so has a section; a section of which all fields are
left out has the default of the section, whether its header is there or not.

Main statement: `Outline.ofText_document`.
-/

namespace GotoAutomaton
namespace Outline

open Toml (Entries Field Quotes Section)

section Order

variable {α β : Type}

theorem map_inOrder
    (f : α → β)
    (first : Bool)
    (xs ys : List α) :
    (inOrder first xs ys).map f = inOrder first (xs.map f) (ys.map f) := by
  cases first <;> simp [inOrder]

theorem flatMap_inOrder
    (f : α → List β)
    (first : Bool)
    (xs ys : List α) :
    (inOrder first xs ys).flatMap f = inOrder first (xs.flatMap f) (ys.flatMap f) := by
  cases first <;> simp [inOrder]

theorem inOrder_swap
    (first : Bool)
    (xs ys : List α) :
    inOrder first xs ys = inOrder (!first) ys xs := by
  cases first <;> rfl

theorem forall_mem_inOrder
    {p : α → Prop}
    {first : Bool}
    {xs ys : List α}
    (hxs : ∀ x ∈ xs, p x)
    (hys : ∀ y ∈ ys, p y) :
    ∀ x ∈ inOrder first xs ys, p x := by
  cases first with
  | false =>
      exact List.forall_mem_append.2 ⟨hys, hxs⟩
  | true =>
      exact List.forall_mem_append.2 ⟨hxs, hys⟩

/-- What is read for an entry that may be left out, if its default is right then, and which may come
before or after others. -/
theorem field_inOrder
    {key : String}
    {present : Option α}
    {entryOf : α → String × Toml.Value}
    (hkey : ∀ c, present = some c → (entryOf c).1 = key)
    {read : Toml.Value → Option β}
    {absent value : β}
    (hread : ∀ c, present = some c → read (entryOf c).2 = some value)
    (habsent : present = none → absent = value)
    {rest : Entries}
    (hrest : key ∉ rest.map Prod.fst)
    (first : Bool) :
    Toml.field key read absent (inOrder first (present.map entryOf).toList rest) = some value := by
  have hfind : OrderedMap.find key (inOrder first (present.map entryOf).toList rest) =
      OrderedMap.find key (present.map entryOf).toList := by
    have hothers : OrderedMap.find key rest = none := OrderedMap.find_eq_none_iff.2 hrest
    cases first <;> simp [inOrder, OrderedMap.find_append, hothers]
  rw [Toml.field, hfind]
  cases present with
  | none =>
      rw [← habsent rfl]
      rfl
  | some c =>
      simp [OrderedMap.find, hkey c rfl, hread c rfl]

theorem forall_mem_toList_map
    {present : Option α}
    {entryOf : α → β}
    {p : β → Prop}
    (h : ∀ c, present = some c → p (entryOf c)) :
    ∀ e ∈ (present.map entryOf).toList, p e := by
  intro e he
  rw [Option.mem_toList, Option.map_eq_some_iff] at he
  obtain ⟨c, hc, rfl⟩ := he
  exact h c hc

/-- Nothing is left that has to fit if all keys have a meaning. -/
theorem entriesFit_others
    {keys : List String}
    {es : Entries}
    (hes : ∀ e ∈ es, e.1 ∈ keys) :
    Toml.entriesFit (Toml.others keys es) = true := by
  have hothers : Toml.others keys es = [] := by
    simpa [Toml.others] using hes
  rw [hothers]
  rfl

end Order

def ownershipField (b : Bool) : Field :=
  ⟨"check_ownership", .bool b, boolText b, by decide, Toml.writes_bool b⟩

def capacityField (n : Nat) : Field :=
  ⟨"initial_capacity", .int n, n.repr, by decide, Toml.writes_nat n⟩

def levelField
    {quote : String → String}
    (hquote : ∀ s, Quotes s (quote s))
    (s : String) :
    Field :=
  ⟨"level", .str s, quote s, by decide, Toml.writes_text (hquote s)⟩

def tableSection (o : Outline) : Section where
  key := "table"
  fields :=
    inOrder o.ownershipFirst
      (o.checkOwnership.map ownershipField).toList
      (o.initialCapacity.map capacityField).toList
  isBare := by decide
  nodup_keys := by
    cases o.ownershipFirst <;> cases o.checkOwnership <;> cases o.initialCapacity <;>
      simp [inOrder, ownershipField, capacityField]

def loggingSection
    {quote : String → String}
    (hquote : ∀ s, Quotes s (quote s))
    (o : Outline) :
    Section where
  key := "logging"
  fields := (o.level.map (levelField hquote)).toList
  isBare := by decide
  nodup_keys := by
    cases o.level <;> simp

/-- A section, if it has a field or needs a header. -/
def given (header : Bool) (s : Section) : Option Section :=
  if s.fields.isEmpty && !header then none else some s

/-- The sections in their order. -/
def sections
    {quote : String → String}
    (hquote : ∀ s, Quotes s (quote s))
    (o : Outline) :
    List Section :=
  inOrder o.tableFirst
    (given o.tableHeader o.tableSection).toList
    (given o.loggingHeader (o.loggingSection hquote)).toList

theorem eq_of_given
    {header : Bool}
    {s s' : Section}
    (hs : given header s = some s') :
    s' = s := by
  rw [given] at hs
  split at hs
  · cases hs
  · exact (Option.some.inj hs).symm

/-- Only a section without fields is left out. -/
theorem fields_of_given_eq_none
    {header : Bool}
    {s : Section}
    (hs : given header s = none) :
    s.fields = [] := by
  rw [given] at hs
  split at hs
  · next hempty =>
      rw [Bool.and_eq_true] at hempty
      exact List.isEmpty_iff.1 hempty.1
  · cases hs

theorem not_mem_map_fst_given
    {key : String}
    {header : Bool}
    {s : Section}
    (hkey : key ≠ s.key) :
    key ∉ ((given header s).map Section.entry).toList.map Prod.fst := by
  rw [given]
  split <;> simp [Section.entry, hkey]

theorem flatMap_lines_given
    (header : Bool)
    (s : Section) :
    (given header s).toList.flatMap Section.lines =
      sectionLines s.key header (s.fields.map Field.line) := by
  rw [given, sectionLines, List.isEmpty_map]
  split <;> simp [Section.lines]

theorem map_entry_tableSection (o : Outline) :
    o.tableSection.fields.map Field.entry =
      inOrder o.ownershipFirst
        (o.checkOwnership.map fun b => (ownershipField b).entry).toList
        (o.initialCapacity.map fun n => (capacityField n).entry).toList := by
  rw [tableSection, map_inOrder]
  simp [Option.toList_map, Function.comp_def]

theorem map_line_tableSection (o : Outline) :
    o.tableSection.fields.map Field.line = o.tableFields := by
  rw [tableSection, tableFields, map_inOrder]
  simp [Option.toList_map, Function.comp_def, Field.line, ownershipField, capacityField]

section Document

variable {quote : String → String} (hquote : ∀ s, Quotes s (quote s))

theorem map_entry_loggingSection (o : Outline) :
    (o.loggingSection hquote).fields.map Field.entry =
      inOrder true (o.level.map fun s => (levelField hquote s).entry).toList [] := by
  simp [loggingSection, inOrder, Option.toList_map, Function.comp_def]

theorem map_line_loggingSection (o : Outline) :
    (o.loggingSection hquote).fields.map Field.line = o.loggingFields quote := by
  simp [loggingSection, loggingFields, Option.toList_map, Function.comp_def, Field.line, levelField]

theorem map_entry_sections (o : Outline) :
    (o.sections hquote).map Section.entry =
      inOrder o.tableFirst
        ((given o.tableHeader o.tableSection).map Section.entry).toList
        ((given o.loggingHeader (o.loggingSection hquote)).map Section.entry).toList := by
  rw [sections, map_inOrder, Option.toList_map, Option.toList_map]

theorem flatMap_lines_sections (o : Outline) :
    (o.sections hquote).flatMap Section.lines = o.lines quote := by
  rw [sections, flatMap_inOrder, flatMap_lines_given, flatMap_lines_given, map_line_tableSection,
    map_line_loggingSection]
  rfl

theorem nodup_map_key_sections (o : Outline) : ((o.sections hquote).map Section.key).Nodup := by
  rw [sections, map_inOrder, given, given]
  cases o.tableFirst <;> split <;> split <;> simp [inOrder, tableSection, loggingSection]

theorem readDocument_document (o : Outline) :
    Toml.readDocument (o.document quote) = .ok ((o.sections hquote).map Section.entry) := by
  rw [document, ← flatMap_lines_sections hquote]
  exact Toml.readDocument_sections (nodup_map_key_sections hquote o)

theorem toNat?_int
    {n : Nat}
    (hn : n < UInt64.size) :
    Toml.Value.toNat? (.int n) = some n := by
  rw [Toml.Value.toNat?, if_pos ⟨Int.natCast_nonneg n, Int.ofNat_lt.2 hn⟩, Int.toNat_natCast]

theorem ofToml?_tableSection
    {o : Outline}
    (hcapacity : ∀ n, o.initialCapacity = some n → n < UInt64.size) :
    TableConfig.ofToml? o.tableSection.entry.2 = some o.config.table := by
  have hcheck : Toml.field "check_ownership" Toml.Value.toBool? TableConfig.defaultCheckOwnership
      (o.tableSection.fields.map Field.entry) = some o.config.table.checkOwnership := by
    rw [map_entry_tableSection]
    apply field_inOrder
    · exact fun _ _ => rfl
    · intro b hb
      simp [config, hb, Field.entry, ownershipField, Toml.Value.toBool?]
    · intro hnone
      simp [config, hnone, Config.default, TableConfig.default]
    · simp [Field.entry, capacityField]
  have hnumber : Toml.field "initial_capacity" Toml.Value.toNat? 0
      (o.tableSection.fields.map Field.entry) = some o.config.table.initialCapacity := by
    rw [map_entry_tableSection, inOrder_swap]
    apply field_inOrder
    · exact fun _ _ => rfl
    · intro n hn
      simp [config, hn, Field.entry, capacityField, toNat?_int (hcapacity n hn)]
    · intro hnone
      simp [config, hnone, Config.default, TableConfig.default]
    · simp [Field.entry, ownershipField]
  have hothers : Toml.entriesFit (Toml.others ["check_ownership", "initial_capacity"]
      (o.tableSection.fields.map Field.entry)) = true := by
    rw [map_entry_tableSection]
    apply entriesFit_others
    apply forall_mem_inOrder
    · exact forall_mem_toList_map fun b _ => List.mem_cons_self
    · exact forall_mem_toList_map fun n _ => List.mem_cons_of_mem _ List.mem_cons_self
  simp [Section.entry, TableConfig.ofToml?, hcheck, hnumber, hothers]

theorem ofToml?_loggingSection (o : Outline) :
    LoggingConfig.ofToml? (o.loggingSection hquote).entry.2 = some o.config.logging := by
  have hlevel : Toml.field "level" Toml.Value.toText? LoggingConfig.defaultLevel
      ((o.loggingSection hquote).fields.map Field.entry) = some o.config.logging.level := by
    rw [map_entry_loggingSection]
    apply field_inOrder
    · exact fun _ _ => rfl
    · intro s hs
      simp [config, hs, Field.entry, levelField, Toml.Value.toText?]
    · intro hnone
      simp [config, hnone, Config.default, LoggingConfig.default]
    · simp
  have hothers : Toml.entriesFit (Toml.others ["level"]
      ((o.loggingSection hquote).fields.map Field.entry)) = true := by
    rw [map_entry_loggingSection]
    apply entriesFit_others
    apply forall_mem_inOrder
    · exact forall_mem_toList_map fun s _ => List.mem_cons_self
    · exact List.forall_mem_nil _
  simp [Section.entry, LoggingConfig.ofToml?, hlevel, hothers]

/-- The sections are read as the configuration.  A section that is not written has no entries, and
is read as its default. -/
theorem ofEntries?_sections
    {o : Outline}
    (hcapacity : ∀ n, o.initialCapacity = some n → n < UInt64.size) :
    Config.ofEntries? ((o.sections hquote).map Section.entry) = some o.config := by
  have htable := ofToml?_tableSection hcapacity
  have hlogging := ofToml?_loggingSection hquote o
  have hfieldTable : Toml.field "table" TableConfig.ofToml? .default
      ((o.sections hquote).map Section.entry) = some o.config.table := by
    rw [map_entry_sections]
    apply field_inOrder
    · intro s hs
      rw [eq_of_given hs]
      rfl
    · intro s hs
      rw [eq_of_given hs, htable]
    · intro hnone
      rw [Section.entry, fields_of_given_eq_none hnone] at htable
      exact Option.some.inj htable
    · exact not_mem_map_fst_given (by decide : "table" ≠ "logging")
  have hfieldLogging : Toml.field "logging" LoggingConfig.ofToml? .default
      ((o.sections hquote).map Section.entry) = some o.config.logging := by
    rw [map_entry_sections, inOrder_swap]
    apply field_inOrder
    · intro s hs
      rw [eq_of_given hs]
      rfl
    · intro s hs
      rw [eq_of_given hs, hlogging]
    · intro hnone
      rw [Section.entry, fields_of_given_eq_none hnone] at hlogging
      exact Option.some.inj hlogging
    · exact not_mem_map_fst_given (by decide : "logging" ≠ "table")
  have hothers : Toml.entriesFit (Toml.others ["table", "logging"]
      ((o.sections hquote).map Section.entry)) = true := by
    rw [map_entry_sections]
    apply entriesFit_others
    apply forall_mem_inOrder
    · apply forall_mem_toList_map
      intro s hs
      rw [eq_of_given hs]
      exact List.mem_cons_self
    · apply forall_mem_toList_map
      intro s hs
      rw [eq_of_given hs]
      exact List.mem_cons_of_mem _ List.mem_cons_self
  simp [Config.ofEntries?, hfieldTable, hfieldLogging, hothers]

end Document

/-- A document is read as the configuration that it stands for: the fields in it have their values
and the others their defaults.  So a configuration that is written with all its fields is read
back. -/
theorem ofText_document
    {quote : String → String}
    (hquote : ∀ s, Quotes s (quote s)) :
    (∀ o : Outline,
      (∀ n, o.initialCapacity = some n → n < UInt64.size) →
      Config.ofText (o.document quote) = .ok o.config) ∧
    ∀ (tableFirst ownershipFirst : Bool) (c : Config),
      c.table.initialCapacity < UInt64.size →
      Config.ofText ((ofConfig tableFirst ownershipFirst c).document quote) = .ok c := by
  have hread : ∀ o : Outline,
      (∀ n, o.initialCapacity = some n → n < UInt64.size) →
      Config.ofText (o.document quote) = .ok o.config := by
    intro o hcapacity
    simp only [Config.ofText, readDocument_document hquote, ofEntries?_sections hquote hcapacity]
  refine ⟨hread, fun tableFirst ownershipFirst c hcapacity => ?_⟩
  exact hread (ofConfig tableFirst ownershipFirst c) fun n hn => Option.some.inj hn ▸ hcapacity

/-- A document with the section of the log first, with characters that are escaped and without the
field on ownership. -/
theorem ofText_document_escaped :
    let o : Outline := ⟨none, some 256, some "a\"b\\c\n", false, false, false, true⟩
    let c : Config := ⟨⟨true, 256⟩, ⟨"a\"b\\c\n"⟩⟩
    o.document Toml.quoteText =
        "[logging]\nlevel = \"a\\\"b\\\\c\\u000a\"\n[table]\ninitial_capacity = 256\n" ∧
      Config.ofText (o.document Toml.quoteText) = .ok c ∧
      Config.ofText ((ofConfig true false c).document Toml.quoteText) = .ok c := by
  intro o c
  refine ⟨by decide, ?_, ?_⟩
  · exact (ofText_document Toml.quotes_quoteText).1 o fun n hn => Option.some.inj hn ▸ by decide
  · exact (ofText_document Toml.quotes_quoteText).2 true false c (by decide)

end Outline
end GotoAutomaton
