import GotoAutomaton.Dot.Drawing

/-!
# Drawings read back and written

The reader of quoted strings ends at the first quote with an even number of backslashes right before
it, whatever the text is.  Since it reads an escaped text up to the quote that was put behind it, no
quote of the text itself closes the string, and the backslashes at the end of the text do not take
the quote behind them.

A drawing is read back from the document it is written as, whatever its labels are, if nothing has
to be escaped in its names.  A label ends at the quote that was put behind it, since every quote of
its own stands behind a backslash, and a name has no quote; so each line is read as the point or the
arrow it was written for, and a list of lines ends where a line does not start with a blank.

A document reaches a sink in many pieces, and the room of the sink may end anywhere: between two
pieces, within one, even within a character.  What the sink holds in the end and whether the writing
fails depend on the bytes of the whole document only, not on how they are cut into pieces.

Main statements: `exists_closesAt_of_readQuoted` and `escape_unbroken` for quoted strings,
`Drawing.read?_text` for documents, and `write_drawing_prefix` for sinks.
-/

namespace GotoAutomaton

namespace Dot

theorem escapeChars_eq_escapeOnce (cs : List Char) : escapeChars cs = escapeOnce cs := by
  induction cs with
  | nil =>
      rfl
  | cons c cs ih =>
      rw [escapeChars_cons, escapeOnce, ih]
      by_cases h : c = '\\' ∨ c = '"'
      · rw [if_pos h, if_pos h]
        rfl
      · rw [if_neg h, if_neg h]
        rfl

theorem toList_escape (s : String) : (escape s).toList = escapeChars s.toList :=
  String.toList_ofList

theorem escape_append (s t : String) : escape (s ++ t) = escape s ++ escape t := by
  rw [escape, String.toList_append, escapeChars_append, String.ofList_append]
  rfl

theorem finalBackslashes_le (cs : List Char) : finalBackslashes cs ≤ cs.length := by
  calc
    finalBackslashes cs ≤ cs.reverse.length := (List.takeWhile_sublist _).length_le
    _ = cs.length := List.length_reverse

/-- A character in front counts only if it is a backslash and nothing else follows. -/
theorem finalBackslashes_cons
    (c : Char)
    (cs : List Char) :
    finalBackslashes (c :: cs) =
      if finalBackslashes cs = cs.length ∧ c = '\\' then cs.length + 1
      else finalBackslashes cs := by
  simp only [finalBackslashes, List.reverse_cons, List.takeWhile_append, List.length_reverse]
  by_cases hall : (cs.reverse.takeWhile (· = '\\')).length = cs.length
  · by_cases hc : c = '\\'
    · simp [hall, hc]
    · simp [hall, hc]
  · simp [hall]

/-- A backslash in front and the character that it takes leave the parity as it is. -/
theorem finalBackslashes_taken
    (c : Char)
    (cs : List Char) :
    finalBackslashes ('\\' :: c :: cs) % 2 = finalBackslashes cs % 2 := by
  have hle := finalBackslashes_le cs
  rw [finalBackslashes_cons, finalBackslashes_cons, List.length_cons]
  by_cases hall : finalBackslashes cs = cs.length ∧ c = '\\'
  · rw [if_pos hall, if_pos ⟨rfl, rfl⟩]
    omega
  · rw [if_neg hall, if_neg]
    omega

theorem finalBackslashes_cons_of_ne
    {c : Char}
    (hc : c ≠ '\\')
    (cs : List Char) :
    finalBackslashes (c :: cs) = finalBackslashes cs := by
  rw [finalBackslashes_cons, if_neg]
  exact fun h => hc h.2

theorem closesAt_cons_zero
    (c : Char)
    (cs : List Char) :
    ClosesAt (c :: cs) 0 ↔ c = '"' := by
  simp [ClosesAt, finalBackslashes]

theorem closesAt_cons_succ
    {c : Char}
    (hc : c ≠ '\\')
    (cs : List Char)
    (n : Nat) :
    ClosesAt (c :: cs) (n + 1) ↔ ClosesAt cs n := by
  rw [ClosesAt, ClosesAt, List.getElem?_cons_succ, List.take_succ_cons,
    finalBackslashes_cons_of_ne hc]

/-- The character behind a backslash closes nothing. -/
theorem not_closesAt_taken
    (c : Char)
    (cs : List Char) :
    ¬ ClosesAt ('\\' :: c :: cs) 1 := by
  simp [ClosesAt, finalBackslashes]

theorem closesAt_taken
    (c : Char)
    (cs : List Char)
    (n : Nat) :
    ClosesAt ('\\' :: c :: cs) (n + 2) ↔ ClosesAt cs n := by
  rw [ClosesAt, ClosesAt, List.getElem?_cons_succ, List.getElem?_cons_succ, List.take_succ_cons,
    List.take_succ_cons, finalBackslashes_taken]

/-- The reader ends at the first quote that closes the string. -/
theorem exists_closesAt_of_readQuoted
    {cs ds rest : List Char}
    (h : readQuoted cs = some (ds, rest)) :
    ∃ body, cs = body ++ '"' :: rest ∧
      ClosesAt cs body.length ∧
      ∀ n < body.length, ¬ ClosesAt cs n := by
  fun_induction readQuoted cs generalizing ds with
  | case1 =>
      cases h
  | case2 tail =>
      cases h
      exact ⟨[], rfl, (closesAt_cons_zero _ _).2 rfl, by simp⟩
  | case3 c tail ih =>
      obtain ⟨⟨es, _⟩, hread, heq⟩ := Option.map_eq_some_iff.1 h
      cases heq
      obtain ⟨body, rfl, hcloses, hfirst⟩ := ih hread
      refine ⟨'\\' :: c :: body, rfl, (closesAt_taken _ _ _).2 hcloses, ?_⟩
      intro n hn
      match n with
      | 0 => simp [closesAt_cons_zero]
      | 1 => exact not_closesAt_taken _ _
      | n + 2 =>
          rw [closesAt_taken]
          exact hfirst n (by simpa using hn)
  | case4 =>
      cases h
  | case5 c tail hquote htaken hlast ih =>
      have hc : c ≠ '\\' := by
        intro hc
        cases tail with
        | nil =>
            exact hlast hc rfl
        | cons d tail =>
            exact htaken d tail hc rfl
      obtain ⟨⟨es, _⟩, hread, heq⟩ := Option.map_eq_some_iff.1 h
      cases heq
      obtain ⟨body, rfl, hcloses, hfirst⟩ := ih hread
      refine ⟨c :: body, rfl, (closesAt_cons_succ hc _ _).2 hcloses, ?_⟩
      intro n hn
      match n with
      | 0 =>
          rw [closesAt_cons_zero]
          exact hquote
      | n + 1 =>
          rw [closesAt_cons_succ hc]
          exact hfirst n (Nat.lt_of_succ_lt_succ hn)

/-- An escaped text cannot be broken out of.  Replacing the backslashes and then the quotes is one
pass over the text, and texts can be escaped part by part.  The reader of quoted strings reads an
escaped text up to the quote put behind it, whatever follows, and gives the text back; and this
quote is the first one that an even number of backslashes precedes, so no quote of the text closes
the string and no backslash of the text takes the quote behind it. -/
theorem escape_unbroken (s t rest : String) :
    (escape s).toList = escapeOnce s.toList ∧
    escape (s ++ t) = escape s ++ escape t ∧
    let written := (escape s ++ "\"" ++ rest).toList
    readQuoted written = some (s.toList, rest.toList) ∧
    ClosesAt written (escape s).length ∧
    ∀ n < (escape s).length, ¬ ClosesAt written n := by
  refine ⟨?_, escape_append s t, ?_⟩
  · rw [toList_escape, escapeChars_eq_escapeOnce]
  · intro written
    have hwritten : written = (escape s).toList ++ '"' :: rest.toList := by
      simp [written]
    have hread : readQuoted written = some (s.toList, rest.toList) := by
      rw [hwritten, toList_escape, readQuoted_escapeChars]
    obtain ⟨body, hbody, hcloses⟩ := exists_closesAt_of_readQuoted hread
    obtain rfl : body = (escape s).toList :=
      List.append_cancel_right (hbody.symm.trans hwritten)
    rw [String.length_toList] at hcloses
    exact ⟨hread, hcloses⟩

/-- A quote between two backslashes, with another quote behind the one that closes the string. -/
theorem escape_unbroken_backslashes :
    let s := "\\\"\\"
    let written := (escape s ++ "\"" ++ "\"").toList
    (escape s).toList = ['\\', '\\', '\\', '"', '\\', '\\'] ∧
      readQuoted written = some (s.toList, "\"".toList) ∧
      written[3]? = some '"' ∧ ¬ ClosesAt written 3 ∧ ClosesAt written 6 := by
  intro s written
  have hescape : (escape s).toList = ['\\', '\\', '\\', '"', '\\', '\\'] := by
    decide
  have hlength : (escape s).length = 6 := by
    rw [← String.length_toList, hescape]
    rfl
  obtain ⟨_, _, hread, hcloses, hfirst⟩ := escape_unbroken s "" "\""
  rw [hlength] at hcloses hfirst
  exact ⟨hescape, hread, by decide, hfirst 3 (by decide), hcloses⟩

theorem strip_append (fixed rest : List Char) :
    strip fixed (fixed ++ rest) = some rest := by
  induction fixed with
  | nil =>
      rfl
  | cons c fixed ih =>
      simp [strip, ih]

theorem toList_quote (s : String) :
    (quote s).toList = '"' :: (escapeChars s.toList ++ ['"']) := by
  simp [quote, escape]

/-- A quoted text is read as the text, and nothing behind its last quote is touched. -/
theorem readAfter_quote
    (fixed s : String)
    (rest : List Char) :
    readAfter fixed (fixed.toList ++ ((quote s).toList ++ rest)) = some (s, rest) := by
  have hquoted : (quote s).toList ++ rest = ['"'] ++ (escapeChars s.toList ++ '"' :: rest) := by
    rw [toList_quote]
    simp
  rw [readAfter, strip_append, Option.bind_some, hquoted, strip_append, Option.bind_some,
    readQuoted_escapeChars, Option.map_some]
  simp only [String.ofList_toList]

/-- A bare name is written as if it were escaped. -/
theorem toList_line_point
    {p : Point}
    (hname : Bare p.name) :
    p.line.toList =
      "  ".toList ++ ((quote p.name).toList ++
        (" [label=".toList ++ ((quote p.label).toList ++ "];\n".toList))) := by
  rw [quote_of_bare hname]
  simp [Point.line]

theorem toList_line_arrow
    {a : Arrow}
    (htail : Bare a.tail)
    (hhead : Bare a.head) :
    a.line.toList =
      "  ".toList ++ ((quote a.tail).toList ++
        (" -> ".toList ++ ((quote a.head).toList ++
          (" [label=".toList ++ ((quote a.label).toList ++ "];\n".toList))))) := by
  rw [quote_of_bare htail, quote_of_bare hhead]
  simp [Arrow.line]

theorem readPoint_line
    {p : Point}
    (hname : Bare p.name)
    (rest : List Char) :
    readPoint (p.line.toList ++ rest) = some (p, rest) := by
  rw [toList_line_point hname, readPoint]
  simp only [List.append_assoc, readAfter_quote, strip_append, Option.bind_some, Option.map_some]

theorem readArrow_line
    {a : Arrow}
    (htail : Bare a.tail)
    (hhead : Bare a.head)
    (rest : List Char) :
    readArrow (a.line.toList ++ rest) = some (a, rest) := by
  rw [toList_line_arrow htail hhead, readArrow]
  simp only [List.append_assoc, readAfter_quote, strip_append, Option.bind_some, Option.map_some]

theorem exists_line_point (p : Point) : ∃ cs, p.line.toList = ' ' :: cs := by
  simp only [Point.line, String.toList_append]
  exact ⟨_, rfl⟩

theorem exists_line_arrow (a : Arrow) : ∃ cs, a.line.toList = ' ' :: cs := by
  simp only [Arrow.line, String.toList_append]
  exact ⟨_, rfl⟩

section Items

variable {α : Type} {item : List Char → Option (α × List Char)} {line : α → String}

/-- Lines that start with a blank are read back as items one after the other, up to what does not
start with a blank. -/
theorem readItems_lines
    {xs : List α}
    (hitem : ∀ x ∈ xs, ∀ rest, item ((line x).toList ++ rest) = some (x, rest))
    (hblank : ∀ x, ∃ cs, (line x).toList = ' ' :: cs)
    {rest : List Char}
    (hrest : rest.head? ≠ some ' ')
    {bound : Nat}
    (hbound : xs.length < bound) :
    readItems item bound (xs.flatMap (fun x => (line x).toList) ++ rest) = some (xs, rest) := by
  induction xs generalizing bound with
  | nil =>
      obtain ⟨bound, rfl⟩ := Nat.exists_eq_succ_of_ne_zero (Nat.ne_of_gt hbound)
      cases rest with
      | nil =>
          rfl
      | cons c rest =>
          have hc : c ≠ ' ' := by simpa using hrest
          simp [readItems, hc]
  | cons x xs ih =>
      obtain ⟨bound, rfl⟩ := Nat.exists_eq_succ_of_ne_zero (Nat.ne_of_gt (Nat.zero_lt_of_lt hbound))
      obtain ⟨hitem, hitems⟩ := List.forall_mem_cons.1 hitem
      have hxs := ih hitems (Nat.lt_of_succ_lt_succ hbound)
      have hx := hitem (xs.flatMap (fun x => (line x).toList) ++ rest)
      obtain ⟨cs, hcs⟩ := hblank x
      rw [hcs] at hx
      rw [List.flatMap_cons, List.append_assoc, hcs]
      simp only [List.cons_append] at hx ⊢
      simp only [readItems, hx, hxs, Option.bind_some, Option.map_some]

/-- A text has no fewer characters than it has lines. -/
theorem length_le_length_lines
    (hblank : ∀ x, ∃ cs, (line x).toList = ' ' :: cs)
    (xs : List α) :
    xs.length ≤ (xs.flatMap fun x => (line x).toList).length := by
  induction xs with
  | nil =>
      exact Nat.le_refl 0
  | cons x xs ih =>
      obtain ⟨cs, hcs⟩ := hblank x
      rw [List.flatMap_cons, hcs, List.length_append, List.length_cons, List.length_cons]
      omega

end Items

namespace Drawing

/-- The document of a drawing part by part. -/
theorem toList_text (d : Drawing) :
    d.text.toList =
      (String.join heading).toList ++ (d.points.flatMap (fun p => p.line.toList) ++
        (['\n'] ++ (d.arrows.flatMap (fun a => a.line.toList) ++ "\x7d\n".toList))) := by
  simp [text, lines, String.toList_join, List.flatMap_map]

/-- Reading a document with bare names gives the drawing that it was written for.  Neither the blank
line behind the points nor the last line starts with a blank, so the lines of the points and those
of the arrows end there. -/
theorem read?_text
    {d : Drawing}
    (hd : d.BareNames) :
    read? d.text = some d := by
  have hlength := congrArg List.length d.toList_text
  simp only [List.length_append, String.length_toList] at hlength
  have hpointsBound : d.points.length < d.text.length + 1 := by
    have := length_le_length_lines exists_line_point d.points
    omega
  have harrowsBound : d.arrows.length < d.text.length + 1 := by
    have := length_le_length_lines exists_line_arrow d.arrows
    omega
  have hpoints (rest : List Char) :
      readItems readPoint (d.text.length + 1)
          (d.points.flatMap (fun p => p.line.toList) ++ (['\n'] ++ rest)) =
        some (d.points, ['\n'] ++ rest) :=
    readItems_lines (fun p hp => readPoint_line (hd.points p hp)) exists_line_point (by simp)
      hpointsBound
  have harrows :
      readItems readArrow (d.text.length + 1)
          (d.arrows.flatMap (fun a => a.line.toList) ++ "\x7d\n".toList) =
        some (d.arrows, "\x7d\n".toList) :=
    readItems_lines (fun a ha => readArrow_line (hd.tails a ha) (hd.heads a ha)) exists_line_arrow
      (by decide) harrowsBound
  have hend : strip "\x7d\n".toList "\x7d\n".toList = some [] := by
    decide
  rw [read?, toList_text]
  simp only [strip_append, hpoints, harrows, hend, Option.bind_some, List.isEmpty_nil, if_true]

end Drawing
end Dot

namespace Sink

theorem length_bytes (s : String) : (bytes s).length = s.utf8ByteSize := by
  simp [bytes]

/-- Writing is known from the bytes of all pieces together. -/
theorem write_eq
    (room : Nat)
    (pieces : List (List UInt8)) :
    write room pieces =
      ⟨pieces.flatten.take room,
        if pieces.flatten.length ≤ room then .ok () else .error full⟩ := by
  rw [← held_write, ← result_write]

/-- It does not matter how bytes are cut into pieces. -/
theorem write_congr
    {pieces pieces' : List (List UInt8)}
    (h : pieces.flatten = pieces'.flatten)
    (room : Nat) :
    write room pieces = write room pieces' := by
  rw [write_eq, write_eq, h]

end Sink

namespace Dot

/-- Writing a drawing is known from the bytes of its text. -/
theorem Drawing.write_eq
    (d : Drawing)
    (room : Nat) :
    d.write room =
      ⟨(Sink.bytes d.text).take room,
        if d.text.utf8ByteSize ≤ room then .ok () else .error Sink.full⟩ := by
  rw [Drawing.write, Sink.write_eq, d.flatten_map_bytes_lines, Sink.length_bytes]

end Dot

namespace Graph

variable {σ : Type} [Symbol σ]

/-- Writing the document of a graph into a sink succeeds exactly if the sink has room for all of its
bytes.  In any case the sink holds the first bytes of the document, as many as there are or as it
has room for, so nothing is left out, put in another place or written after a failure; and a failure
is one of writing.  All this is the same however the document is cut into pieces. -/
theorem write_drawing_prefix
    (g : Graph σ)
    (r : Registry)
    (room : Nat) :
    let text := (g.drawing r).text
    let written := (g.drawing r).write room
    (written.result = .ok () ↔ text.utf8ByteSize ≤ room) ∧
    written.held = (Sink.bytes text).take (min room text.utf8ByteSize) ∧
    (∀ e, written.result = .error e → e = .io "failed to write whole buffer") ∧
    ∀ pieces, pieces.flatten = Sink.bytes text → Sink.write room pieces = written := by
  intro text written
  have hwritten : written =
      ⟨(Sink.bytes text).take room,
        if text.utf8ByteSize ≤ room then .ok () else .error Sink.full⟩ :=
    (g.drawing r).write_eq room
  refine ⟨?_, ?_, ?_, ?_⟩
  · rw [hwritten]
    simp
  · rw [hwritten, ← Sink.length_bytes, List.take_eq_take_min]
  · intro e he
    rw [hwritten] at he
    dsimp only at he
    split at he
    · cases he
    · cases he
      rfl
  · intro pieces hpieces
    exact Sink.write_congr (hpieces.trans (g.drawing r).flatten_map_bytes_lines.symm) room

/-- A sink whose room ends within a character, given the document as one piece for each byte. -/
theorem write_drawing_prefix_cut :
    let x : StateId := ⟨.first, 0⟩
    let d := ((empty : Graph String).addTransition ⟨x, "é", x⟩).drawing (.empty .first)
    let written := d.write 104
    d.text.utf8ByteSize = 111 ∧
      written.result = .error (.io "failed to write whole buffer") ∧
      written.held.getLast? = some 0xC3 ∧
      Sink.write 104 ((Sink.bytes d.text).map fun b => [b]) = written := by
  intro x d written
  have hd : d = ⟨[⟨"S0", "S0"⟩], [⟨"S0", "S0", "é"⟩]⟩ := by
    simp only [d, x]
    cbv
  have hsize : d.text.utf8ByteSize = 111 := by
    rw [hd]
    decide +kernel
  have hlast : ((Sink.bytes d.text).take (min 104 111)).getLast? = some 0xC3 := by
    rw [hd]
    decide +kernel
  obtain ⟨hok, hheld, hfailure, hpieces⟩ := write_drawing_prefix
    ((empty : Graph String).addTransition ⟨x, "é", x⟩) (.empty .first) 104
  refine ⟨hsize, ?_, ?_, hpieces _ ?_⟩
  · cases hresult : written.result with
    | ok u =>
        have hroom : d.text.utf8ByteSize ≤ 104 := hok.1 hresult
        omega
    | error e =>
        rw [hfailure e hresult]
  · have hheld : written.held = (Sink.bytes d.text).take (min 104 d.text.utf8ByteSize) := hheld
    rw [hheld, hsize, hlast]
  · rw [← List.flatMap_def, List.flatMap_singleton']

end Graph

end GotoAutomaton
