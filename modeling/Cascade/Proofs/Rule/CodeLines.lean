import Cascade.Proofs.Rule.Layout

/-!
# The lines a written rule counts for

A physical line counts for its header, its conditions and its then-clause one by one.  So the lines
that count for a written rule are the same whether or not its header and its clauses share a line:
the header, the rows of the conditions and the rows of the actions
(`exists_flatMap_codeTexts_lines`).
Idle lines and blanks around rows count for nothing.
-/

namespace Cascade

open Text (IsTrimmed isLineBreak isBlank isWord)

/-! ## Physical lines -/

/-- The texts of the lines a physical line counts for. -/
def codeTexts (physical : List Char) : List (List Char) :=
  (linesOf 0 physical).map SourceLine.text

lemma map_text_linesOf (number : Nat) (physical : List Char) :
    (linesOf number physical).map SourceLine.text = codeTexts physical := by
  simp only [codeTexts, linesOf]
  split
  · rfl
  · simp [Function.comp_def]

lemma map_text_significantLinesFrom (number : Nat) (physical : List (List Char)) :
    (significantLinesFrom number physical).map SourceLine.text = physical.flatMap codeTexts := by
  induction physical generalizing number with
  | nil => rfl
  | cons line rest ih =>
    rw [significantLinesFrom, List.map_append, map_text_linesOf, ih, List.flatMap_cons]

lemma IdleLine.codeTexts_eq_nil (idle : IdleLine) : codeTexts idle.text = [] := by
  rw [codeTexts, idle.linesOf_eq_nil, List.map_nil]

/-- A text that can stand on a line of its own and is no comment. -/
structure IsCode (row : List Char) : Prop where
  nonempty : row ≠ []
  trimmed : IsTrimmed row
  unbroken : ∀ c ∈ row, isLineBreak c = false
  no_comment : row.head? ≠ some '#'

lemma IsCode.join {s t : List Char} (hs : IsCode s) (ht : IsCode t) : IsCode (s ++ ' ' :: t) where
  nonempty := by simp
  trimmed := isTrimmed_append_space hs.trimmed ht.trimmed hs.nonempty ht.nonempty
  unbroken := unbroken_append_space hs.unbroken ht.unbroken
  no_comment := by
    obtain ⟨c, rest, rfl⟩ := List.exists_cons_of_ne_nil hs.nonempty
    exact hs.no_comment

/-- A line is cut as the code on it. -/
lemma codeTexts_of_trim_eq {row physical : List Char} (h : IsCode row)
    (htrim : Text.trim physical = row) : codeTexts physical = cutLine row := by
  have hcode : (row.isEmpty || row.head? == some '#') = false := by
    simpa [h.nonempty] using h.no_comment
  simp only [codeTexts, linesOf, htrim, hcode, Bool.false_eq_true, if_false, List.map_map]
  exact List.map_id _

/-- Margins count for nothing. -/
lemma flatMap_codeTexts_withMargins {margin : Nat → Margin} {rows : List (List Char)}
    (h : ∀ row ∈ rows, IsCode row) :
    (withMargins margin rows).flatMap codeTexts = rows.flatMap cutLine := by
  induction rows generalizing margin with
  | nil => rfl
  | cons row rows ih =>
    have habove : ((margin 0).above.map IdleLine.text).flatMap codeTexts = [] := by
      rw [List.flatMap_eq_nil_iff]
      intro line hline
      obtain ⟨idle, -, rfl⟩ := List.mem_map.mp hline
      exact idle.codeTexts_eq_nil
    have hrow : IsCode row := h row List.mem_cons_self
    have htrim :=
      Text.trim_blanks_append (margin 0).before.blank (margin 0).after.blank hrow.trimmed
    rw [withMargins, List.flatMap_append, habove, List.nil_append, List.flatMap_cons,
      codeTexts_of_trim_eq hrow htrim, ih fun r hr => h r (List.mem_cons_of_mem row hr),
      List.flatMap_cons]

lemma unbroken_withMargins {margin : Nat → Margin} {rows : List (List Char)}
    (h : ∀ row ∈ rows, IsCode row) :
    ∀ line ∈ withMargins margin rows, ∀ c ∈ line, isLineBreak c = false := by
  induction rows generalizing margin with
  | nil =>
    intro line hline
    cases hline
  | cons row rows ih =>
    intro line hline c hc
    rw [withMargins, List.mem_append, List.mem_cons] at hline
    rcases hline with hline | rfl | hline
    · obtain ⟨idle, -, rfl⟩ := List.mem_map.mp hline
      exact idle.unbroken c hc
    · rcases List.mem_append.mp hc with hc | hc
      · rcases List.mem_append.mp hc with hc | hc
        · exact (margin 0).before.unbroken c hc
        · exact (h row List.mem_cons_self).unbroken c hc
      · exact (margin 0).after.unbroken c hc
    · exact ih (fun r hr => h r (List.mem_cons_of_mem row hr)) line hline c hc

/-! ## Rows of clauses -/

/-- A row of a clause: neither a header nor a then-clause begins in it. -/
structure IsRow (row : List Char) : Prop where
  phrase : IsPhrase ["then".toList] row
  opening : row.takeWhile isWord ∉ ["rule".toList, "then".toList]
  no_comment : row.head? ≠ some '#'

variable {s t row r : List Char}

lemma IsRow.isCode (h : IsRow row) : IsCode row :=
  ⟨h.phrase.nonempty, h.phrase.trimmed, h.phrase.unbroken, h.no_comment⟩

lemma takeWhile_isWord_space (s t : List Char) :
    (s ++ ' ' :: t).takeWhile isWord = s.takeWhile isWord :=
  takeWhile_isWord_append endsWord_space

lemma IsRow.join (hs : IsRow s) (ht : IsRow t) : IsRow (s ++ ' ' :: t) where
  phrase := hs.phrase.join ht.phrase (by decide)
  opening := by
    rw [takeWhile_isWord_space]
    exact hs.opening
  no_comment := (hs.isCode.join ht.isCode).no_comment

/-- Texts that do not begin with the word `rule` are no headers. -/
lemma readHeader_eq_none (h : row.takeWhile isWord ≠ "rule".toList) : readHeader row = none := by
  unfold readHeader
  split
  · next c rest hafter =>
    rw [if_neg]
    intro hc
    exact h (takeWhile_isWord_of_after? (by decide) hafter (endsWord_of_isBlank hc))
  · rfl

lemma IsRow.readHeader_eq_none (h : IsRow row) : readHeader row = none :=
  Cascade.readHeader_eq_none fun hrule => h.opening (hrule ▸ List.mem_cons_self)

lemma cutLine_of_readHeader_eq_none (h : readHeader row = none) :
    cutLine row = (splitThen row).filter (!·.isEmpty) := by
  simp only [cutLine, h]

/-- A text without hits is not cut. -/
lemma splitThen_of_quiet (h : Quiet ThenHit .outside none row []) : splitThen row = [row] := by
  have hcut := cutThen?_append h
  rw [List.append_nil] at hcut
  rw [splitThen, hcut]
  rfl

lemma quiet_then_of_phrase (h : IsPhrase ["then".toList] row) (last : Option Char)
    {rest : List Char} (hrest : endsWord rest = true) : Quiet ThenHit .outside last row rest :=
  (h.quiet last rest hrest).mono fun _ _ => ThenHit.wordHit List.mem_cons_self

/-- A line without hits that is no header counts for itself. -/
lemma cutLine_of_quiet (hne : row ≠ []) (hheader : readHeader row = none)
    (hquiet : Quiet ThenHit .outside none row []) : cutLine row = [row] := by
  rw [cutLine_of_readHeader_eq_none hheader, splitThen_of_quiet hquiet]
  simp [hne]

lemma flatMap_cutLine_eq_self {rows : List (List Char)} (h : ∀ row ∈ rows, cutLine row = [row]) :
    rows.flatMap cutLine = rows := by
  induction rows with
  | nil => rfl
  | cons row rows ih =>
    rw [List.flatMap_cons, h row List.mem_cons_self,
      ih fun r hr => h r (List.mem_cons_of_mem row hr), List.singleton_append]

/-- A row counts for itself. -/
lemma IsRow.cutLine_eq (h : IsRow row) : cutLine row = [row] :=
  cutLine_of_quiet h.phrase.nonempty h.readHeader_eq_none (quiet_then_of_phrase h.phrase none rfl)

lemma isCode_then (h : IsRow r) : IsCode ("then ".toList ++ r) := by
  have hword : IsPhrase [] "then".toList := isPhrase_of_isPlainPhrase (by decide)
  have hcode : IsCode "then".toList :=
    ⟨hword.nonempty, hword.trimmed, hword.unbroken, by decide⟩
  have hjoin := hcode.join h.isCode
  simpa using hjoin

/-- The row of a then-clause counts for itself. -/
lemma cutLine_then (h : Quiet ThenHit .outside (some ' ') r []) :
    cutLine ("then ".toList ++ r) = ["then ".toList ++ r] := by
  have hword : (' ' : Char) ∉ "then".toList := by decide
  refine cutLine_of_quiet (by simp) rfl ?_
  rw [quiet_append]
  exact ⟨quiet_word_space (fun _ _ hit => hit.1) hword (by simp) _, h⟩

/-- A then-clause behind something else counts for a line of its own. -/
lemma cutLine_row_then (hcode : IsCode row) (hsteps : Nesting.outside.steps row = .outside)
    (hheader : readHeader (row ++ ' ' :: ("then ".toList ++ r)) = none)
    (hquiet : Quiet ThenHit .outside none (row ++ [' ']) ("then ".toList ++ r)) :
    cutLine (row ++ ' ' :: ("then ".toList ++ r)) = [row, "then ".toList ++ r] := by
  have hthen : cutThen? .outside (some ' ') ("then ".toList ++ r) =
      some ([], "then ".toList ++ r) := rfl
  have hspace : Nesting.outside.steps (row ++ [' ']) = .outside := by
    rw [Nesting.steps_append, hsteps]
    decide
  have htrim : Text.trim (row ++ [' ']) = row := by
    rw [Text.trim_append_blanks fun _ => Text.isBlank_of_mem_space, hcode.trimmed.trim_eq]
  rw [cutLine_of_readHeader_eq_none hheader, splitThen, ← List.singleton_append,
    ← List.append_assoc, cutThen?_append hquiet, hspace, lastOf_space, hthen]
  simp [htrim, hcode.nonempty]

lemma IsRow.cutLine_then (h : IsRow row) (r : List Char) :
    cutLine (row ++ ' ' :: ("then ".toList ++ r)) = [row, "then ".toList ++ r] := by
  refine cutLine_row_then h.isCode h.phrase.balanced.steps_outside ?_ ?_
  · refine Cascade.readHeader_eq_none ?_
    rw [takeWhile_isWord_space]
    exact fun hrule => h.opening (hrule ▸ List.mem_cons_self)
  · exact (h.phrase.quiet_space (by decide) _ _).mono fun _ _ => ThenHit.wordHit List.mem_cons_self

/-- The rows of conditions and of actions are cut where the then-clause begins. -/
lemma exists_flatMap_cutLine_rows (gap : Nat → Gap) {pieces more : List (List Char)}
    (hpieces : ∀ piece ∈ pieces, IsRow piece) (hmore : ∀ piece ∈ more, IsRow piece)
    (hne : more ≠ []) :
    ∃ gap', (rows gap (pieces ++ leadFirst "then ".toList more)).flatMap cutLine =
      rows gap pieces ++ leadFirst "then ".toList (rows gap' more) := by
  have hself : ∀ l : List (List Char), (∀ row ∈ l, IsRow row) → l.flatMap cutLine = l :=
    fun l hl => flatMap_cutLine_eq_self fun row hrow => (hl row hrow).cutLine_eq
  have hlead : leadFirst "then ".toList more ≠ [] := by
    obtain ⟨piece, rest, rfl⟩ := List.exists_cons_of_ne_nil hne
    exact List.cons_ne_nil _ _
  have hrows : ∀ row ∈ rows gap pieces, IsRow row := forall_mem_rows hpieces fun _ _ => IsRow.join
  obtain ⟨gap', h⟩ := exists_rows_append gap pieces hlead
  have hrows' : ∀ row ∈ rows gap' more, IsRow row := forall_mem_rows hmore fun _ _ => IsRow.join
  obtain ⟨first, rest, hfirst⟩ := List.exists_cons_of_ne_nil (rows_eq_nil_iff.not.mpr hne)
  refine ⟨gap', ?_⟩
  rw [rows_leadFirst, hfirst] at h
  rw [hfirst] at hrows' ⊢
  have hr : IsRow first := hrows' first List.mem_cons_self
  have hrest := hself rest fun row hrow => hrows' row (List.mem_cons_of_mem first hrow)
  rcases h with h | ⟨front, last, first', rest', hfront, heq, h⟩
  · rw [h, List.flatMap_append, hself _ hrows, leadFirst, List.flatMap_cons,
      cutLine_then (quiet_then_of_phrase hr.phrase _ rfl), hrest]
    rfl
  · obtain ⟨rfl, rfl⟩ := List.cons.inj heq
    rw [hfront] at hrows ⊢
    have hlast : IsRow last := hrows last (List.mem_append_right front List.mem_cons_self)
    have hleft := hself front fun row hrow => hrows row (List.mem_append_left [last] hrow)
    rw [h, List.flatMap_append, hleft, List.flatMap_cons, hlast.cutLine_then, hrest, leadFirst]
    simp

/-! ## Headers -/

section
variable {rule : Rule}

/-- The name of a written header is read, and what follows its colon. -/
lemma readHeader_header (h : rule.IsNamed) (rest : List Char) :
    readHeader (rule.header ++ rest) = some (rule.name.toList, rest) := by
  have htext : rule.header ++ rest =
      "rule".toList ++ ' ' :: '"' :: (rule.name.toList ++ '"' :: ':' :: rest) := by
    simp [Rule.header, quotedLiteral]
  have hblank : isBlank ' ' = true := by decide
  have hstart (text : List Char) : Text.trimStart ('"' :: text) = '"' :: text :=
    Text.trimStart_cons_of_not_isBlank (by decide) text
  have hall : ∀ c ∈ rule.name.toList, decide (c ≠ '"') = true := fun c hc =>
    decide_eq_true (h.name c hc).1
  have htake : (rule.name.toList ++ '"' :: ':' :: rest).takeWhile (· ≠ '"') = rule.name.toList := by
    rw [List.takeWhile_append_of_pos hall]
    simp
  have hdrop :
      (rule.name.toList ++ '"' :: ':' :: rest).dropWhile (· ≠ '"') = '"' :: ':' :: rest := by
    rw [List.dropWhile_append_of_pos hall]
    simp
  have hempty : rule.name.toList.isEmpty = false :=
    List.isEmpty_eq_false_iff.mpr fun hnil => h.name_ne (String.toList_eq_nil_iff.mp hnil)
  rw [htext]
  simp only [readHeader, Text.after?_append, hblank, hstart, htake, hdrop, hempty, if_true,
    Bool.false_eq_true, if_false]

lemma header_ne_nil : rule.header ≠ [] := List.cons_ne_nil _ _

lemma isCode_header (h : rule.IsNamed) : IsCode rule.header := by
  have hlast : rule.header.getLast? = some ':' := by
    rw [Rule.header, List.getLast?_append_of_ne_nil _ (by simp)]
    simp
  refine ⟨header_ne_nil, ⟨fun c hc => ?_, fun c hc => ?_⟩, fun c hc => ?_, ?_⟩
  · obtain rfl : 'r' = c := Option.some.inj hc
    decide
  · rw [hlast] at hc
    obtain rfl : ':' = c := Option.some.inj hc
    decide
  · simp only [Rule.header, quotedLiteral, List.mem_append, List.mem_cons, List.not_mem_nil,
      or_false] at hc
    rcases hc with hc | (rfl | hc | rfl) | rfl
    · exact unbroken_of_all (show "rule ".toList.all (!isLineBreak ·) = true by decide) c hc
    · decide
    · exact (h.name c hc).2
    · decide
    · decide
  · exact fun hhead => absurd (Option.some.inj hhead) (by decide)

/-- A header by itself counts for itself. -/
lemma cutLine_header (h : rule.IsNamed) : cutLine rule.header = [rule.header] := by
  have hheader := readHeader_header h []
  have hquote : '"' ∉ rule.name.toList := fun hmem => (h.name _ hmem).1 rfl
  have hword : (' ' : Char) ∉ "rule".toList := by decide
  have hbalanced : Balanced (quotedLiteral rule.name.toList) := .quoted hquote .nil
  have hquiet : Quiet ThenHit .outside none rule.header [] := by
    rw [Rule.header, quiet_append, quiet_append]
    refine ⟨quiet_word_space (fun _ _ hit => hit.1) hword (by simp) _, quiet_quoted hquote _ _,
      fun _ hit => ?_, trivial⟩
    have hlast := hit.1
    simp [quotedLiteral] at hlast
  rw [List.append_nil] at hheader
  simp only [cutLine, hheader, Text.trimStart, List.dropWhile_nil, List.isEmpty_nil, if_true,
    splitThen_of_quiet hquiet]
  simp [header_ne_nil]

/-- A header counts for a line of its own, whatever stands behind it on its line. -/
lemma cutLine_header_space (h : rule.IsNamed) (hcode : IsCode row)
    (hheader : readHeader row = none) :
    cutLine (rule.header ++ ' ' :: row) = rule.header :: cutLine row := by
  have hread := readHeader_header h (' ' :: row)
  have hblank : ∀ b ∈ [' '], isBlank b = true := fun _ => Text.isBlank_of_mem_space
  have hstart : Text.trimStart (' ' :: row) = row := by
    rw [← List.singleton_append, Text.trimStart_blanks_append hblank,
      Text.trimStart_eq_self hcode.trimmed.1]
  have hempty : row.isEmpty = false := List.isEmpty_eq_false_iff.mpr hcode.nonempty
  have hempty' : rule.header.isEmpty = false := List.isEmpty_eq_false_iff.mpr header_ne_nil
  have htake : (rule.header ++ ' ' :: row).take
      ((rule.header ++ ' ' :: row).length - (' ' :: row).length) = rule.header := by
    refine List.take_left' ?_
    rw [List.length_append]
    omega
  rw [cutLine_of_readHeader_eq_none hheader]
  simp only [cutLine, hread, hstart, hempty, htake, Bool.false_eq_true, if_false]
  rw [List.filter_cons_of_pos]
  simp [hempty']

end

/-! ## Rules -/

lemma isRow_condition {c : Condition} (h : c.WellFormed) : IsRow c.render := by
  have hphrase := isPhrase_condition c h
  obtain ⟨left, comparison, right⟩ := c
  have hleft := isPhrase_operand left h.1
  have hsub : ["rule".toList, "then".toList] ⊆ languageWords := by decide
  refine ⟨hphrase.mono (by decide), fun hmem => ?_, ?_⟩
  · exact hleft.takeWhile_not_mem nil_not_mem_languageWords endsWord_space (hsub hmem)
  · obtain ⟨d, t, hdt, hd⟩ := Operand.exists_render_eq_cons h.1
    rw [Condition.render, hdt]
    intro hhead
    obtain rfl : d = '#' := Option.some.inj hhead
    rcases hd with hd | hd
    · exact absurd hd (by decide)
    · exact hd.ne (by decide) rfl

/-- Written conditions, and the word between them, are rows. -/
lemma isRow_conditionPieces {cs : List Condition} (h : ∀ c ∈ cs, c.WellFormed) :
    ∀ piece ∈ conditionPieces cs, IsRow piece := by
  have hand : IsRow "and".toList := ⟨isPhrase_of_isPlainPhrase (by decide), by decide, by decide⟩
  induction cs with
  | nil =>
    intro piece hpiece
    cases hpiece
  | cons c cs ih =>
    have hc := isRow_condition (h c List.mem_cons_self)
    have hcs := ih fun d hd => h d (List.mem_cons_of_mem c hd)
    intro piece hpiece
    cases cs with
    | nil =>
      rw [List.mem_singleton.mp hpiece]
      exact hc
    | cons d cs =>
      rw [conditionPieces, List.mem_cons, List.mem_cons] at hpiece
      rcases hpiece with rfl | rfl | hpiece
      · exact hc
      · exact hand
      · exact hcs piece hpiece

lemma isRow_action {a : Action} (h : a.WellFormed) : IsRow a.render := by
  have hword : a.kind.word.toList.all isWord = true := by cases a.kind <;> decide
  refine ⟨isPhrase_action h, ?_, ?_⟩
  · rw [Action.render, takeWhile_isWord_word_append hword endsWord_space]
    cases a.kind <;> decide
  · rw [Action.render]
    cases a.kind <;> exact fun hhead => absurd (Option.some.inj hhead) (by decide)

lemma isRow_actionPieces {as : List Action} (h : ∀ a ∈ as, a.WellFormed) :
    ∀ piece ∈ as.map Action.render, IsRow piece := by
  intro piece hpiece
  obtain ⟨a, ha, rfl⟩ := List.mem_map.mp hpiece
  exact isRow_action (h a ha)

lemma mem_leadFirst {lead piece : List Char} {pieces : List (List Char)}
    (h : piece ∈ leadFirst lead pieces) : piece ∈ pieces ∨ ∃ p ∈ pieces, piece = lead ++ p := by
  cases pieces with
  | nil => cases h
  | cons p pieces =>
    rcases List.mem_cons.mp h with rfl | h
    · exact .inr ⟨p, List.mem_cons_self, rfl⟩
    · exact .inl (List.mem_cons_of_mem p h)

lemma isRow_whenPieces {pieces : List (List Char)} (h : ∀ piece ∈ pieces, IsRow piece) :
    ∀ piece ∈ leadFirst "when ".toList pieces, IsRow piece := by
  have hwhen : IsRow "when".toList := ⟨isPhrase_of_isPlainPhrase (by decide), by decide, by decide⟩
  intro piece hpiece
  rcases mem_leadFirst hpiece with hmem | ⟨p, hp, rfl⟩
  · exact h piece hmem
  · have hjoin := hwhen.join (h p hp)
    simpa using hjoin

/-- All pieces of a written rule are code. -/
lemma isCode_pieces {rule : Rule} (h : rule.WellFormed) : ∀ piece ∈ rule.pieces, IsCode piece := by
  intro piece hpiece
  rw [Rule.pieces, List.mem_cons, List.mem_append] at hpiece
  rcases hpiece with rfl | hpiece | hpiece
  · exact isCode_header h.isNamed
  · exact (isRow_whenPieces (isRow_conditionPieces h.guards) piece hpiece).isCode
  · have hactions := isRow_actionPieces h.actions
    rcases mem_leadFirst hpiece with hmem | ⟨p, hp, rfl⟩
    · exact (hactions piece hmem).isCode
    · exact isCode_then (hactions p hp)

/-- A header in front of rows counts for a line of its own. -/
lemma flatMap_cutLine_rows_header {rule : Rule} (h : rule.IsNamed) (gap : Nat → Gap)
    {pieces : List (List Char)} (hpieces : ∀ piece ∈ pieces, IsCode piece)
    (hheader : ∀ row ∈ (rows (fun n => gap (n + 1)) pieces).head?, readHeader row = none) :
    (rows gap (rule.header :: pieces)).flatMap cutLine =
      rule.header :: (rows (fun n => gap (n + 1)) pieces).flatMap cutLine := by
  have hcode : ∀ row ∈ rows (fun n => gap (n + 1)) pieces, IsCode row :=
    forall_mem_rows hpieces fun _ _ => IsCode.join
  have hself : cutLine rule.header = [rule.header] := cutLine_header h
  rw [rows]
  cases hrows : rows (fun n => gap (n + 1)) pieces with
  | nil => cases gap 0 <;> simp [Gap.weld, hself]
  | cons row rest =>
    rw [hrows] at hcode hheader
    cases gap 0 with
    | newline => simp [Gap.weld, hself]
    | space =>
      have hfirst := cutLine_header_space h (hcode _ List.mem_cons_self) (hheader row rfl)
      rw [Gap.weld, List.flatMap_cons, hfirst, List.flatMap_cons]
      rfl

/-- The lines that count for a written rule: its header, and the rows of its clauses. -/
theorem exists_flatMap_codeTexts_lines {rule : Rule} (h : rule.WellFormed) (layout : Layout) :
    ∃ gap gap', (layout.lines rule).flatMap codeTexts =
      rule.header :: (leadFirst "when ".toList (rows gap (conditionPieces rule.guards)) ++
        leadFirst "then ".toList (rows gap' (rule.actions.map Action.render))) := by
  have hcode := isCode_pieces h
  have hconditions := isRow_whenPieces (isRow_conditionPieces h.guards)
  have hactions := isRow_actionPieces h.actions
  have hne : rule.actions.map Action.render ≠ [] := by simpa using h.actions_ne
  obtain ⟨gap', hcut⟩ := exists_flatMap_cutLine_rows (fun n => layout.gap (n + 1)) hconditions
    hactions hne
  obtain ⟨pieces, hpieces⟩ : ∃ pieces,
      leadFirst "when ".toList (conditionPieces rule.guards) ++
        leadFirst "then ".toList (rule.actions.map Action.render) =
          leadFirst "when ".toList pieces := by
    obtain ⟨c, guards, hguards⟩ := List.exists_cons_of_ne_nil h.guards_ne
    rw [hguards]
    cases guards <;> exact ⟨_ :: _, rfl⟩
  have hrows : ∀ row ∈ rows layout.gap rule.pieces, IsCode row :=
    forall_mem_rows hcode fun _ _ => IsCode.join
  refine ⟨fun n => layout.gap (n + 1), gap', ?_⟩
  rw [Layout.lines, flatMap_codeTexts_withMargins hrows, ← rows_leadFirst, ← hcut]
  rw [Rule.pieces, hpieces] at hcode ⊢
  refine flatMap_cutLine_rows_header h.isNamed layout.gap
    (fun piece hpiece => hcode piece (List.mem_cons_of_mem _ hpiece)) fun row hrow => ?_
  -- a line that begins with the word `when` is no header
  rw [rows_leadFirst] at hrow
  cases hfirst : rows (fun n => layout.gap (n + 1)) pieces with
  | nil =>
    rw [hfirst] at hrow
    cases hrow
  | cons first rest =>
    rw [hfirst] at hrow
    obtain rfl : "when ".toList ++ first = row := Option.some.inj hrow
    rfl

lemma unbroken_lines {rule : Rule} (h : rule.WellFormed) (layout : Layout) :
    ∀ line ∈ layout.lines rule, ∀ c ∈ line, isLineBreak c = false :=
  unbroken_withMargins (forall_mem_rows (isCode_pieces h) fun _ _ => IsCode.join)

end Cascade
