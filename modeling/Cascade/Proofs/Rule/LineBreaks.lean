import Cascade.Proofs.Rule.BrokenLines
import Cascade.Proofs.Rule.Composition
import Cascade.Proofs.Rule.Conditions
import Cascade.Proofs.Rule.RoundTrip

/-!
# Line breaks inside a rule

Line breaks inside a rule are only spacing, with two exceptions.  `readRules_broken` says so for
every spelled rule and any line breaks in place of spaces between its tokens, in the conditions and
in the actions, also inside selectors and on either side of the word `then`.

Clauses are recognized line by line, and a line is cut before the word `then` only when something
follows the word on that line.  So a rule is rejected when the word stands behind conditions and
ends its line (`readRules_broken_of_hidden`), although the word would be taken for the start of the
actions if it stood on a line of its own.  A rule is also rejected when a line begins with a name
such as `rule-x`, for the line is taken for a header (`readRules_broken_of_opens`).  Otherwise the
lines make one block, whose clauses are joined to the texts of the conditions and of the actions as
they would stand on one line (`exists_splitBlocks_broken`).  It is not assumed that these texts can
be read: what the readers of conditions and actions make of them is the same either way.
-/

namespace Cascade

open Text (IsTrimmed isLineBreak isBlank isWord)

variable {rule : Rule} {breaks : Nat → Option LineBreak} {strict : Bool}

/-! ## Lines of a block -/

/-- Whether a line opens a rule does not depend on what stands behind a space. -/
lemma isRuleLine_append_space (s t : List Char) : isRuleLine (s ++ ' ' :: t) = isRuleLine s := by
  rw [isRuleLine, isRuleLine, after?_append_space (by decide)]
  cases Text.after? "rule".toList s with
  | none => rfl
  | some tail => cases tail <;> rfl

/-- The rows that begin with a keyword are a clause: what stands behind the keyword in the first row
and the other rows are joined to the text of the pieces. -/
lemma exists_clause_of_rows {keyword : String} {gap : Nat → Gap} {pieces : List (List Char)}
    {line : SourceLine} {more : List SourceLine} (hcode : ∀ piece ∈ pieces, IsCode piece)
    (hne : pieces ≠ [])
    (h : rows gap (keyword.toList :: pieces) = line.text :: more.map SourceLine.text) :
    ∃ first, clause? keyword line.text = some first ∧
      joinClause first more = Text.joinWith [' '] pieces := by
  have hrows : ∀ row ∈ rows (fun n => gap (n + 1)) pieces, IsCode row :=
    forall_mem_rows hcode fun _ _ => IsCode.join
  obtain ⟨row, rest, hrow⟩ := List.exists_cons_of_ne_nil (rows_eq_nil_iff.not.mpr hne)
  rw [rows, hrow] at h
  rw [hrow] at hrows
  cases hgap : gap 0 with
  | newline =>
    rw [hgap] at h
    obtain ⟨hline, hmore⟩ : keyword.toList = line.text ∧ row :: rest = more.map SourceLine.text :=
      List.cons.inj h
    have hjoined : IsTrimmed (Text.joinWith [' '] pieces) := (isCode_joinWith hcode hne).trimmed
    refine ⟨[], ?_, ?_⟩
    · have hafter : Text.after? keyword.toList keyword.toList = some [] := by
        simpa using Text.after?_append keyword.toList []
      rw [← hline, clause?, hafter]
    · have htrim := Text.trim_blanks_append (fun _ => Text.isBlank_of_mem_space)
        (List.forall_mem_nil _) hjoined
      rw [joinClause, ← hmore, Text.joinWith_cons_cons, ← hrow, joinWith_rows]
      simpa using htrim
  | space =>
    rw [hgap] at h
    obtain ⟨hline, hmore⟩ : keyword.toList ++ ' ' :: row = line.text ∧
        rest = more.map SourceLine.text := List.cons.inj h
    have htrimmed : IsTrimmed row := (hrows row List.mem_cons_self).trimmed
    refine ⟨row, ?_, joinClause_rows hcode (hmore ▸ hrow)⟩
    rw [← hline, clause?_append_space keyword (Text.trimStart_eq_self htrimmed.1)]

/-! ## Rules whose word `then` is seen -/

/-- Behind the header of a rule whose word `then` is seen no line opens a rule, unless a token
does. -/
lemma forall_isRuleLine_eq_false_iff (rule : Rule) (breaks : Nat → Option LineBreak) :
    (∀ row ∈ rows (fun n => gapOf (breaks (n + 1))) ("when".toList :: rule.conditionTokens) ++
        rows (fun n => gapOf (breaks (n + (rule.conditionTokens.length + 1) + 1)))
          ("then".toList :: rule.actionTokens), isRuleLine row = false) ↔
      ¬ rule.OpensRule breaks := by
  have hspace (s t : List Char) : isRuleLine (s ++ ' ' :: t) = false ↔ isRuleLine s = false := by
    rw [isRuleLine_append_space]
  obtain ⟨row, rest, hrows, hrow, hrest⟩ :=
    exists_rows_cons (P := fun row => isRuleLine row = false) hspace
      (fun n => gapOf (breaks (n + 1))) "when".toList rule.conditionTokens
  obtain ⟨row', rest', hrows', hrow', hrest'⟩ :=
    exists_rows_cons (P := fun row => isRuleLine row = false) hspace
      (fun n => gapOf (breaks (n + (rule.conditionTokens.length + 1) + 1))) "then".toList
      rule.actionTokens
  have hwhen : isRuleLine row = false := by
    rcases hrow with rfl | ⟨more, rfl⟩ <;> rfl
  have hthen : isRuleLine row' = false := by
    rcases hrow' with rfl | ⟨more, rfl⟩ <;> rfl
  rw [Rule.not_opensRule_iff, hrows, hrows', List.forall_mem_append, List.forall_mem_cons,
    List.forall_mem_cons, hrest, hrest']
  simp only [hwhen, hthen, true_and]

section
variable (h : rule.IsSpelled)
include h

/-- The lines of a rule whose word `then` is seen: its header, the rows of its conditions and those
of its actions. -/
lemma map_text_broken_of_seen (hseen : ¬ rule.HidesThen breaks) :
    (significantLines (rule.broken breaks).toList).map SourceLine.text = rule.header ::
      (rows (fun n => gapOf (breaks (n + 1))) ("when".toList :: rule.conditionTokens) ++
        rows (fun n => gapOf (breaks (n + (rule.conditionTokens.length + 1) + 1)))
          ("then".toList :: rule.actionTokens)) := by
  have hwhen : IsToken "when".toList := isToken_of_isPlainToken (by decide)
  have hconditions := isWritten_conditions rule.guards h.guards h.guards_ne
  have hclosed :
      Nesting.outside.steps (Text.joinWith [' '] ("when".toList :: rule.conditionTokens)) =
      .outside := by
    have hword : Nesting.outside.steps ("when".toList ++ [' ']) = .outside := by decide
    rw [Text.joinWith_cons_of_ne_nil rule.conditionTokens_ne_nil, rule.joinWith_conditionTokens,
      Nesting.steps_append, hword, hconditions.balanced.steps_outside]
  rw [hidesThen_iff h] at hseen
  rw [map_text_broken h, Rule.bodyTokens, flatMap_cutLine_rows_then
    (List.forall_mem_cons.mpr ⟨hwhen, isToken_conditionTokens h⟩) (isToken_actionTokens h)
    rule.actionTokens_ne_nil hclosed hseen]

/-- A rule whose word `then` is seen and in which no line opens a rule is one block, and its clauses
are the written conditions and actions. -/
lemma exists_splitBlocks_broken (hseen : ¬ rule.HidesThen breaks)
    (hopen : ¬ rule.OpensRule breaks) :
    ∃ block clauses, splitBlocks (significantLines (rule.broken breaks).toList) = ([], [block]) ∧
      ruleName? block.header.text = some rule.name.toList ∧ block.clauses? = some clauses ∧
      clauses.conditions = renderConditions rule.guards ∧
      clauses.actions = renderActions rule.actions := by
  have hrule := (forall_isRuleLine_eq_false_iff rule breaks).mpr hopen
  have hwhen : IsToken "when".toList := isToken_of_isPlainToken (by decide)
  have hrows : ∀ row ∈ rows (fun n => gapOf (breaks (n + 1)))
      ("when".toList :: rule.conditionTokens), IsTokenRow row :=
    isTokenRow_rows (List.forall_mem_cons.mpr ⟨hwhen, isToken_conditionTokens h⟩)
  obtain ⟨header, tail, hlines, hheader, htail⟩ :=
    List.map_eq_cons_iff.mp (map_text_broken_of_seen h hseen)
  obtain ⟨conditionRows, actionRows, rfl, hconditions, hactions⟩ := List.map_eq_append_iff.mp htail
  have hbody : ∀ line ∈ conditionRows ++ actionRows, isRuleLine line.text = false := by
    intro line hline
    refine hrule line.text ?_
    rw [← hconditions, ← hactions, ← List.map_append]
    exact List.mem_map_of_mem hline
  rw [← hconditions] at hrows
  cases conditionRows with
  | nil => exact absurd (rows_eq_nil_iff.mp hconditions.symm) (List.cons_ne_nil _ _)
  | cons whenLine conditionLines =>
    cases actionRows with
    | nil => exact absurd (rows_eq_nil_iff.mp hactions.symm) (List.cons_ne_nil _ _)
    | cons thenLine actionLines =>
      obtain ⟨first, hfirst, hjoined⟩ := exists_clause_of_rows
        (fun t ht => (isToken_conditionTokens h t ht).isCode) rule.conditionTokens_ne_nil
        hconditions.symm
      obtain ⟨first', hfirst', hjoined'⟩ := exists_clause_of_rows
        (fun t ht => (isToken_actionTokens h t ht).isCode) rule.actionTokens_ne_nil hactions.symm
      have hnone : ∀ line ∈ conditionLines, clause? "then" line.text = none := fun line hline =>
        (hrows line.text (List.mem_cons_of_mem _ (List.mem_map_of_mem hline))).clause?_then_eq_none
      refine ⟨⟨header, whenLine :: (conditionLines ++ thenLine :: actionLines)⟩, _, ?_, ?_,
        Block.clauses?_eq_some hfirst hfirst' hnone, ?_, ?_⟩
      · have hopens : isRuleLine header.text = true := by
          rw [hheader]
          exact isRuleLine_header rule
        have hsplit := splitBlocks_cons_append hopens hbody (rfl : splitBlocks [] = ([], []))
        rwa [List.append_nil, ← hlines] at hsplit
      · rw [hheader, ruleName?_header h.named]
      · exact hjoined.trans rule.joinWith_conditionTokens
      · exact hjoined'.trans rule.joinWith_actionTokens

/-- What such a rule is read as is what its conditions and its actions are read as. -/
lemma readRules_broken_eq_ok (hseen : ¬ rule.HidesThen breaks) (hopen : ¬ rule.OpensRule breaks)
    {rules : List Rule} :
    (readRules strict (rule.broken breaks)).result = .ok rules ↔ ∃ read : Rule, rules = [read] ∧
      read.name = rule.name ∧
      (readConditions ⟨strict, 0⟩ (renderConditions rule.guards)).result = .ok read.guards ∧
      read.guards ≠ [] ∧
      (readActions ⟨strict, 0⟩ (renderActions rule.actions)).result = .ok read.actions ∧
      read.actions ≠ [] := by
  obtain ⟨block, clauses, hsplit, hname, hclauses, hconditions, hactions⟩ :=
    exists_splitBlocks_broken h hseen hopen
  have hread : readRules strict (rule.broken breaks) = readBlocks strict [block] := by
    simp only [readRules, readLines, hsplit, skipStray, pure_bind]
  rw [hread, readBlocks_cons_eq_ok]
  simp only [readBlock_eq_ok_of_clauses? none hname hclauses, hconditions, hactions,
    String.ofList_toList]
  constructor
  · rintro ⟨read, rest, ⟨hread, hguards, hg, hactions, ha⟩, hrest, rfl⟩
    obtain rfl : [] = rest := Except.ok.inj hrest
    exact ⟨read, rfl, hread, (readConditions_eq_ok_iff _ _).mp hguards, hg,
      (readActions_eq_ok_iff _ _).mp hactions, ha⟩
  · rintro ⟨read, rfl, hread, hguards, hg, hactions, ha⟩
    exact ⟨read, [], ⟨hread, (readConditions_eq_ok_iff _ _).mp hguards, hg,
      (readActions_eq_ok_iff _ _).mp hactions, ha⟩, rfl, rfl⟩

end

/-! ## Rules that are rejected -/

/-- A rule is rejected when none of its lines opens the actions. -/
lemma exists_error_of_no_then (strict : Bool) {text : String} {header whenLine : SourceLine}
    {rest : List SourceLine} {name first : List Char}
    (hlines : significantLines text.toList = header :: whenLine :: rest)
    (hheader : isRuleLine header.text = true) (hline : isRuleLine whenLine.text = false)
    (hname : ruleName? header.text = some name) (hwhen : clause? "when" whenLine.text = some first)
    (hnone : ∀ line ∈ rest, clause? "then" line.text = none) :
    ∃ number line, (readRules strict text).result =
      .error (.rejected ⟨.expectedThen (String.ofList name), number, line⟩) := by
  have hstray : ∀ line ∈ (splitBlocks rest).1, (!(clause? "then" line.text).isSome) = true := by
    intro line hmem
    have hrest : line ∈ rest := by
      rw [← splitBlocks_lines rest]
      exact List.mem_append_left _ hmem
    rw [hnone line hrest]
    rfl
  have hsplit : splitBlocks (significantLines text.toList) =
      ([], ⟨header, whenLine :: (splitBlocks rest).1⟩ :: (splitBlocks rest).2) := by
    rw [hlines, splitBlocks, splitBlocks]
    simp [hheader, hline]
  have hblock (next : Option SourceLine) : ∃ line, readBlock strict next
      ⟨header, whenLine :: (splitBlocks rest).1⟩ =
        rejectLine (.expectedThen (String.ofList name)) line := by
    have hdrop := List.dropWhile_eq_nil_iff.mpr hstray
    refine ⟨next.getD ((splitBlocks rest).1.getLast?.getD whenLine), ?_⟩
    simp only [readBlock, hname, hwhen, hdrop]
  obtain ⟨line, hreject⟩ := hblock ((splitBlocks rest).2.head?.map Block.header)
  refine ⟨line.number, String.ofList line.text, ?_⟩
  simp only [readRules, readLines, hsplit, skipStray, pure_bind, readBlocks, hreject]
  rfl

/-- A rule whose word `then` is hidden is rejected for having none. -/
lemma readRules_broken_of_hidden (strict : Bool) (h : rule.IsSpelled)
    (hhidden : rule.HidesThen breaks) :
    ∃ number line, (readRules strict (rule.broken breaks)).result =
      .error (.rejected ⟨.expectedThen rule.name, number, line⟩) := by
  have hwhen : IsToken "when".toList := isToken_of_isPlainToken (by decide)
  obtain ⟨hspace, hnewline⟩ := (hidesThen_iff h).mp hhidden
  obtain ⟨hself, hnone⟩ : (rows (fun n => gapOf (breaks (n + 1))) rule.bodyTokens).flatMap cutLine =
        rows (fun n => gapOf (breaks (n + 1))) rule.bodyTokens ∧
      ∀ row ∈ rows (fun n => gapOf (breaks (n + 1))) rule.bodyTokens, clause? "then" row = none :=
    flatMap_cutLine_rows_hidden (List.forall_mem_cons.mpr ⟨hwhen, isToken_conditionTokens h⟩)
      (isToken_actionTokens h) hspace hnewline
  obtain ⟨row, others, hrows, hrow, -⟩ := exists_rows_cons (P := fun _ => True)
    (fun _ _ => Iff.rfl) (fun n => gapOf (breaks (n + 1))) "when".toList
    (rule.conditionTokens ++ "then".toList :: rule.actionTokens)
  have htext := map_text_broken h breaks
  rw [hself, Rule.bodyTokens, List.cons_append, hrows] at htext
  rw [Rule.bodyTokens, List.cons_append, hrows, List.forall_mem_cons] at hnone
  obtain ⟨header, tail, hlines, hheader, htail⟩ := List.map_eq_cons_iff.mp htext
  obtain ⟨whenLine, rest, rfl, hwhenLine, hrest⟩ := List.map_eq_cons_iff.mp htail
  obtain ⟨first, hfirst⟩ : ∃ first, clause? "when" whenLine.text = some first := by
    rw [hwhenLine]
    rcases hrow with rfl | ⟨more, rfl⟩ <;> exact ⟨_, rfl⟩
  have hline : isRuleLine whenLine.text = false := by
    rw [hwhenLine]
    rcases hrow with rfl | ⟨more, rfl⟩ <;> rfl
  have hopens : isRuleLine header.text = true := by
    rw [hheader]
    exact isRuleLine_header rule
  have hname : ruleName? header.text = some rule.name.toList := by
    rw [hheader, ruleName?_header h.named]
  have herror := exists_error_of_no_then strict hlines hopens hline hname hfirst
    fun line hmem => hnone.2 _ (hrest ▸ List.mem_map_of_mem hmem)
  rwa [String.ofList_toList] at herror

/-- A text is rejected when a line begins with the word `rule` and is no header. -/
lemma exists_error_of_invalid_header (strict : Bool) {text : String} {line : SourceLine}
    (hline : line ∈ significantLines text.toList) (hrule : isRuleLine line.text = true)
    (hname : ruleName? line.text = none) : ∃ e, (readRules strict text).result = .error e := by
  cases hread : (readRules strict text).result with
  | error e => exact ⟨e, rfl⟩
  | ok rules =>
    -- every such line is the header of a block, and every block has been read
    have hmem : line ∈ (splitBlocks (significantLines text.toList)).2.map Block.header := by
      rw [map_header_splitBlocks]
      exact List.mem_filter.mpr ⟨hline, hrule⟩
    obtain ⟨block, hblock, rfl⟩ := List.mem_map.mp hmem
    obtain ⟨read, -, next, hok⟩ := exists_left_of_mem (readRules_eq_ok hread).2.flip hblock
    obtain ⟨name, -, hsome, -⟩ := readBlock_eq_ok hok
    rw [hname] at hsome
    cases hsome

/-- The rows of a clause are no headers. -/
lemma ruleName?_eq_none_of_mem_rows {gap : Nat → Gap} {keyword : List Char}
    {pieces : List (List Char)} (hkeyword : ¬ BeginsWith "rule".toList keyword)
    (h : ∀ piece ∈ pieces, IsToken piece) :
    ∀ row ∈ rows gap (keyword :: pieces), ruleName? row = none := by
  have hpieces : ∀ piece ∈ keyword :: pieces, ¬ BeginsWith "rule".toList piece :=
    List.forall_mem_cons.mpr
      ⟨hkeyword, fun piece hpiece => (h piece hpiece).not_beginsWith _ (by decide)⟩
  intro row hrow
  have hbegins : ¬ BeginsWith "rule".toList row :=
    forall_mem_rows hpieces
      (fun s t hs _ => (beginsWith_append_space (by decide)).not.mpr hs) row hrow
  rw [ruleName?, readHeader_eq_none_of_not_beginsWith hbegins]

/-- A rule is rejected when a line begins with a token that is taken for a header. -/
lemma readRules_broken_of_opens (strict : Bool) (h : rule.IsSpelled)
    (hopen : rule.OpensRule breaks) :
    ∃ e, (readRules strict (rule.broken breaks)).result = .error e := by
  by_cases hhidden : rule.HidesThen breaks
  · obtain ⟨number, line, herror⟩ := readRules_broken_of_hidden strict h hhidden
    exact ⟨_, herror⟩
  · have hrows := (forall_isRuleLine_eq_false_iff rule breaks).not.mpr (not_not.mpr hopen)
    simp only [not_forall, Bool.not_eq_false] at hrows
    obtain ⟨row, hrow, hrule⟩ := hrows
    have hkeyword {keyword : List Char} (hk : Text.after? "rule".toList keyword = none) :
        ¬ BeginsWith "rule".toList keyword := by
      rw [beginsWith_iff, hk]
      exact nofun
    have hname : ruleName? row = none := by
      rcases List.mem_append.mp hrow with hrow | hrow
      · exact ruleName?_eq_none_of_mem_rows (hkeyword (by decide))
          (isToken_conditionTokens h) row hrow
      · exact ruleName?_eq_none_of_mem_rows (hkeyword (by decide)) (isToken_actionTokens h) row hrow
    have hmem : row ∈ (significantLines (rule.broken breaks).toList).map SourceLine.text := by
      rw [map_text_broken_of_seen h hhidden]
      exact List.mem_cons_of_mem _ hrow
    obtain ⟨line, hline, rfl⟩ := List.mem_map.mp hmem
    exact exists_error_of_invalid_header strict hline hrule hname

/-- **Line breaks inside a rule are only spacing, with two exceptions.**  A rule is written on one
line and with line breaks, each with its indentation, in place of any of the spaces behind the
header and outside quotes, also inside selectors.  Both texts are read as the same rules, if any,
unless the word `then` stands behind something else on its line and ends it, or a line begins with a
name that begins with the word `rule`.  In the first case the rule is rejected for having no
then-clause, in the second one it is rejected as well. -/
theorem readRules_broken (strict : Bool) {rule : Rule} (h : rule.IsSpelled)
    (breaks : Nat → Option LineBreak) :
    (¬ rule.HidesThen breaks → ¬ rule.OpensRule breaks → ∀ rules,
      (readRules strict (rule.broken breaks)).result = .ok rules ↔
        (readRules strict rule.oneLine).result = .ok rules) ∧
    (rule.HidesThen breaks → ∃ number line, (readRules strict (rule.broken breaks)).result =
      .error (.rejected ⟨.expectedThen rule.name, number, line⟩)) ∧
    (rule.OpensRule breaks → ∃ e, (readRules strict (rule.broken breaks)).result = .error e) := by
  refine ⟨fun hseen hopen rules => ?_, readRules_broken_of_hidden strict h,
    readRules_broken_of_opens strict h⟩
  have hseen' : ¬ rule.HidesThen fun _ => none := by
    rintro ⟨i, -, -, hnewline⟩
    cases hnewline
  have hopen' : ¬ rule.OpensRule fun _ => none := by
    rintro ⟨i, token, -, hnewline, -⟩
    cases hnewline
  rw [← rule.broken_none, readRules_broken_eq_ok h hseen hopen,
    readRules_broken_eq_ok h hseen' hopen']

/-- A rule with the word `then` in a literal inside a selector, and with a name that begins with the
word `rule`. -/
def finishedRule : Rule where
  name := "Finished"
  guards :=
    [.mk (.field (.mk .children "State" (some
        [.mk (.field (.mk .implicit "Title" none)) .equal (.literal "A then B")])))
      .notEqual (.literal "Done"),
      .mk (.field (.mk .implicit "rule-x" none)) .equal (.literal "B")]
  actions := [{ kind := .set, target := .mk .me "State" none, value := .literal "X" }]

/-- A line feed, and an indentation of two spaces. -/
def LineBreak.indented : LineBreak where
  boundary := ['\n']
  isBoundary := .inr ⟨'\n', rfl, rfl⟩
  indent := ⟨[' ', ' '], unbroken_of_all (by decide), List.all_eq_true.mp (by decide)⟩

/-- A line break behind one token. -/
def breakBehind (index n : Nat) : Option LineBreak := if n = index then some .indented else none

/-- A line break behind every token but one. -/
def breakElsewhere (index n : Nat) : Option LineBreak := if n = index then none else some .indented

lemma finishedRule_isSpelled : finishedRule.IsSpelled := by
  have hname : ∀ name ∈ ["State", "Title", "rule-x"], IsOpenName name := by
    intro name hmem
    have hnames : ∀ name ∈ ["State", "Title", "rule-x"],
        isFieldName name.toList = true ∧ name.toList ∉ languageWords := by decide +kernel
    exact ⟨(hnames name hmem).1, (hnames name hmem).2⟩
  have htitle : (Condition.mk (.field (.mk .implicit "Title" none)) .equal
      (.literal "A then B")).IsSpelled :=
    ⟨hname _ (by decide), isConstant_of_all (by decide)⟩
  refine ⟨⟨by decide, isConstant_of_all (by decide)⟩, List.cons_ne_nil _ _, ?_,
    List.cons_ne_nil _ _, ?_⟩
  · exact ⟨⟨⟨hname _ (by decide), htitle, trivial⟩, isConstant_of_all (by decide)⟩,
      ⟨hname _ (by decide), isConstant_of_all (by decide)⟩, trivial⟩
  · intro a ha
    obtain rfl := List.mem_singleton.mp ha
    exact ⟨hname _ (by decide), isConstant_of_all (by decide)⟩

/-- One rule broken everywhere but in front of the name that begins with the word `rule`, behind the
word `then`, and in front of that name. -/
theorem readRules_broken_finishedRule :
    finishedRule.IsSpelled ∧
    (¬ finishedRule.HidesThen (breakElsewhere 8) ∧ ¬ finishedRule.OpensRule (breakElsewhere 8) ∧
      (readRules true finishedRule.oneLine).result = .ok [finishedRule] ∧
      (readRules true (finishedRule.broken (breakElsewhere 8))).result = .ok [finishedRule]) ∧
    (finishedRule.HidesThen (breakBehind 12) ∧ ∃ number line,
      (readRules true (finishedRule.broken (breakBehind 12))).result =
        .error (.rejected ⟨.expectedThen "Finished", number, line⟩)) ∧
    (finishedRule.OpensRule (breakBehind 8) ∧ ∃ e,
      (readRules true (finishedRule.broken (breakBehind 8))).result = .error e) := by
  have hspelled := finishedRule_isSpelled
  have hseen : ¬ finishedRule.HidesThen (breakElsewhere 8) := by
    rintro ⟨i, htoken, hspace, -⟩
    obtain rfl : i = 8 := by
      by_contra hi
      rw [breakElsewhere, if_neg hi] at hspace
      cases hspace
    exact absurd htoken (by decide +kernel)
  have hopen : ¬ finishedRule.OpensRule (breakElsewhere 8) := by
    rintro ⟨i, token, htoken, hgap, hrule⟩
    have htokens : ∀ i < 16, i ≠ 8 → ∀ token ∈ finishedRule.tokens[i + 1]?,
        isRuleLine token = false := by decide +kernel
    have hlength : finishedRule.tokens.length = 17 := by decide +kernel
    obtain ⟨hlt, -⟩ := List.getElem?_eq_some_iff.mp htoken
    have hi : i ≠ 8 := by
      rintro rfl
      cases hgap
    rw [htokens i (by omega) hi token htoken] at hrule
    cases hrule
  have hhidden : finishedRule.HidesThen (breakBehind 12) := ⟨11, by decide +kernel, rfl, rfl⟩
  have hopens : finishedRule.OpensRule (breakBehind 8) :=
    ⟨8, "rule-x".toList, by decide +kernel, rfl, rfl⟩
  have hline : (readRules true finishedRule.oneLine).result = .ok [finishedRule] := by
    decide +kernel
  exact ⟨hspelled,
    ⟨hseen, hopen, hline,
      ((readRules_broken true hspelled (breakElsewhere 8)).1 hseen hopen _).mpr hline⟩,
    ⟨hhidden, (readRules_broken true hspelled (breakBehind 12)).2.1 hhidden⟩,
    ⟨hopens, (readRules_broken true hspelled (breakBehind 8)).2.2 hopens⟩⟩

example : finishedRule.broken (breakBehind 12) =
    "rule \"Finished\": when children(Title is \"A then B\").State is not \"Done\" " ++
      "and rule-x is \"B\" then\n  set me.State = \"X\"" := by
  decide +kernel

end Cascade
