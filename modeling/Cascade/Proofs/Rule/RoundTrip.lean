import Cascade.Proofs.Rule.CodeLines
import Cascade.Proofs.Rule.Reading

/-!
# Reading written rules

What the printer writes is read back.  `readRules_renderRules` says so for whole files: any list of
rules that can be written, each in a layout of its own, is read as that very list, in both modes and
without a notice.

A rule is read from its lines, so the proof is about texts of lines and never about their numbers:
the lines of a rule make a block (`splitBlocks_cons_append`), and a block whose lines have the texts
of a rule is read as the rule (`readBlock_render`).
-/

namespace Cascade

open Text (IsTrimmed isLineBreak isBlank isWord)

/-! ## Lines of a block -/

lemma isRuleLine_eq_false {line : List Char} (h : line.takeWhile isWord ≠ "rule".toList) :
    isRuleLine line = false := by
  unfold isRuleLine
  split
  · next rest hafter =>
    rw [Bool.not_eq_false']
    by_contra hends
    have hrest : endsWord rest = true := by simpa [endsWord] using hends
    exact h (takeWhile_isWord_of_after? (by decide) hafter hrest)
  · rfl

lemma IsRow.isRuleLine_eq_false {row : List Char} (h : IsRow row) : isRuleLine row = false :=
  Cascade.isRuleLine_eq_false fun hrule => h.opening (hrule ▸ List.mem_cons_self)

lemma isRuleLine_of_mem_leadFirst {lead : List Char} {rows : List (List Char)}
    (hlead : ∀ text, isRuleLine (lead ++ text) = false) (hrows : ∀ row ∈ rows, IsRow row) :
    ∀ row ∈ leadFirst lead rows, isRuleLine row = false := by
  intro row hrow
  rcases mem_leadFirst hrow with hmem | ⟨p, -, rfl⟩
  · exact (hrows row hmem).isRuleLine_eq_false
  · exact hlead p

/-- A row is no then-clause. -/
lemma IsRow.clause?_then_eq_none {row : List Char} (h : IsRow row) : clause? "then" row = none := by
  have hword {rest : List Char} (hafter : Text.after? "then".toList row = some rest)
      (hrest : endsWord rest = true) : False := by
    have hopening := h.opening
    rw [takeWhile_isWord_of_after? (by decide) hafter hrest] at hopening
    exact hopening (by decide)
  unfold clause?
  split
  · next hafter => exact (hword hafter rfl).elim
  · next c rest hafter =>
    rw [if_neg]
    intro hc
    exact hword hafter (endsWord_of_isBlank hc)
  · rfl

/-- A rule line and the lines behind it up to the next one make a block. -/
lemma splitBlocks_cons_append {header : SourceLine} {body rest : List SourceLine}
    {blocks : List Block} (hheader : isRuleLine header.text = true)
    (hbody : ∀ line ∈ body, isRuleLine line.text = false)
    (hrest : splitBlocks rest = ([], blocks)) :
    splitBlocks (header :: (body ++ rest)) = ([], ⟨header, body⟩ :: blocks) := by
  have hsplit : splitBlocks (body ++ rest) = (body, blocks) := by
    clear hheader
    induction body with
    | nil => exact hrest
    | cons line body ih =>
      rw [List.cons_append, splitBlocks, ih fun l hl => hbody l (List.mem_cons_of_mem line hl)]
      simp [hbody line List.mem_cons_self]
  rw [splitBlocks, hsplit]
  simp [hheader]

/-! ## Clauses -/

lemma conditionPieces_ne_nil {cs : List Condition} (h : cs ≠ []) : conditionPieces cs ≠ [] := by
  obtain ⟨c, cs, rfl⟩ := List.exists_cons_of_ne_nil h
  cases cs <;> exact List.cons_ne_nil _ _

/-- The pieces of conditions joined by spaces are the conditions as they are written. -/
lemma joinWith_conditionPieces (cs : List Condition) :
    Text.joinWith [' '] (conditionPieces cs) = renderConditions cs := by
  have hconj : conjunction = ' ' :: ("and".toList ++ [' ']) := by decide
  induction cs with
  | nil => rfl
  | cons c cs ih =>
    cases cs with
    | nil => rfl
    | cons d cs =>
      have hne : conditionPieces (d :: cs) ≠ [] := conditionPieces_ne_nil (List.cons_ne_nil d cs)
      rw [conditionPieces, Text.joinWith_cons_of_ne_nil (List.cons_ne_nil _ _),
        Text.joinWith_cons_of_ne_nil hne, ih, renderConditions, hconj]
      simp

lemma isCode_joinWith {pieces : List (List Char)} (h : ∀ piece ∈ pieces, IsCode piece)
    (hne : pieces ≠ []) : IsCode (Text.joinWith [' '] pieces) := by
  induction pieces with
  | nil => exact absurd rfl hne
  | cons piece pieces ih =>
    have hpiece := h piece List.mem_cons_self
    by_cases hnil : pieces = []
    · rwa [hnil]
    · have hrest := ih (fun p hp => h p (List.mem_cons_of_mem piece hp)) hnil
      rw [Text.joinWith_cons_of_ne_nil hnil, List.append_assoc]
      exact hpiece.join hrest

/-- Rows that stand on lines are joined to the text of their pieces. -/
lemma joinClause_rows {gap : Nat → Gap} {pieces : List (List Char)} {first : List Char}
    {more : List SourceLine} (hcode : ∀ piece ∈ pieces, IsCode piece)
    (h : rows gap pieces = first :: more.map SourceLine.text) :
    joinClause first more = Text.joinWith [' '] pieces := by
  have hne : pieces ≠ [] := by
    rintro rfl
    cases h
  rw [joinClause, ← h, joinWith_rows, (isCode_joinWith hcode hne).trimmed.trim_eq]

/-! ## Blocks -/

section
variable {rule : Rule} {strict : Bool} {header : SourceLine} {body : List SourceLine}
variable {gap gap' : Nat → Gap}

lemma ruleName?_header (h : rule.IsNamed) : ruleName? rule.header = some rule.name.toList := by
  have hheader := readHeader_header h []
  rw [List.append_nil] at hheader
  simp only [ruleName?, hheader, List.all_nil, if_true]

/-- A block is read as a rule when its clauses join to the written conditions and actions. -/
lemma readBlock_of_clauses (h : rule.WellFormed) (next : Option SourceLine)
    {whenLine thenLine : SourceLine} {conditionLines actionLines : List SourceLine}
    {first first' : List Char} (hheader : header.text = rule.header)
    (hwhen : clause? "when" whenLine.text = some first)
    (hthen : clause? "then" thenLine.text = some first')
    (hnone : ∀ line ∈ conditionLines, clause? "then" line.text = none)
    (hconditions : joinClause first conditionLines = renderConditions rule.guards)
    (hactions : joinClause first' actionLines = renderActions rule.actions) :
    readBlock strict next ⟨header, whenLine :: (conditionLines ++ thenLine :: actionLines)⟩ =
      pure rule := by
  have hclauses : Block.clauses? ⟨header, whenLine :: (conditionLines ++ thenLine :: actionLines)⟩ =
      some ⟨whenLine, joinClause first conditionLines, thenLine, joinClause first' actionLines⟩ :=
    Block.clauses?_eq_some hwhen hthen hnone
  have hname : ruleName? header.text = some rule.name.toList := by
    rw [hheader, ruleName?_header h.isNamed]
  have hguards : rule.guards.isEmpty = false := List.isEmpty_eq_false_iff.mpr h.guards_ne
  have hempty : rule.actions.isEmpty = false := List.isEmpty_eq_false_iff.mpr h.actions_ne
  rw [readBlock_of_clauses? next hname hclauses]
  simp only [hconditions, hactions, readConditions_render h.guards_ne h.guards,
    readActions_render h.actions_ne h.actions, hguards, hempty, pure_bind, Bool.false_eq_true,
    if_false, String.ofList_toList]

/-- A keyword in front of a row opens the clause that the row begins. -/
lemma IsRow.clause?_append {keyword : String} {row : List Char} (h : IsRow row) :
    clause? keyword (keyword.toList ++ ' ' :: row) = some row :=
  clause?_append_space keyword (Text.trimStart_eq_self h.phrase.trimmed.1)

/-- A block whose lines have the texts of a written rule is read as the rule. -/
lemma readBlock_render (h : rule.WellFormed) (next : Option SourceLine)
    (hheader : header.text = rule.header)
    (hbody : body.map SourceLine.text =
      leadFirst "when ".toList (rows gap (conditionPieces rule.guards)) ++
        leadFirst "then ".toList (rows gap' (rule.actions.map Action.render))) :
    readBlock strict next ⟨header, body⟩ = pure rule := by
  have hguards := isRow_conditionPieces h.guards
  have hactions := isRow_actionPieces h.actions
  have hrow : ∀ row ∈ rows gap (conditionPieces rule.guards), IsRow row :=
    forall_mem_rows hguards fun _ _ => IsRow.join
  have hrow' : ∀ row ∈ rows gap' (rule.actions.map Action.render), IsRow row :=
    forall_mem_rows hactions fun _ _ => IsRow.join
  have hne : rows gap (conditionPieces rule.guards) ≠ [] :=
    rows_eq_nil_iff.not.mpr (conditionPieces_ne_nil h.guards_ne)
  have hne' : rows gap' (rule.actions.map Action.render) ≠ [] := by
    rw [Ne, rows_eq_nil_iff, List.map_eq_nil_iff]
    exact h.actions_ne
  obtain ⟨first, others, hfirst⟩ := List.exists_cons_of_ne_nil hne
  obtain ⟨first', others', hfirst'⟩ := List.exists_cons_of_ne_nil hne'
  rw [hfirst, hfirst'] at hbody
  obtain ⟨whenLine, tail, rfl, hwhen, htail⟩ := List.map_eq_cons_iff.mp hbody
  obtain ⟨conditionLines, actionLines, rfl, rfl, hrest⟩ := List.map_eq_append_iff.mp htail
  obtain ⟨thenLine, actionLines, rfl, hthen, rfl⟩ := List.map_eq_cons_iff.mp hrest
  rw [hfirst] at hrow
  rw [hfirst'] at hrow'
  have hclause : clause? "when" whenLine.text = some first := by
    rw [hwhen]
    exact (hrow first List.mem_cons_self).clause?_append
  have hclause' : clause? "then" thenLine.text = some first' := by
    rw [hthen]
    exact (hrow' first' List.mem_cons_self).clause?_append
  refine readBlock_of_clauses h next hheader hclause hclause' ?_ ?_ ?_
  · intro line hline
    have hmem : line.text ∈ conditionLines.map SourceLine.text := List.mem_map_of_mem hline
    exact (hrow _ (List.mem_cons_of_mem first hmem)).clause?_then_eq_none
  · rw [joinClause_rows (fun piece hpiece => (hguards piece hpiece).isCode) hfirst,
      joinWith_conditionPieces]
  · exact joinClause_rows (fun piece hpiece => (hactions piece hpiece).isCode) hfirst'

end

/-! ## Files -/

lemma isRuleLine_header (rule : Rule) : isRuleLine rule.header = true := rfl

/-- Lines with the texts of written rules are read as the rules. -/
lemma readLines_render (strict : Bool) {laid : List (Layout × Rule)} {lines : List SourceLine}
    (h : ∀ p ∈ laid, p.2.WellFormed)
    (hlines : lines.map SourceLine.text = laid.flatMap fun p => (p.1.lines p.2).flatMap codeTexts) :
    ∃ blocks, splitBlocks lines = ([], blocks) ∧
      readBlocks strict blocks = pure (laid.map Prod.snd) := by
  induction laid generalizing lines with
  | nil =>
    obtain rfl : lines = [] := by simpa using hlines
    exact ⟨[], rfl, rfl⟩
  | cons p laid ih =>
    have hrule := h p List.mem_cons_self
    obtain ⟨gap, gap', hp⟩ := exists_flatMap_codeTexts_lines hrule p.1
    rw [List.flatMap_cons, hp, List.cons_append] at hlines
    obtain ⟨header, tail, rfl, hheader, htail⟩ := List.map_eq_cons_iff.mp hlines
    obtain ⟨body, rest, rfl, hbody, hrest⟩ := List.map_eq_append_iff.mp htail
    obtain ⟨blocks, hsplit, hread⟩ := ih (fun q hq => h q (List.mem_cons_of_mem p hq)) hrest
    have hline : isRuleLine header.text = true := by
      rw [hheader]
      exact isRuleLine_header p.2
    have hlines : ∀ line ∈ body, isRuleLine line.text = false := by
      intro line hmem
      have htext : line.text ∈ body.map SourceLine.text := List.mem_map_of_mem hmem
      have hguards : ∀ row ∈ rows gap (conditionPieces p.2.guards), IsRow row :=
        forall_mem_rows (isRow_conditionPieces hrule.guards) fun _ _ => IsRow.join
      have hactions : ∀ row ∈ rows gap' (p.2.actions.map Action.render), IsRow row :=
        forall_mem_rows (isRow_actionPieces hrule.actions) fun _ _ => IsRow.join
      rw [hbody] at htext
      rcases List.mem_append.mp htext with htext | htext
      · exact isRuleLine_of_mem_leadFirst (fun _ => rfl) hguards _ htext
      · exact isRuleLine_of_mem_leadFirst (fun _ => rfl) hactions _ htext
    refine ⟨⟨header, body⟩ :: blocks, splitBlocks_cons_append hline hlines hsplit, ?_⟩
    rw [readBlocks, readBlock_render hrule _ hheader hbody, hread]
    simp only [pure_bind, List.map_cons]

/-- **Reading undoes writing.**  Any list of rules that can be written, each of them laid out on one
line or over several, is read back as it was, in both modes and without a notice. -/
theorem readRules_renderRules (strict : Bool) {laid : List (Layout × Rule)} (foot : List IdleLine)
    (h : ∀ p ∈ laid, p.2.WellFormed) :
    readRules strict (renderRules laid foot) = pure (laid.map Prod.snd) := by
  have hfoot : (foot.map IdleLine.text).flatMap codeTexts = [] := by
    rw [List.flatMap_eq_nil_iff]
    intro line hline
    obtain ⟨idle, -, rfl⟩ := List.mem_map.mp hline
    exact idle.codeTexts_eq_nil
  have hunbroken : ∀ line ∈ laid.flatMap (fun p => p.1.lines p.2) ++ foot.map IdleLine.text,
      ∀ c ∈ line, isLineBreak c = false := by
    intro line hline
    rcases List.mem_append.mp hline with hline | hline
    · obtain ⟨p, hp, hline⟩ := List.mem_flatMap.mp hline
      exact unbroken_lines (h p hp) p.1 line hline
    · obtain ⟨idle, -, rfl⟩ := List.mem_map.mp hline
      exact idle.unbroken
  have hlines : (significantLines (renderRules laid foot).toList).map SourceLine.text =
      laid.flatMap fun p => (p.1.lines p.2).flatMap codeTexts := by
    rw [renderRules, String.toList_ofList, significantLines, map_text_significantLinesFrom,
      Text.flatMap_lines_joinWith rfl hunbroken, List.flatMap_append, hfoot, List.append_nil,
      List.flatMap_assoc]
  obtain ⟨blocks, hsplit, hread⟩ := readLines_render strict h hlines
  simp only [readRules, readLines, hsplit, skipStray, pure_bind, hread]

/-- A rule whose literals hold keywords, conjunctions, operators and parentheses, with a selector
inside a selector. -/
def closingRule : Rule where
  name := "Close (then set)"
  guards :=
    [.mk (.field (.mk .children "System.State" (some
        [.mk (.field (.mk .implicit "Title" none)) .notMatching (.literal "^Dev( and|$)"),
          .mk (.literal "is not )") .notEqual
            (.field (.mk .child "Tags" (some
              [.mk (.field (.mk .me "Custom.Reason" none)) .contains (.literal "x = ( y")])))])))
      .equal (.literal " and me.State is "),
      .mk (.field (.mk .implicit "Custom.Reason" none)) .startsWith (.literal "")]
  actions :=
    [{ kind := .set, target := .mk .parent "State" none, value := .literal "= add # then set "
       options := { suppressNotifications := some true, bypassRules := some true } },
      { kind := .add, target := .mk .implicit "Tags" none, value := .literal "to; from" }]

/-- Everything on one line. -/
def Layout.oneLine : Layout where
  gap _ := .space
  margin _ := ⟨[], ⟨[], by simp, by simp⟩, ⟨[], by simp, by simp⟩⟩

/-- Every piece on a line of its own, indented, with a comment above. -/
def Layout.spread : Layout where
  gap _ := .newline
  margin _ := ⟨[⟨"  # rule".toList, unbroken_of_all (by decide), .inr (by decide)⟩],
    ⟨"    ".toList, unbroken_of_all (by decide), List.all_eq_true.mp (by decide)⟩,
    ⟨[], by simp, by simp⟩⟩

lemma closingRule_wellFormed : closingRule.WellFormed := by
  have hfield (scope : Scope) :
      ∀ name ∈ ["System.State", "Title", "Tags", "Custom.Reason", "State"],
      IsFieldOf scope name := by
    intro name hname
    have hnames : ∀ name ∈ ["System.State", "Title", "Tags", "Custom.Reason", "State"],
        isFieldName name.toList = true ∧ (∀ run ∈ wordRuns name.toList, run ∉ languageWords) ∧
          ∀ other ∈ qualifiers, (wordRuns name.toList).head? ≠ some other.word.toList := by
      decide +kernel
    obtain ⟨h1, h2, h3⟩ := hnames name hname
    exact ⟨h1, h2, fun _ => h3⟩
  have hpattern : Operand.IsPattern (.literal "^Dev( and|$)") := by
    have hread : (Pattern.Node.read "^Dev( and|$)").isOk = true := by decide +kernel
    cases hnode : Pattern.Node.read "^Dev( and|$)" with
    | ok node => exact ⟨node, hnode⟩
    | error fault =>
      rw [hnode] at hread
      cases hread
  -- from the inner selector outwards
  have hreason : (Condition.mk (.field (.mk .me "Custom.Reason" none)) .contains
      (.literal "x = ( y")).WellFormed :=
    ⟨hfield .me _ (by decide), isConstant_of_all (by decide), fun h => by cases h⟩
  have htags : (Operand.field (.mk .child "Tags" (some [.mk (.field (.mk .me "Custom.Reason" none))
      .contains (.literal "x = ( y")]))).WellFormed :=
    ⟨hfield .child _ (by decide), by decide, List.cons_ne_nil _ _, hreason, trivial⟩
  refine ⟨by decide, isConstant_of_all (by decide), List.cons_ne_nil _ _, ?_,
    List.cons_ne_nil _ _, ?_⟩
  · intro c hc
    simp only [closingRule, List.mem_cons, List.not_mem_nil, or_false] at hc
    rcases hc with rfl | rfl
    · refine ⟨⟨hfield .children _ (by decide), by decide, List.cons_ne_nil _ _, ?_, ?_, trivial⟩,
        isConstant_of_all (by decide), fun h => by cases h⟩
      · exact ⟨hfield .implicit _ (by decide), isConstant_of_all (by decide), fun _ => hpattern⟩
      · exact ⟨isConstant_of_all (by decide), htags, fun h => by cases h⟩
    · exact ⟨hfield .implicit _ (by decide), isConstant_of_all (by decide), fun h => by cases h⟩
  · intro a ha
    simp only [closingRule, List.mem_cons, List.not_mem_nil, or_false] at ha
    rcases ha with rfl | rfl
    · exact ⟨hfield .parent _ (by decide), isConstant_of_all (by decide),
        fun h => absurd rfl h, by decide⟩
    · exact ⟨hfield .implicit _ (by decide), isConstant_of_all (by decide),
        fun _ => ⟨_, rfl, by decide⟩, by decide⟩

/-- One rule on one line and over several lines. -/
theorem readRules_renderRules_closingRule :
    (∀ p ∈ [(Layout.oneLine, closingRule), (Layout.spread, closingRule)], p.2.WellFormed) ∧
      readRules true (renderRules [(.oneLine, closingRule), (.spread, closingRule)] []) =
        pure [closingRule, closingRule] := by
  have h : ∀ p ∈ [(Layout.oneLine, closingRule), (Layout.spread, closingRule)], p.2.WellFormed := by
    intro p hp
    rw [List.mem_cons, List.mem_singleton] at hp
    rcases hp with rfl | rfl <;> exact closingRule_wellFormed
  exact ⟨h, readRules_renderRules true [] h⟩

example : renderRules
      [(.oneLine, ⟨"Done", [.mk (.field (.mk .me "State" none)) .equal (.literal "then")],
        [{ kind := .add, target := .mk .implicit "Tags" none, value := .literal "x"
           options := { suppressNotifications := some true } }]⟩)] [] =
    "rule \"Done\": when me.State is \"then\" then " ++
      "add with suppressNotifications \"x\" to Tags" := by
  decide +kernel

end Cascade
