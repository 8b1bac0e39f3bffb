import Cascade.Proofs.Rule.Spellings
import Cascade.Proofs.Rule.TokenRows

/-!
# Rules broken over lines

A rule is written token by token behind its header, with a space or a line break in front of each
token (`Rule.broken`); a line break is any line boundary and the indentation of the next line.
Without line breaks the rule stands on one line (`Rule.broken_none`).

The lines of a broken rule are the rows of its tokens (`exists_lines_weave`), so the lines that
count are its header and what the rows behind it are cut into (`map_text_broken`).  Two things can
be amiss with them, and both are said by the places of the line breaks: the word `then` ends its
line behind conditions (`Rule.HidesThen`), or a line begins with a token that is taken for a header
(`Rule.OpensRule`).  The places of the tokens are given by `Rule.tokens_cases`.
-/

namespace Cascade

open Text (IsTrimmed isLineBreak isBlank isWord)

/-! ## Breaking a rule -/

/-- The end of a line and the indentation of the next one. -/
structure LineBreak where
  boundary : List Char
  isBoundary : Text.IsBoundary boundary
  indent : Blanks

/-- What stands between two tokens: a space, or a line break in its place. -/
def spacing : Option LineBreak → List Char
  | none => [' ']
  | some b => b.boundary ++ b.indent.text

/-- Whether a line ends between two tokens. -/
def gapOf : Option LineBreak → Gap
  | none => .space
  | some _ => .newline

/-- Tokens written one after another with line breaks in place of some of the spaces. -/
def weave (breaks : Nat → Option LineBreak) : List (List Char) → List Char
  | [] => []
  | [token] => token
  | token :: next :: more =>
    token ++ (spacing (breaks 0) ++ weave (fun n => breaks (n + 1)) (next :: more))

namespace Rule

/-- The tokens of the conditions of a rule. -/
def conditionTokens (rule : Rule) : List (List Char) :=
  Cascade.tokens (renderConditions rule.guards)

/-- The tokens of the actions of a rule. -/
def actionTokens (rule : Rule) : List (List Char) := Cascade.tokens (renderActions rule.actions)

lemma conditionTokens_ne_nil (rule : Rule) : rule.conditionTokens ≠ [] := tokens_ne_nil _

lemma actionTokens_ne_nil (rule : Rule) : rule.actionTokens ≠ [] := tokens_ne_nil _

lemma joinWith_conditionTokens (rule : Rule) :
    Text.joinWith [' '] rule.conditionTokens = renderConditions rule.guards := joinWith_tokens _

lemma joinWith_actionTokens (rule : Rule) :
    Text.joinWith [' '] rule.actionTokens = renderActions rule.actions := joinWith_tokens _

/-- The tokens behind the header of a rule. -/
def bodyTokens (rule : Rule) : List (List Char) :=
  "when".toList :: rule.conditionTokens ++ "then".toList :: rule.actionTokens

/-- The header of a rule, which is not broken, and its tokens. -/
def tokens (rule : Rule) : List (List Char) := rule.header :: rule.bodyTokens

/-- A rule on one line. -/
def oneLine (rule : Rule) : String :=
  String.ofList (rule.header ++ " when ".toList ++ renderConditions rule.guards ++
    " then ".toList ++ renderActions rule.actions)

/-- A rule with line breaks in place of some of the spaces between its tokens: `breaks n` stands
behind token `n`, the header being token zero. -/
def broken (rule : Rule) (breaks : Nat → Option LineBreak) : String :=
  String.ofList (weave breaks rule.tokens)

/-- The word `then` stands behind something else on its line and ends the line. -/
def HidesThen (rule : Rule) (breaks : Nat → Option LineBreak) : Prop :=
  ∃ i, rule.tokens[i + 1]? = some "then".toList ∧ gapOf (breaks i) = .space ∧
    gapOf (breaks (i + 1)) = .newline

/-- A line begins with a token that is taken for the header of another rule. -/
def OpensRule (rule : Rule) (breaks : Nat → Option LineBreak) : Prop :=
  ∃ i token, rule.tokens[i + 1]? = some token ∧ gapOf (breaks i) = .newline ∧
    isRuleLine token = true

end Rule

variable {rule : Rule} {breaks : Nat → Option LineBreak} {token : List Char}
  {tokens more : List (List Char)}

lemma joinWith_append {ls ms : List (List Char)} (hls : ls ≠ []) (hms : ms ≠ []) :
    Text.joinWith [' '] (ls ++ ms) = Text.joinWith [' '] ls ++ ' ' :: Text.joinWith [' '] ms := by
  induction ls with
  | nil => exact absurd rfl hls
  | cons l ls ih =>
    by_cases hnil : ls = []
    · subst hnil
      rw [List.singleton_append, Text.joinWith_cons_of_ne_nil hms]
      simp [Text.joinWith]
    · rw [List.cons_append, Text.joinWith_cons_of_ne_nil (by simp [hms]), ih hnil,
        Text.joinWith_cons_of_ne_nil hnil]
      simp

lemma weave_none (tokens : List (List Char)) :
    weave (fun _ => none) tokens = Text.joinWith [' '] tokens := by
  induction tokens with
  | nil => rfl
  | cons token tokens ih =>
    cases tokens with
    | nil => rfl
    | cons next tokens =>
      rw [weave, ih, Text.joinWith_cons_cons, List.append_assoc]
      rfl

/-- Without line breaks a rule stands on one line. -/
lemma Rule.broken_none (rule : Rule) : rule.broken (fun _ => none) = rule.oneLine := by
  have hne : rule.conditionTokens ++ "then".toList :: rule.actionTokens ≠ [] := by simp
  rw [broken, oneLine, weave_none, Rule.tokens, bodyTokens, List.cons_append,
    Text.joinWith_cons_of_ne_nil (List.cons_ne_nil _ _), Text.joinWith_cons_of_ne_nil hne,
    joinWith_append rule.conditionTokens_ne_nil (List.cons_ne_nil _ _),
    Text.joinWith_cons_of_ne_nil rule.actionTokens_ne_nil, joinWith_conditionTokens,
    joinWith_actionTokens]
  simp

/-! ## The lines of woven tokens -/

lemma exists_weave_cons (breaks : Nat → Option LineBreak) (token : List Char)
    (tokens : List (List Char)) : ∃ tail, weave breaks (token :: tokens) = token ++ tail := by
  cases tokens with
  | nil => exact ⟨[], by simp [weave]⟩
  | cons next tokens => exact ⟨_, rfl⟩

/-- The lines of woven tokens are the rows of the tokens, each but the first one indented; `before`
stands in front of the first one. -/
lemma exists_lines_weave (breaks : Nat → Option LineBreak) {before : List Char}
    (hbefore : ∀ c ∈ before, isLineBreak c = false)
    (h : ∀ t ∈ token :: tokens, IsCode t) :
    ∃ first rest,
      Text.lines (before ++ weave breaks (token :: tokens)) = (before ++ first) :: rest ∧
      rows (fun n => gapOf (breaks n)) (token :: tokens) = first :: rest.map Text.trim := by
  induction tokens generalizing token before breaks with
  | nil =>
    have htoken : IsCode token := h token List.mem_cons_self
    refine ⟨token, [], ?_, ?_⟩
    · have hunbroken : ∀ c ∈ before ++ token, isLineBreak c = false :=
        List.forall_mem_append.mpr ⟨hbefore, htoken.unbroken⟩
      rw [weave, Text.lines_of_unbroken hunbroken]
      simp [htoken.nonempty]
    · rw [rows]
      cases gapOf (breaks 0) <;> rfl
  | cons next tokens ih =>
    obtain ⟨htoken, htokens⟩ := List.forall_mem_cons.mp h
    have hrows : rows (fun n => gapOf (breaks n)) (token :: next :: tokens) =
        (gapOf (breaks 0)).weld token
          (rows (fun n => gapOf (breaks (n + 1))) (next :: tokens)) := rfl
    have hweave : weave breaks (token :: next :: tokens) =
        token ++ (spacing (breaks 0) ++ weave (fun n => breaks (n + 1)) (next :: tokens)) := rfl
    have hstart : ∀ c ∈ before ++ token, isLineBreak c = false :=
      List.forall_mem_append.mpr ⟨hbefore, htoken.unbroken⟩
    rw [hrows, hweave]
    cases breaks 0 with
    | none =>
      have hspace : ∀ c ∈ before ++ token ++ [' '], isLineBreak c = false :=
        List.forall_mem_append.mpr ⟨hstart, List.forall_mem_singleton.mpr (by decide)⟩
      obtain ⟨first, rest, hlines, hfirst⟩ := ih (fun n => breaks (n + 1)) hspace htokens
      refine ⟨token ++ ' ' :: first, rest, ?_, ?_⟩
      · have htext : before ++ (token ++ (spacing none ++ weave (fun n => breaks (n + 1))
            (next :: tokens))) =
            before ++ token ++ [' '] ++ weave (fun n => breaks (n + 1)) (next :: tokens) := by
          simp [spacing]
        rw [htext, hlines]
        simp
      · rw [hfirst]
        rfl
    | some b =>
      obtain ⟨first, rest, hlines, hfirst⟩ :=
        ih (fun n => breaks (n + 1)) b.indent.unbroken htokens
      -- the next line begins with its indentation or with a token, so with no line feed
      have hnext : ∀ tail, b.indent.text ++ weave (fun n => breaks (n + 1)) (next :: tokens) ≠
          '\n' :: tail := by
        intro tail htail
        have hcode : IsCode next := htokens next List.mem_cons_self
        obtain ⟨more, hmore⟩ := exists_weave_cons (fun n => breaks (n + 1)) next tokens
        have hline : ∀ c ∈ b.indent.text ++ next, isLineBreak c = false :=
          List.forall_mem_append.mpr ⟨b.indent.unbroken, hcode.unbroken⟩
        rw [hmore, ← List.append_assoc] at htail
        have hne : b.indent.text ++ next ≠ [] := by simp [hcode.nonempty]
        have hhead := congrArg List.head? htail
        rw [List.head?_append_of_ne_nil _ hne, List.head?_cons] at hhead
        exact absurd (hline '\n' (List.mem_of_mem_head? hhead)) (by decide)
      refine ⟨token, (b.indent.text ++ first) :: rest, ?_, ?_⟩
      · have htext : before ++ (token ++ (spacing (some b) ++ weave (fun n => breaks (n + 1))
            (next :: tokens))) = before ++ token ++
              (b.boundary ++
                (b.indent.text ++ weave (fun n => breaks (n + 1)) (next :: tokens))) := by
          simp [spacing]
        rw [htext, Text.lines_append_boundary hstart b.isBoundary fun tail _ => hnext tail, hlines]
      · have hcode : ∀ row ∈ rows (fun n => gapOf (breaks (n + 1))) (next :: tokens), IsCode row :=
          forall_mem_rows htokens fun _ _ => IsCode.join
        rw [hfirst] at hcode ⊢
        have htrim : Text.trim (b.indent.text ++ first) = first := by
          have := Text.trim_blanks_append b.indent.blank (List.forall_mem_nil _)
            (hcode first List.mem_cons_self).trimmed
          rwa [List.append_nil] at this
        rw [List.map_cons, htrim]
        rfl

/-- The lines that count for woven tokens are those of the rows of the tokens. -/
lemma flatMap_codeTexts_lines_weave (breaks : Nat → Option LineBreak)
    (h : ∀ t ∈ token :: tokens, IsCode t) :
    (Text.lines (weave breaks (token :: tokens))).flatMap codeTexts =
      (rows (fun n => gapOf (breaks n)) (token :: tokens)).flatMap cutLine := by
  have hcode : ∀ row ∈ rows (fun n => gapOf (breaks n)) (token :: tokens), IsCode row :=
    forall_mem_rows h fun _ _ => IsCode.join
  obtain ⟨first, rest, hlines, hrows⟩ :=
    exists_lines_weave breaks (List.forall_mem_nil fun c => isLineBreak c = false) h
  rw [hrows, List.forall_mem_cons] at hcode
  rw [List.nil_append, List.nil_append] at hlines
  have hrest : rest.flatMap codeTexts = (rest.map Text.trim).flatMap cutLine := by
    rw [List.flatMap_map]
    refine List.flatMap_congr fun line hline => ?_
    exact codeTexts_of_trim_eq (hcode.2 _ (List.mem_map_of_mem hline)) rfl
  rw [hlines, hrows, List.flatMap_cons, List.flatMap_cons,
    codeTexts_of_trim_eq hcode.1 hcode.1.trimmed.trim_eq, hrest]

/-! ## The places of tokens -/

namespace Rule

lemma getElem?_tokens_condition {i : Nat} (h : rule.conditionTokens[i]? = some token) :
    rule.tokens[i + 1 + 1]? = some token := by
  obtain ⟨hlt, -⟩ := List.getElem?_eq_some_iff.mp h
  show (rule.conditionTokens ++ "then".toList :: rule.actionTokens)[i]? = some token
  rw [List.getElem?_append_left hlt, h]

lemma getElem?_tokens_then (rule : Rule) :
    rule.tokens[rule.conditionTokens.length + 1 + 1]? = some "then".toList := by
  show (rule.conditionTokens ++ "then".toList :: rule.actionTokens)[rule.conditionTokens.length]? =
    some "then".toList
  rw [List.getElem?_append_right (Nat.le_refl _), Nat.sub_self, List.getElem?_cons_zero]

lemma getElem?_tokens_action {i : Nat} (h : rule.actionTokens[i]? = some token) :
    rule.tokens[i + (rule.conditionTokens.length + 1) + 1 + 1]? = some token := by
  show (rule.conditionTokens ++ "then".toList :: rule.actionTokens)[
    i + (rule.conditionTokens.length + 1)]? = some token
  rw [List.getElem?_append_right (by omega), ← Nat.add_assoc, Nat.add_right_comm,
    Nat.add_sub_cancel, List.getElem?_cons_succ, h]

/-- A token behind the header is one of the two words or stands in one of the two clauses. -/
lemma tokens_cases {i : Nat} (h : rule.tokens[i + 1]? = some token) :
    (i = 0 ∧ token = "when".toList) ∨ (∃ j, i = j + 1 ∧ rule.conditionTokens[j]? = some token) ∨
      (i = rule.conditionTokens.length + 1 ∧ token = "then".toList) ∨
        ∃ j, i = j + (rule.conditionTokens.length + 1) + 1 ∧
          rule.actionTokens[j]? = some token := by
  cases i with
  | zero => exact .inl ⟨rfl, (Option.some.inj h).symm⟩
  | succ j =>
    have hj : (rule.conditionTokens ++ "then".toList :: rule.actionTokens)[j]? = some token := h
    rcases Nat.lt_trichotomy j rule.conditionTokens.length with hlt | rfl | hgt
    · rw [List.getElem?_append_left hlt] at hj
      exact .inr (.inl ⟨j, rfl, hj⟩)
    · rw [List.getElem?_append_right (Nat.le_refl _), Nat.sub_self] at hj
      exact .inr (.inr (.inl ⟨rfl, (Option.some.inj hj).symm⟩))
    · obtain ⟨k, rfl⟩ := Nat.exists_eq_add_of_lt hgt
      rw [List.getElem?_append_right (by omega), Nat.add_assoc, Nat.add_sub_cancel_left,
        List.getElem?_cons_succ] at hj
      exact .inr (.inr (.inr ⟨k, by omega, hj⟩))

/-- No line opens another rule when none of the tokens that begin a line does. -/
lemma not_opensRule_iff : ¬ rule.OpensRule breaks ↔
    (∀ i token, gapOf (breaks (i + 1)) = .newline → rule.conditionTokens[i]? = some token →
        isRuleLine token = false) ∧
      ∀ i token, gapOf (breaks (i + (rule.conditionTokens.length + 1) + 1)) = .newline →
        rule.actionTokens[i]? = some token → isRuleLine token = false := by
  constructor
  · intro hopen
    refine ⟨fun i token hgap htoken => ?_, fun i token hgap htoken => ?_⟩
    · by_contra hrule
      exact hopen ⟨_, token, getElem?_tokens_condition htoken, hgap, by simpa using hrule⟩
    · by_contra hrule
      exact hopen ⟨_, token, getElem?_tokens_action htoken, hgap, by simpa using hrule⟩
  · rintro ⟨hconditions, hactions⟩ ⟨i, token, htoken, hgap, hrule⟩
    rcases tokens_cases htoken with ⟨-, rfl⟩ | ⟨j, rfl, hj⟩ | ⟨-, rfl⟩ | ⟨j, rfl, hj⟩
    · cases hrule
    · rw [hconditions j token hgap hj] at hrule
      cases hrule
    · cases hrule
    · rw [hactions j token hgap hj] at hrule
      cases hrule

end Rule

/-! ## The lines of a broken rule -/

section
variable (h : rule.IsSpelled)
include h

lemma isToken_conditionTokens : ∀ t ∈ rule.conditionTokens, IsToken t :=
  (isWritten_conditions rule.guards h.guards h.guards_ne).spaced.isToken_of_mem

lemma isToken_actionTokens : ∀ t ∈ rule.actionTokens, IsToken t :=
  (spaced_renderActions h.actions_ne h.actions).isToken_of_mem

lemma isCode_tokens : ∀ t ∈ rule.tokens, IsCode t := by
  have hwhen : IsToken "when".toList := isToken_of_isPlainToken (by decide)
  have hthen : IsPhrase [] "then".toList := isPhrase_of_isPlainPhrase (by decide)
  refine List.forall_mem_cons.mpr ⟨isCode_header h.named, List.forall_mem_append.mpr
    ⟨List.forall_mem_cons.mpr ⟨hwhen.isCode, ?_⟩, List.forall_mem_cons.mpr ⟨?_, ?_⟩⟩⟩
  · exact fun t ht => (isToken_conditionTokens h t ht).isCode
  · exact ⟨hthen.nonempty, hthen.trimmed, hthen.unbroken, by decide⟩
  · exact fun t ht => (isToken_actionTokens h t ht).isCode

/-- The lines that count for a broken rule: its header, and the lines of the rows of its tokens. -/
lemma map_text_broken (breaks : Nat → Option LineBreak) :
    (significantLines (rule.broken breaks).toList).map SourceLine.text =
      rule.header ::
        (rows (fun n => gapOf (breaks (n + 1))) rule.bodyTokens).flatMap cutLine := by
  have hcode := isCode_tokens h
  rw [Rule.broken, String.toList_ofList, significantLines, map_text_significantLinesFrom,
    Rule.tokens, flatMap_codeTexts_lines_weave breaks hcode]
  refine flatMap_cutLine_rows_header h.named _ (List.forall_mem_cons.mp hcode).2 fun row hrow => ?_
  -- a line that begins with the word `when` is no header
  obtain ⟨first, rest, hrows, hfirst, -⟩ := exists_rows_cons (P := fun _ => True)
    (fun _ _ => Iff.rfl) (fun n => gapOf (breaks (n + 1))) "when".toList
    (rule.conditionTokens ++ "then".toList :: rule.actionTokens)
  rw [Rule.bodyTokens, List.cons_append, hrows] at hrow
  obtain rfl : first = row := Option.some.inj hrow
  rcases hfirst with rfl | ⟨more, rfl⟩ <;> rfl

/-- The word `then` is hidden where it stands behind a space and a line ends behind it. -/
lemma hidesThen_iff : rule.HidesThen breaks ↔
    gapOf (breaks (rule.conditionTokens.length + 1)) = .space ∧
      gapOf (breaks (rule.conditionTokens.length + 1 + 1)) = .newline := by
  have hmem : "then".toList ∈ openingWords := by decide
  constructor
  · rintro ⟨i, htoken, hgaps⟩
    rcases Rule.tokens_cases htoken with ⟨-, heq⟩ | ⟨j, -, hj⟩ | ⟨rfl, -⟩ | ⟨j, -, hj⟩
    · exact absurd heq (by decide)
    · exact absurd hmem (isToken_conditionTokens h _ (List.mem_of_getElem? hj)).no_opening
    · exact hgaps
    · exact absurd hmem (isToken_actionTokens h _ (List.mem_of_getElem? hj)).no_opening
  · exact fun hgaps => ⟨_, rule.getElem?_tokens_then, hgaps⟩

end

end Cascade
