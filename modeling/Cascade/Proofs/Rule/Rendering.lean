import Cascade.Proofs.Rule.Phrases

/-!
# Writing rules

The printer of the rule language: operands, conditions and actions as the grammar writes them.  What
can be written so that it can be read again is said by the predicates `WellFormed`: literals hold no
quote and no line boundary, fields are names without words of the language in them, selectors stand
behind `child` and `children` only and are not empty, patterns are usable, and what is added or
removed is a literal that is not empty.

Written operands are phrases for all words of the language (`isPhrase_operand`), written conditions
for the words at which clauses are cut (`isPhrase_condition`).
-/

namespace Cascade

open Text (IsTrimmed isLineBreak isBlank isWord)

/-! ## The printer -/

/-- What stands before the name of a field without selector. -/
def Scope.lead : Scope → List Char
  | .implicit => []
  | scope => scope.word.toList ++ ['.']

mutual

/-- A condition as it is written. -/
def Condition.render : Condition → List Char
  | .mk left comparison right =>
    left.render ++ ' ' :: (comparison.spelling.toList ++ ' ' :: right.render)

/-- An operand as it is written. -/
def Operand.render : Operand → List Char
  | .literal text => quotedLiteral text.toList
  | .field reference => reference.render

/-- A reference as it is written. -/
def Reference.render : Reference → List Char
  | .mk scope name none => scope.lead ++ name.toList
  | .mk scope name (some conditions) =>
    scope.word.toList ++ ('(' :: (renderConditions conditions ++ [')'])) ++ '.' :: name.toList

/-- Conditions as they are written, with the word `and` between them. -/
def renderConditions : List Condition → List Char
  | [] => []
  | [c] => c.render
  | c :: d :: rest => c.render ++ conjunction ++ renderConditions (d :: rest)

end

/-- The option words of an action. -/
def Options.words (o : Options) : List String :=
  (o.suppressNotifications.map fun b =>
      if b then "suppressNotifications" else "notifications").toList ++
    (o.bypassRules.map fun _ => "bypassRules").toList

/-- Options as they are written, with the space behind them. -/
def Options.render (o : Options) : List Char :=
  if o.words = [] then []
  else "with ".toList ++ Text.joinWith [',', ' '] (o.words.map String.toList) ++ [' ']

/-- The body of an action as it is written. -/
def Action.renderBody (a : Action) : List Char :=
  match a.kind with
  | .set => a.target.render ++ " = ".toList ++ a.value.render
  | .add => a.value.render ++ " to ".toList ++ a.target.render
  | .remove => a.value.render ++ " from ".toList ++ a.target.render

/-- An action as it is written. -/
def Action.render (a : Action) : List Char :=
  a.kind.word.toList ++ ' ' :: (a.options.render ++ a.renderBody)

/-! ## What can be written -/

/-- A text that can stand between double quotes on one line. -/
def IsConstant (text : String) : Prop :=
  ∀ c ∈ text.toList, c ≠ '"' ∧ isLineBreak c = false

lemma isConstant_of_all {text : String}
    (h : text.toList.all (fun c => c != '"' && !isLineBreak c) = true) : IsConstant text := by
  simpa [IsConstant] using h

/-- The name of a field that holds no word of the language and, if no scope stands before it, does
not begin with a scope either. -/
structure IsFieldOf (scope : Scope) (name : String) : Prop where
  isName : isFieldName name.toList = true
  no_language_word : ∀ run ∈ wordRuns name.toList, run ∉ languageWords
  no_scope : scope = .implicit →
    ∀ other ∈ qualifiers, (wordRuns name.toList).head? ≠ some other.word.toList

/-- A literal that can be used as a pattern; a field is looked at when the condition is
evaluated. -/
def Operand.IsPattern : Operand → Prop
  | .literal text => ∃ node, Pattern.Node.read text = .ok node
  | .field _ => True

mutual

/-- A condition that can be written. -/
def Condition.WellFormed : Condition → Prop
  | .mk left comparison right =>
    left.WellFormed ∧ right.WellFormed ∧ (comparison.takesPattern = true → right.IsPattern)

/-- An operand that can be written. -/
def Operand.WellFormed : Operand → Prop
  | .literal text => IsConstant text
  | .field reference => reference.WellFormed

/-- A reference that can be written. -/
def Reference.WellFormed : Reference → Prop
  | .mk scope name none => IsFieldOf scope name
  | .mk scope name (some conditions) =>
    IsFieldOf scope name ∧ scope ∈ [Scope.children, .child] ∧ conditions ≠ [] ∧
      conditionsWellFormed conditions

/-- Conditions that can all be written. -/
def conditionsWellFormed : List Condition → Prop
  | [] => True
  | c :: rest => c.WellFormed ∧ conditionsWellFormed rest

end

/-- An action that can be written. -/
structure Action.WellFormed (a : Action) : Prop where
  target : a.target.WellFormed
  value : a.value.WellFormed
  tag : a.kind ≠ .set → ∃ text, a.value = .literal text ∧ text ≠ ""
  bypassRules : a.options.bypassRules ≠ some false

/-- A rule whose name can be written. -/
structure Rule.IsNamed (rule : Rule) : Prop where
  name_ne : rule.name ≠ ""
  name : IsConstant rule.name

/-- A rule that can be written. -/
structure Rule.WellFormed (rule : Rule) : Prop where
  name_ne : rule.name ≠ ""
  name : IsConstant rule.name
  guards_ne : rule.guards ≠ []
  guards : ∀ c ∈ rule.guards, c.WellFormed
  actions_ne : rule.actions ≠ []
  actions : ∀ a ∈ rule.actions, a.WellFormed

lemma Rule.WellFormed.isNamed {rule : Rule} (h : rule.WellFormed) : rule.IsNamed :=
  ⟨h.name_ne, h.name⟩

lemma conditionsWellFormed_iff {cs : List Condition} :
    conditionsWellFormed cs ↔ ∀ c ∈ cs, c.WellFormed := by
  induction cs with
  | nil => simp [conditionsWellFormed]
  | cons c cs ih => simp [conditionsWellFormed, ih]

/-! ## Written operands and conditions are phrases -/

lemma nil_not_mem_languageWords : [] ∉ languageWords := by decide

lemma nil_not_mem_clauseWords : [] ∉ clauseWords := by decide

lemma clauseWords_subset : clauseWords ⊆ languageWords := by decide

namespace IsFieldOf

variable {scope : Scope} {name : String}

lemma isNameChar (h : IsFieldOf scope name) : ∀ c ∈ name.toList, IsNameChar c :=
  fun _ hc => isFieldName_mem h.isName hc

lemma ne_nil (h : IsFieldOf scope name) : name.toList ≠ [] := by
  intro hnil
  have := h.isName
  rw [hnil] at this
  cases this

/-- Behind a point the name of a field is a phrase. -/
lemma isPhrase_point (h : IsFieldOf scope name) : IsPhrase languageWords ('.' :: name.toList) := by
  refine isPhrase_of_nameChars (by simp) (fun c hc => ?_) (fun run hrun => ?_)
    nil_not_mem_languageWords
  · rcases List.mem_cons.mp hc with rfl | hc
    · exact .inr (.inl rfl)
    · exact h.isNameChar c hc
  · rw [wordRuns_cons_of_not_isWord (by decide)] at hrun
    exact h.no_language_word run hrun

end IsFieldOf

/-- The words of scopes are none of the language's. -/
lemma isPhrase_scope (scope : Scope) : IsPhrase languageWords scope.word.toList := by
  refine isPhrase_of_nameChars ?_ ?_ ?_ nil_not_mem_languageWords
  · cases scope <;> decide
  · have hall : scope.word.toList.all isWord = true := by cases scope <;> decide
    exact fun c hc => .inl (List.all_eq_true.mp hall c hc)
  · cases scope <;> decide

/-- A name of a field with its scope is a phrase. -/
lemma isPhrase_plainReference {scope : Scope} {name : String} (h : IsFieldOf scope name) :
    IsPhrase languageWords (scope.lead ++ name.toList) := by
  by_cases hscope : scope = .implicit
  · subst hscope
    exact isPhrase_of_nameChars h.ne_nil h.isNameChar h.no_language_word nil_not_mem_languageWords
  · have hlead : scope.lead = scope.word.toList ++ ['.'] := by
      cases scope with
      | implicit => exact absurd rfl hscope
      | _ => rfl
    have hscope := isPhrase_scope scope
    have hname := h.isPhrase_point
    rw [hlead, List.append_assoc, List.singleton_append]
    refine ⟨by simp, ?_, ?_, hscope.balanced.append hname.balanced, fun last rest hrest => ?_⟩
    · have := isTrimmed_append_append (m := []) hscope.trimmed hname.trimmed hscope.nonempty
        hname.nonempty
      simpa using this
    · intro c hc
      rcases List.mem_append.mp hc with hc | hc
      · exact hscope.unbroken c hc
      · exact hname.unbroken c hc
    · rw [quiet_append, hscope.balanced.steps_outside]
      refine ⟨hscope.quiet _ _ ?_, hname.quiet _ _ hrest⟩
      rw [List.cons_append, endsWord_cons]
      decide

/-- How comparisons are written is a phrase for clause words. -/
lemma isPhrase_spelling (c : Comparison) : IsPhrase clauseWords c.spelling.toList := by
  apply isPhrase_of_isPlainPhrase
  cases c <;> decide

mutual

/-- A written condition is a phrase for the words at which clauses are cut. -/
theorem isPhrase_condition : (c : Condition) → c.WellFormed → IsPhrase clauseWords c.render
  | .mk left comparison right, ⟨hleft, hright, _⟩ =>
    ((isPhrase_operand left hleft).mono clauseWords_subset).join
      ((isPhrase_spelling comparison).join
        ((isPhrase_operand right hright).mono clauseWords_subset) nil_not_mem_clauseWords)
      nil_not_mem_clauseWords

/-- A written operand is a phrase for all words of the language. -/
theorem isPhrase_operand : (op : Operand) → op.WellFormed → IsPhrase languageWords op.render
  | .literal _, h => isPhrase_quotedLiteral h
  | .field reference, h => isPhrase_reference reference h

theorem isPhrase_reference : (r : Reference) → r.WellFormed → IsPhrase languageWords r.render
  | .mk _ _ none, h => isPhrase_plainReference h
  | .mk scope _ (some conditions), ⟨hname, _, _, hconditions⟩ =>
    isPhrase_selector (isPhrase_scope scope) hname.isPhrase_point
      (balanced_renderConditions conditions hconditions).1
      (balanced_renderConditions conditions hconditions).2

theorem balanced_renderConditions : (cs : List Condition) → conditionsWellFormed cs →
    Balanced (renderConditions cs) ∧ ∀ c ∈ renderConditions cs, isLineBreak c = false
  | [], _ => ⟨.nil, by simp [renderConditions]⟩
  | [c], h =>
    have hc := isPhrase_condition c h.1
    ⟨hc.balanced, hc.unbroken⟩
  | c :: d :: rest, h => by
    have hc := isPhrase_condition c h.1
    have hrest := balanced_renderConditions (d :: rest) h.2
    have hand : Balanced conjunction := by
      refine balanced_of_plain fun c hc => ?_
      have hplain : conjunction.all (fun c => c != '"' && c != '(' && c != ')') = true := by decide
      simpa [IsPlain, and_assoc] using List.all_eq_true.mp hplain c hc
    rw [renderConditions]
    refine ⟨(hc.balanced.append hand).append hrest.1, fun ch hch => ?_⟩
    simp only [List.mem_append] at hch
    rcases hch with (hch | hch) | hch
    · exact hc.unbroken ch hch
    · exact unbroken_of_all (show conjunction.all (!isLineBreak ·) = true by decide) ch hch
    · exact hrest.2 ch hch

end

end Cascade
