import Cascade.Proofs.Rule.CodeLines
import Cascade.Proofs.Rule.Tokens

/-!
# Rules by their tokens

`IsSpelled` asks of a rule only what its words are: literals without quotes and line boundaries, and
fields with the names that the grammar has, none of which is a word of the language by itself.  Such
a word may still stand in a longer name, patterns need not be usable, and selectors may stand
anywhere, so a spelled rule need not be read back.  A rule that can be written is spelled
(`Rule.WellFormed.isSpelled`).

Spelled conditions and actions are written as spaced texts, and the quotes and parentheses of
spelled conditions are in order (`isWritten_conditions`, `spaced_renderActions`).
-/

namespace Cascade

open Text (IsTrimmed isLineBreak isBlank isWord)

/-! ## Spelled rules -/

/-- A name of a field that is no word of the language. -/
structure IsOpenName (name : String) : Prop where
  isName : isFieldName name.toList = true
  no_language_word : name.toList ∉ languageWords

mutual

/-- A condition with spelled operands. -/
def Condition.IsSpelled : Condition → Prop
  | .mk left _ right => left.IsSpelled ∧ right.IsSpelled

/-- An operand whose literals and names can be spelled. -/
def Operand.IsSpelled : Operand → Prop
  | .literal text => IsConstant text
  | .field reference => reference.IsSpelled

/-- A reference whose name can be spelled, and its selector. -/
def Reference.IsSpelled : Reference → Prop
  | .mk _ name none => IsOpenName name
  | .mk _ name (some conditions) => IsOpenName name ∧ conditionsSpelled conditions

/-- Conditions that are all spelled. -/
def conditionsSpelled : List Condition → Prop
  | [] => True
  | c :: rest => c.IsSpelled ∧ conditionsSpelled rest

end

/-- An action with spelled operands. -/
structure Action.IsSpelled (a : Action) : Prop where
  target : a.target.IsSpelled
  value : a.value.IsSpelled

/-- A rule with a name and both clauses, all of whose words are spelled. -/
structure Rule.IsSpelled (rule : Rule) : Prop where
  named : rule.IsNamed
  guards_ne : rule.guards ≠ []
  guards : conditionsSpelled rule.guards
  actions_ne : rule.actions ≠ []
  actions : ∀ a ∈ rule.actions, a.IsSpelled

lemma IsFieldOf.isOpenName {scope : Scope} {name : String} (h : IsFieldOf scope name) :
    IsOpenName name where
  isName := h.isName
  no_language_word hmem := by
    have hruns : ∀ word ∈ languageWords, word ∈ wordRuns word := by decide
    exact h.no_language_word _ (hruns _ hmem) hmem

mutual

theorem Condition.WellFormed.isSpelled : (c : Condition) → c.WellFormed → c.IsSpelled
  | .mk left _ right, h =>
    ⟨Operand.WellFormed.isSpelled left h.1, Operand.WellFormed.isSpelled right h.2.1⟩

theorem Operand.WellFormed.isSpelled : (op : Operand) → op.WellFormed → op.IsSpelled
  | .literal _, h => h
  | .field reference, h => Reference.WellFormed.isSpelled reference h

theorem Reference.WellFormed.isSpelled : (r : Reference) → r.WellFormed → r.IsSpelled
  | .mk _ _ none, h => IsFieldOf.isOpenName h
  | .mk _ _ (some conditions), h =>
    ⟨h.1.isOpenName, conditionsSpelled_of_wellFormed conditions h.2.2.2⟩

theorem conditionsSpelled_of_wellFormed : (cs : List Condition) → conditionsWellFormed cs →
    conditionsSpelled cs
  | [], _ => trivial
  | c :: rest, h =>
    ⟨Condition.WellFormed.isSpelled c h.1, conditionsSpelled_of_wellFormed rest h.2⟩

end

/-- A rule that can be written is spelled. -/
theorem Rule.WellFormed.isSpelled {rule : Rule} (h : rule.WellFormed) : rule.IsSpelled where
  named := h.isNamed
  guards_ne := h.guards_ne
  guards := conditionsSpelled_of_wellFormed _ (conditionsWellFormed_iff.mpr h.guards)
  actions_ne := h.actions_ne
  actions a ha := ⟨Reference.WellFormed.isSpelled a.target (h.actions a ha).target,
    Operand.WellFormed.isSpelled a.value (h.actions a ha).value⟩

/-! ## Operands and conditions -/

/-- A spaced text whose quotes and parentheses are in order. -/
structure IsWritten (t : List Char) : Prop where
  spaced : Spaced t
  balanced : Balanced t

variable {s t m : List Char}

lemma IsWritten.join (hs : IsWritten s) (ht : IsWritten t) : IsWritten (s ++ ' ' :: t) where
  spaced := hs.spaced.join ht.spaced
  balanced := by
    refine hs.balanced.append (.plain ?_ ?_ ?_ ht.balanced) <;> decide

/-- A text of the language's own is written when its tokens are proper and it holds no quotes and no
parentheses. -/
lemma isWritten_of_all
    (h : ((tokens t).all isPlainToken &&
      t.all (fun c => c != '"' && c != '(' && c != ')')) = true) :
    IsWritten t := by
  rw [Bool.and_eq_true] at h
  refine ⟨.of_all h.1, balanced_of_plain fun c hc => ?_⟩
  have hplain := List.all_eq_true.mp h.2 c hc
  simpa [IsPlain, and_assoc] using hplain

lemma isWritten_quotedLiteral {v : List Char} (hv : ∀ c ∈ v, c ≠ '"' ∧ isLineBreak c = false) :
    IsWritten (quotedLiteral v) := by
  have hquote : '"' ∈ quotedLiteral v := List.mem_cons_self
  refine ⟨.token (isToken_of_mem hquote (by decide) (.quoted hv .nil) ?_), .quoted ?_ .nil⟩
  · exact fun hhead => absurd (Option.some.inj hhead) (by decide)
  · exact fun hmem => (hv _ hmem).1 rfl

lemma solid_of_nameChars (h : ∀ c ∈ t, IsNameChar c) : Solid t :=
  solid_of_forall fun c hc => ⟨(h c hc).isPlain.1, (h c hc).isBlank_eq_false⟩

namespace IsOpenName

variable {name : String}

lemma isNameChar (h : IsOpenName name) : ∀ c ∈ name.toList, IsNameChar c :=
  fun _ hc => isFieldName_mem h.isName hc

/-- A name with the scope in front of it is a token. -/
lemma isWritten (h : IsOpenName name) (scope : Scope) : IsWritten (scope.lead ++ name.toList) := by
  have hlead : ∀ c ∈ scope.lead, IsNameChar c := by
    have hall : scope.lead.all (fun c => isWord c || c == '.' || c == '-') = true := by
      cases scope <;> decide
    simpa [IsNameChar, or_assoc] using hall
  have hchars : ∀ c ∈ scope.lead ++ name.toList, IsNameChar c :=
    List.forall_mem_append.mpr ⟨hlead, h.isNameChar⟩
  refine ⟨.token ⟨?_, solid_of_nameChars hchars, ?_, ?_⟩, balanced_of_plain fun c hc => ?_⟩
  · intro hnil
    have hname := h.isName
    rw [(List.append_eq_nil_iff.mp hnil).2] at hname
    cases hname
  · intro hhead
    exact (hchars '#' (List.mem_of_mem_head? hhead)).ne (by decide) rfl
  · -- a scope ends in a point, which is in none of the opening words
    intro hmem
    have hwords : openingWords ⊆ languageWords := by decide
    have hpoint : ∀ word ∈ openingWords, '.' ∉ word := by decide
    by_cases himplicit : scope = .implicit
    · subst himplicit
      exact h.no_language_word (hwords hmem)
    · refine hpoint _ hmem (List.mem_append_left _ ?_)
      cases scope with
      | implicit => exact absurd rfl himplicit
      | _ => decide
  · exact (hchars c hc).isPlain

end IsOpenName

/-- A selector between its scope and its field. -/
lemma isWritten_selector {name : String} (hname : IsOpenName name) (scope : Scope)
    (hm : m = [] ∨ IsWritten m) :
    IsWritten (scope.word.toList ++ ('(' :: (m ++ [')'])) ++ '.' :: name.toList) := by
  have hword : ∀ c ∈ scope.word.toList, IsNameChar c := by
    have hall : scope.word.toList.all (fun c => isWord c || c == '.' || c == '-') = true := by
      cases scope <;> decide
    simpa [IsNameChar, or_assoc] using hall
  have hfield : ∀ c ∈ '.' :: name.toList, IsNameChar c :=
    List.forall_mem_cons.mpr ⟨.inr (.inl rfl), hname.isNameChar⟩
  have hopen : Solid (scope.word.toList ++ ['(']) :=
    (solid_of_nameChars hword).append (solid_of_all (by decide))
  have hclose : Solid (')' :: '.' :: name.toList) :=
    .plain (by decide) (by decide) (solid_of_nameChars hfield)
  have hhead : ∀ text, (scope.word.toList ++ ['('] ++ text).head? ≠ some '#' := by
    intro text hhead
    cases scope <;> exact absurd (Option.some.inj hhead) (by decide)
  have hbalanced : Balanced m := by
    rcases hm with rfl | hm
    · exact .nil
    · exact hm.balanced
  have htext : scope.word.toList ++ ('(' :: (m ++ [')'])) ++ '.' :: name.toList =
      scope.word.toList ++ ['('] ++ (m ++ ')' :: '.' :: name.toList) := by simp
  have hparen : '(' ∈ scope.word.toList ++ ['('] := List.mem_append_right _ List.mem_cons_self
  constructor
  · rw [htext]
    rcases hm with rfl | hm
    · exact .token (isToken_of_mem (List.mem_append_left _ hparen) (by decide)
        (hopen.append hclose) (hhead _))
    · have htail : Spaced (m ++ ')' :: '.' :: name.toList) := by
        refine hm.spaced.append_right fun token htoken => ?_
        refine isToken_of_mem (List.mem_append_right _ List.mem_cons_self) (by decide)
          (htoken.solid.append hclose) ?_
        rw [List.head?_append_of_ne_nil _ htoken.nonempty]
        exact htoken.no_comment
      refine htail.append_left fun token htoken => ?_
      exact isToken_of_mem (List.mem_append_left _ hparen) (by decide) (hopen.append htoken.solid)
        (hhead _)
  · have hplain := balanced_of_plain fun c hc => (hword c hc).isPlain
    exact (hplain.append (.parens hbalanced .nil)).append
      (balanced_of_plain fun c hc => (hfield c hc).isPlain)

mutual

theorem isWritten_condition : (c : Condition) → c.IsSpelled → IsWritten c.render
  | .mk left comparison right, h => by
    have hspelling : IsWritten comparison.spelling.toList := by
      apply isWritten_of_all
      cases comparison <;> decide
    exact (isWritten_operand left h.1).join (hspelling.join (isWritten_operand right h.2))

theorem isWritten_operand : (op : Operand) → op.IsSpelled → IsWritten op.render
  | .literal _, h => isWritten_quotedLiteral h
  | .field reference, h => isWritten_reference reference h

theorem isWritten_reference : (r : Reference) → r.IsSpelled → IsWritten r.render
  | .mk scope _ none, h => IsOpenName.isWritten h scope
  | .mk scope _ (some conditions), h => by
    refine isWritten_selector h.1 scope ?_
    by_cases hnil : conditions = []
    · exact .inl (by rw [hnil]; rfl)
    · exact .inr (isWritten_conditions conditions h.2 hnil)

theorem isWritten_conditions : (cs : List Condition) → conditionsSpelled cs → cs ≠ [] →
    IsWritten (renderConditions cs)
  | [], _, hne => absurd rfl hne
  | [c], h, _ => isWritten_condition c h.1
  | c :: d :: rest, h, _ => by
    have hand : IsWritten "and".toList := isWritten_of_all (by decide)
    have htext : renderConditions (c :: d :: rest) =
        c.render ++ ' ' :: ("and".toList ++ ' ' :: renderConditions (d :: rest)) := by
      have hconj : conjunction = ' ' :: ("and".toList ++ [' ']) := by decide
      simp [renderConditions, hconj]
    have hrest := isWritten_conditions (d :: rest) h.2 (List.cons_ne_nil d rest)
    rw [htext]
    exact (isWritten_condition c h.1).join (hand.join hrest)

end

/-! ## Actions -/

lemma isWritten_renderBody {a : Action} (h : a.IsSpelled) : IsWritten a.renderBody := by
  have htarget := isWritten_reference a.target h.target
  have hvalue := isWritten_operand a.value h.value
  have hjoin {s w t : List Char} (hs : IsWritten s) (hw : IsWritten w) (ht : IsWritten t) :
      IsWritten (s ++ (' ' :: (w ++ [' '])) ++ t) := by
    have := hs.join (hw.join ht)
    simpa using this
  unfold Action.renderBody
  split
  · exact hjoin htarget (isWritten_of_all (t := ['=']) (by decide)) hvalue
  · exact hjoin hvalue (isWritten_of_all (t := "to".toList) (by decide)) htarget
  · exact hjoin hvalue (isWritten_of_all (t := "from".toList) (by decide)) htarget

lemma isWritten_options {o : Options} (h : o.words ≠ []) :
    IsWritten ("with ".toList ++ writeWords o.words) := by
  obtain ⟨suppress, bypass⟩ := o
  apply isWritten_of_all
  rcases suppress with _ | _ | _ <;> rcases bypass with _ | _ | _ <;> first
    | exact absurd rfl h
    | decide

lemma isWritten_action {a : Action} (h : a.IsSpelled) : IsWritten a.render := by
  have hkind : IsWritten a.kind.word.toList := by
    apply isWritten_of_all
    cases a.kind <;> decide
  have hbody := isWritten_renderBody h
  refine hkind.join ?_
  by_cases hwords : a.options.words = []
  · rwa [a.options.render_of_words_eq_nil hwords, List.nil_append]
  · have hjoin := (isWritten_options hwords).join hbody
    rw [a.options.render_of_words_ne_nil hwords]
    simpa using hjoin

lemma spaced_renderActions {as : List Action} (hne : as ≠ []) (h : ∀ a ∈ as, a.IsSpelled) :
    Spaced (renderActions as) := by
  induction as with
  | nil => exact absurd rfl hne
  | cons a as ih =>
    have ha := (isWritten_action (h a List.mem_cons_self)).spaced
    cases as with
    | nil => exact ha
    | cons b as =>
      rw [renderActions_cons_cons, List.append_assoc]
      exact ha.join (ih (List.cons_ne_nil b as) fun c hc => h c (List.mem_cons_of_mem a hc))

end Cascade
