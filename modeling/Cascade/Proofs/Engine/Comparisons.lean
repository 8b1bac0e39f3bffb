import Cascade.Proofs.Engine.Steps

/-!
# How comparisons relate to each other

Two operands can be compared in seven ways, and what the comparisons say is of a piece.  If the
value of one operand is missing they are all false, the negated ones too, so that no rule is applied
on the strength of data that is not there.  If both have a value, each negated comparison is the
negation of the other one, and equality implies starting and ending with a text, which both imply
containing it (`accord_holds`).

Resolving the operands is the same for all comparisons, and only a search for a pattern can fail
behind it.  So either an operand cannot be resolved and all seven conditions end with its error, or
the above is what they say (`comparisons_accord`).
-/

namespace Cascade

variable {ctx : Context} {left right : Operand}

/-- What a condition on two operands comes to, for each comparison. -/
def comparisonVerdict (ctx : Context) (left right : Operand) (c : Comparison) :
    Except EvalError Bool :=
  ((Condition.mk left c right).holdsIn ctx).result

/-- The verdicts on two values do not contradict each other. -/
structure Accord (left right : Value) (verdict : Comparison → Except EvalError Bool) : Prop where
  /-- Only a comparison with a pattern can fail. -/
  plain : ∀ c : Comparison, c.takesPattern = false → ∃ b, verdict c = .ok b
  notEqual : ∀ b, verdict .equal = .ok b → verdict .notEqual = .ok !b
  startsWith_of_equal : verdict .equal = .ok true → verdict .startsWith = .ok true
  endsWith_of_equal : verdict .equal = .ok true → verdict .endsWith = .ok true
  contains_of_startsWith : verdict .startsWith = .ok true → verdict .contains = .ok true
  contains_of_endsWith : verdict .endsWith = .ok true → verdict .contains = .ok true
  /-- A pattern that can be used is found or not found. -/
  usable : ∀ node, Pattern.Node.read right.text = .ok node →
    verdict .matching = .ok (node.search left.text) ∧
      verdict .notMatching = .ok !node.search left.text
  /-- With a malformed pattern both comparisons are false. -/
  malformed : ∀ reason position,
    Pattern.Node.read right.text = .error (.malformed reason position) →
      verdict .matching = .ok false ∧ verdict .notMatching = .ok false
  /-- A pattern that is refused is the error of both. -/
  refused : ∀ refusal, Pattern.Node.read right.text = .error (.refused refusal) →
    verdict .matching = .error (.refusedPattern refusal) ∧
      verdict .notMatching = .error (.refusedPattern refusal)

/-! ## Values -/

/-- The comparisons of two values are in accord. -/
lemma accord_holds (left right : Value) :
    Accord left right fun c => (c.holds left.text right.text).result where
  plain c hc := by
    cases c with
    | matching | notMatching => cases hc
    | contains | startsWith | endsWith | equal | notEqual => exact ⟨_, rfl⟩
  notEqual b h := by
    obtain rfl := Except.ok.inj h
    rfl
  startsWith_of_equal h := by
    have heq : left.text = right.text := eq_of_beq (Except.ok.inj h)
    exact congrArg Except.ok (List.isPrefixOf_iff_prefix.mpr (heq ▸ List.prefix_rfl))
  endsWith_of_equal h := by
    have heq : left.text = right.text := eq_of_beq (Except.ok.inj h)
    exact congrArg Except.ok (List.isSuffixOf_iff_suffix.mpr (heq ▸ List.suffix_rfl))
  contains_of_startsWith h := congrArg Except.ok (Text.isInfix_of_isPrefixOf (Except.ok.inj h))
  contains_of_endsWith h := congrArg Except.ok (Text.isInfix_of_isSuffixOf (Except.ok.inj h))
  usable node h := by
    simp only [Comparison.holds, searchPattern_of_ok h]
    exact ⟨rfl, rfl⟩
  malformed reason position h := by
    have hnone := result_searchPattern_of_malformed h left.text
    simp only [Comparison.holds, Logged.result_bind, hnone]
    exact ⟨rfl, rfl⟩
  refused refusal h := by
    simp only [Comparison.holds, searchPattern_of_refused h]
    exact ⟨rfl, rfl⟩

/-! ## Operands -/

/-- Once both operands are resolved, a condition is the comparison of what they are. -/
lemma comparisonVerdict_of_resolved {l r : Option Value} (hl : (left.valueIn ctx).result = .ok l)
    (hr : (right.valueIn ctx).result = .ok r) (c : Comparison) :
    comparisonVerdict ctx left right c = (c.between l r).result := by
  rw [comparisonVerdict, holdsIn_mk, Logged.bind_of_ok hl, Logged.bind_of_ok hr]

/-- If one operand cannot be resolved, all comparisons of the two end with its error. -/
lemma exists_error_or_resolved (ctx : Context) (left right : Operand) :
    (∃ e, ((left.valueIn ctx).result = .error e ∨ (right.valueIn ctx).result = .error e) ∧
        ∀ c, comparisonVerdict ctx left right c = .error e) ∨
      ∃ l r, (left.valueIn ctx).result = .ok l ∧ (right.valueIn ctx).result = .ok r := by
  cases hl : (left.valueIn ctx).result with
  | error e =>
    refine .inl ⟨e, .inl rfl, fun c => ?_⟩
    rw [comparisonVerdict, holdsIn_mk, Logged.bind_of_error hl]
  | ok l =>
    cases hr : (right.valueIn ctx).result with
    | error e =>
      refine .inl ⟨e, .inr rfl, fun c => ?_⟩
      rw [comparisonVerdict, holdsIn_mk, Logged.bind_of_ok hl, Logged.bind_of_error hr]
    | ok r => exact .inr ⟨l, r, rfl, rfl⟩

lemma Comparison.between_missing {l r : Option Value} (h : l = none ∨ r = none) (c : Comparison) :
    c.between l r = pure false := by
  rcases h with rfl | rfl
  · rfl
  · exact c.between_none_right l

lemma result_between_equal_comm (l r : Option Value) :
    (Comparison.equal.between r l).result = (Comparison.equal.between l r).result := by
  cases l with
  | none => rw [Comparison.between_none_right]; rfl
  | some a =>
    cases r with
    | none => rw [Comparison.between_none_right]; rfl
    | some b => exact congrArg Except.ok (BEq.comm (a := b.text) (b := a.text))

/-- **Comparisons are consistent, and never true of what is missing.**  Of any two operands either
all seven conditions end with the error of one that cannot be resolved, or both are resolved.  Then
equality says the same of the operands in either order; if a value is missing all seven conditions are
false; and if there are two values the conditions are in accord. -/
theorem comparisons_accord (ctx : Context) (left right : Operand) :
    (∃ e, ((left.valueIn ctx).result = .error e ∨ (right.valueIn ctx).result = .error e) ∧
        ∀ c, comparisonVerdict ctx left right c = .error e) ∨
      ∃ l r, (left.valueIn ctx).result = .ok l ∧ (right.valueIn ctx).result = .ok r ∧
        comparisonVerdict ctx right left .equal = comparisonVerdict ctx left right .equal ∧
        (l = none ∨ r = none → ∀ c, comparisonVerdict ctx left right c = .ok false) ∧
        ∀ a ∈ l, ∀ b ∈ r, Accord a b (comparisonVerdict ctx left right) := by
  rcases exists_error_or_resolved ctx left right with herror | ⟨l, r, hl, hr⟩
  · exact .inl herror
  · have hverdict := comparisonVerdict_of_resolved hl hr
    refine .inr ⟨l, r, hl, hr, ?_, fun hmissing c => ?_, ?_⟩
    · rw [comparisonVerdict_of_resolved hr hl, hverdict, result_between_equal_comm]
    · rw [hverdict, Comparison.between_missing hmissing]
      rfl
    · rintro a rfl b rfl
      have hholds : comparisonVerdict ctx left right = fun c => (c.holds a.text b.text).result :=
        funext hverdict
      rw [hholds]
      exact accord_holds a b

/-- A field of the parent is not unequal to a text where there is no parent. -/
example : comparisonVerdict (Context.ofTrigger none none []) (.field (.mk .parent "State" none))
    (.literal "New") .notEqual = .ok false := by decide +kernel

end Cascade
