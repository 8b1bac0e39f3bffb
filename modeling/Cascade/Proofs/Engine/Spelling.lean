import Cascade.Proofs.Engine.Steps

/-!
# How fields are spelled

The common fields have short names, which may be written in any case.  `Rule.canonical` gives every
field of a rule the tracker's name, so two rules that differ in the spelling of their fields only
are two with the same canonical form.

Items are read, and patch documents written, under the tracker's names, so a rule in canonical form
does what the rule does: conditions hold alike (`holdsIn_canonical`), and running has the same
result (`result_runRules_canonical`).  Of notices this cannot be said, for a removal from a field
without tags is noted with the field as it was written.
-/

namespace Cascade

/-! ## The tracker's names -/

/-- The tracker's name of a field is no short name of another. -/
lemma canonicalField_canonicalField (name : String) :
    canonicalField (canonicalField name) = canonicalField name := by
  have hnames : ∀ p ∈ fieldAliases, canonicalField p.2 = p.2 := by decide
  cases hlookup : fieldAliases.lookup (String.ofList (Text.lowerText name.toList)) with
  | none =>
    have hname : canonicalField name = name := by rw [canonicalField, hlookup]; rfl
    rw [hname, hname]
  | some long =>
    have hname : canonicalField name = long := by rw [canonicalField, hlookup]; rfl
    obtain ⟨before, after, hsplit, -⟩ := List.lookup_eq_some_iff.mp hlookup
    have hmem : (String.ofList (Text.lowerText name.toList), long) ∈ fieldAliases := by
      rw [hsplit]
      exact List.mem_append_right before List.mem_cons_self
    have hlong := hnames _ hmem
    rw [hname]
    exact hlong

lemma canonicalField_tagsField : canonicalField tagsField = tagsField := by decide

lemma read_canonicalField (item : WorkItem) (name : String) :
    item.read (canonicalField name) = item.read name := by
  simp only [WorkItem.read, canonicalField_canonicalField]

lemma fieldPath_canonicalField (name : String) :
    fieldPath (canonicalField name) = fieldPath name := by
  simp only [fieldPath, canonicalField_canonicalField]

/-! ## Rules with the tracker's names -/

mutual

/-- A condition with the tracker's names. -/
def Condition.canonical : Condition → Condition
  | .mk left comparison right => .mk left.canonical comparison right.canonical

/-- An operand with the tracker's names. -/
def Operand.canonical : Operand → Operand
  | .literal text => .literal text
  | .field reference => .field reference.canonical

/-- A reference with the tracker's names. -/
def Reference.canonical : Reference → Reference
  | .mk scope name none => .mk scope (canonicalField name) none
  | .mk scope name (some conditions) =>
    .mk scope (canonicalField name) (some (canonicalConditions conditions))

/-- Conditions with the tracker's names. -/
def canonicalConditions : List Condition → List Condition
  | [] => []
  | c :: rest => c.canonical :: canonicalConditions rest

end

/-- An action with the tracker's names. -/
def Action.canonical (a : Action) : Action :=
  { a with target := a.target.canonical, value := a.value.canonical }

/-- A rule with the tracker's names. -/
def Rule.canonical (rule : Rule) : Rule :=
  { rule with
    guards := canonicalConditions rule.guards
    actions := rule.actions.map Action.canonical }

lemma Reference.canonical_mk (scope : Scope) (name : String) (selector : Option (List Condition)) :
    (Reference.mk scope name selector).canonical =
      .mk scope (canonicalField name) (selector.map canonicalConditions) := by
  cases selector <;> rw [Reference.canonical] <;> rfl

/-! ## Evaluation -/

mutual

/-- A condition holds as it does with the tracker's names. -/
theorem holdsIn_canonical (ctx : Context) : (c : Condition) →
    c.canonical.holdsIn ctx = c.holdsIn ctx
  | .mk left comparison right => by
    rw [Condition.canonical, holdsIn_mk, holdsIn_mk, valueIn_canonical ctx left,
      valueIn_canonical ctx right]

theorem valueIn_canonical (ctx : Context) : (op : Operand) →
    op.canonical.valueIn ctx = op.valueIn ctx
  | .literal _ => by rw [Operand.canonical]
  | .field (.mk scope name selector) => by
    have hitem := itemIn_canonical ctx (.mk scope name selector)
    rw [Operand.canonical, valueIn_field, valueIn_field, hitem, Reference.canonical_mk]
    simp only [Reference.name, read_canonicalField]

theorem itemIn_canonical (ctx : Context) : (r : Reference) → r.canonical.itemIn ctx = r.itemIn ctx
  | .mk scope name none => by rw [Reference.canonical, itemIn_mk, itemIn_mk]
  | .mk scope name (some conditions) => by
    have hinner (child : WorkItem) := allHold_canonical (ctx.withImplicit (some child)) conditions
    rw [Reference.canonical, itemIn_mk, itemIn_mk]
    simp only [matchingChild, hinner]

theorem allHold_canonical (ctx : Context) : (cs : List Condition) →
    allHold ctx (canonicalConditions cs) = allHold ctx cs
  | [] => by rw [canonicalConditions]
  | c :: rest => by
    rw [canonicalConditions, allHold, allHold, holdsIn_canonical ctx c, allHold_canonical ctx rest]

end

/-! ## Actions and runs -/

lemma matchingChildren_canonical (ctx : Context) (selector : Option (List Condition)) :
    matchingChildren ctx (selector.map canonicalConditions) = matchingChildren ctx selector := by
  cases selector with
  | none => rfl
  | some conditions =>
    have hinner (child : WorkItem) := allHold_canonical (ctx.withImplicit (some child)) conditions
    simp only [matchingChildren, Option.map_some, hinner]

lemma targetsIn_canonical (ctx : Context) (r : Reference) :
    r.canonical.targetsIn ctx = r.targetsIn ctx := by
  have hitem := itemIn_canonical ctx r
  obtain ⟨scope, name, selector⟩ := r
  rw [Reference.canonical_mk] at hitem ⊢
  cases scope with
  | implicit | me | parent => rfl
  | child => simp only [Reference.targetsIn, Reference.scope, hitem]
  | children =>
    simp only [Reference.targetsIn, Reference.scope, Reference.selector, matchingChildren_canonical]

/-- An action with the tracker's names has the same operations on the same targets. -/
lemma result_apply_canonical (a : Action) (targets : List (Option WorkItem)) (value : Text) :
    (a.canonical.apply targets value).result = (a.apply targets value).result := by
  have hname : a.canonical.target.name = canonicalField a.target.name := by
    unfold Action.canonical
    obtain ⟨scope, name, selector⟩ := a.target
    simp only [Reference.canonical_mk, Reference.name]
  have hreplacement (item : WorkItem) (v : Text) :
      a.canonical.replacement item v = a.replacement item v := by
    simp only [Action.replacement, hname, fieldPath_canonicalField]
    rfl
  have htag : a.canonical.isOnTags = a.isOnTags := by
    simp only [Action.isOnTags, hname, canonicalField_canonicalField]
  have hkind : a.canonical.kind = a.kind := rfl
  unfold Action.apply
  simp only [hkind, htag, hreplacement]
  cases a.kind with
  | set | add => rfl
  | remove =>
    -- without tags there is only a notice, which bears the name as it was written
    dsimp only
    split <;> rfl

lemma result_execute_canonical (ctx : Context) (a : Action) :
    (a.canonical.execute ctx).result = (a.execute ctx).result := by
  have htarget : a.canonical.target = a.target.canonical := rfl
  have hvalue : a.canonical.value = a.value.canonical := rfl
  rw [Action.execute, Action.execute, htarget, hvalue, targetsIn_canonical, valueIn_canonical]
  refine Logged.result_bind_congr rfl fun targets => ?_
  split
  · rfl
  · refine Logged.result_bind_congr rfl fun value => ?_
    cases value with
    | none => rfl
    | some value => exact result_apply_canonical a targets value.text

lemma result_executeAll_canonical (ctx : Context) (actions : List Action) :
    (executeAll ctx (actions.map Action.canonical)).result = (executeAll ctx actions).result := by
  induction actions with
  | nil => rfl
  | cons a rest ih =>
    refine Logged.result_bind_congr (result_execute_canonical ctx a) fun operations => ?_
    exact Logged.result_bind_congr ih fun more => rfl

/-- Rules run as they do with the tracker's names. -/
lemma result_runRules_canonical (ctx : Context) (rules : List Rule) :
    (runRules ctx (rules.map Rule.canonical)).result = (runRules ctx rules).result := by
  induction rules with
  | nil => rfl
  | cons rule rest ih =>
    have hguards : rule.canonical.holdsIn ctx = rule.holdsIn ctx :=
      allHold_canonical ctx rule.guards
    refine Logged.result_bind_congr (congrArg _ hguards) fun holds => ?_
    cases holds with
    | false => exact ih
    | true =>
      refine Logged.result_bind_congr rfl fun _ => ?_
      exact Logged.result_bind_congr (result_executeAll_canonical ctx rule.actions) fun _ => rfl

end Cascade
