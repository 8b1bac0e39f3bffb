import Cascade.Proofs.Engine.Steps

/-!
# Scopes and the item at hand

The implicit item of a context is rebound whenever a selector tests a child, and evaluators call
each other through selectors of any depth.  This file says what can be seen of the rebinding.

From outside, nothing: a reference with a scope finds the same item whatever the implicit item is
(`itemIn_withImplicit`), and an action, which writes to no implicit item, does the same altogether
(`execute_withImplicit`).

From inside, a field without scope belongs to the child that the innermost selector tests, and `me`
and `parent` are never rebound.  To say this of conditions nested to any depth, evaluation is
written a second time as for a language with lexical scopes: `Condition.holdsWithin` keeps the
context of the whole condition and a list of the children under test, the innermost first.
`holdsIn_eq_holdsWithin` says that the two evaluations are the same.
-/

namespace Cascade

variable {ctx : Context}

/-! ## What can be seen from outside a selector -/

/-- The scope of an operand that has one. -/
def Operand.scope? : Operand → Option Scope
  | .literal _ => none
  | .field reference => some reference.scope

lemma matchingChild_withImplicit (item : Option WorkItem) (selector : Option (List Condition)) :
    matchingChild (ctx.withImplicit item) selector = matchingChild ctx selector := by
  cases selector <;> simp [matchingChild]

lemma matchingChildren_withImplicit (item : Option WorkItem)
    (selector : Option (List Condition)) :
    matchingChildren (ctx.withImplicit item) selector = matchingChildren ctx selector := by
  cases selector <;> simp [matchingChildren]

/-- A reference with a scope finds its item without the implicit one. -/
lemma itemIn_withImplicit (item : Option WorkItem) {r : Reference} (h : r.scope ≠ .implicit) :
    r.itemIn (ctx.withImplicit item) = r.itemIn ctx := by
  obtain ⟨scope, name, selector⟩ := r
  rw [itemIn_mk, itemIn_mk, matchingChild_withImplicit]
  cases scope with
  | implicit => exact absurd rfl h
  | me | parent | child | children => rfl

lemma valueIn_withImplicit (item : Option WorkItem) {op : Operand}
    (h : op.scope? ≠ some .implicit) : op.valueIn (ctx.withImplicit item) = op.valueIn ctx := by
  cases op with
  | literal text => simp [Operand.valueIn]
  | field r =>
    have hr : r.scope ≠ .implicit := fun hr => h (congrArg some hr)
    rw [valueIn_field, valueIn_field, itemIn_withImplicit item hr]

lemma holdsIn_withImplicit (item : Option WorkItem) {c : Condition}
    (hleft : c.left.scope? ≠ some .implicit) (hright : c.right.scope? ≠ some .implicit) :
    c.holdsIn (ctx.withImplicit item) = c.holdsIn ctx := by
  obtain ⟨left, comparison, right⟩ := c
  have hl : left.valueIn (ctx.withImplicit item) = left.valueIn ctx :=
    valueIn_withImplicit item hleft
  have hr : right.valueIn (ctx.withImplicit item) = right.valueIn ctx :=
    valueIn_withImplicit item hright
  rw [holdsIn_mk, holdsIn_mk, hl, hr]

/-- The targets of a reference are the same whatever the implicit item is, even without a scope:
what is written without a scope is written to the triggering item. -/
lemma targetsIn_withImplicit (item : Option WorkItem) (r : Reference) :
    r.targetsIn (ctx.withImplicit item) = r.targetsIn ctx := by
  obtain ⟨scope, name, selector⟩ := r
  rw [targetsIn_mk, targetsIn_mk, matchingChild_withImplicit, matchingChildren_withImplicit]
  rfl

/-- An action neither reads nor writes the implicit item. -/
lemma execute_withImplicit (item : Option WorkItem) (a : Action) :
    a.execute (ctx.withImplicit item) = a.execute ctx := by
  simp only [Action.execute, targetsIn_withImplicit, Context.withImplicit_withImplicit,
    Context.triggering_withImplicit]

/-! ## Lexical scopes -/

/-- The item at hand inside selectors that test children, the innermost child first. -/
def Context.atHand (ctx : Context) : List WorkItem → Option WorkItem
  | [] => ctx.implicit
  | child :: _ => some child

mutual

/-- Whether a condition holds inside selectors that test children, the innermost child first. -/
def Condition.holdsWithin (ctx : Context) (tested : List WorkItem) : Condition → Eval Bool
  | .mk left comparison right => do
    let leftValue ← left.valueWithin ctx tested
    let rightValue ← right.valueWithin ctx tested
    comparison.between leftValue rightValue

/-- The value of an operand inside selectors. -/
def Operand.valueWithin (ctx : Context) (tested : List WorkItem) : Operand → Eval (Option Value)
  | .literal text => pure (some (.str text))
  | .field (.mk scope name selector) => do
    let item ← (Reference.mk scope name selector).itemWithin ctx tested
    return item.bind fun i => i.read name

/-- The item that a reference inside selectors reads from. -/
def Reference.itemWithin (ctx : Context) (tested : List WorkItem) :
    Reference → Eval (Option WorkItem)
  | .mk .me _ _ => pure ctx.triggering
  | .mk .parent _ _ => pure ctx.parent
  | .mk .implicit _ _ => pure (ctx.atHand tested)
  | .mk .child _ none => pure ctx.children.head?
  | .mk .children _ none => pure ctx.children.head?
  | .mk .child _ (some conditions) =>
    findFirst (fun child => allHoldWithin ctx (child :: tested) conditions) ctx.children
  | .mk .children _ (some conditions) =>
    findFirst (fun child => allHoldWithin ctx (child :: tested) conditions) ctx.children

/-- Whether all conditions hold inside selectors. -/
def allHoldWithin (ctx : Context) (tested : List WorkItem) : List Condition → Eval Bool
  | [] => pure true
  | c :: rest => do
    if ← c.holdsWithin ctx tested then allHoldWithin ctx tested rest else return false

end

mutual

/-- Rebinding the implicit item is lexical scoping: conditions. -/
theorem holdsIn_eq_holdsWithin (ctx : Context) (tested : List WorkItem) : (c : Condition) →
    c.holdsIn (ctx.withImplicit (ctx.atHand tested)) = c.holdsWithin ctx tested
  | .mk left comparison right => by
    rw [holdsIn_mk, Condition.holdsWithin, valueIn_eq_valueWithin ctx tested left,
      valueIn_eq_valueWithin ctx tested right]

theorem valueIn_eq_valueWithin (ctx : Context) (tested : List WorkItem) : (op : Operand) →
    op.valueIn (ctx.withImplicit (ctx.atHand tested)) = op.valueWithin ctx tested
  | .literal _ => by rw [Operand.valueIn, Operand.valueWithin]
  | .field (.mk scope name selector) => by
    rw [Operand.valueIn, Operand.valueWithin,
      itemIn_eq_itemWithin ctx tested (.mk scope name selector)]

theorem itemIn_eq_itemWithin (ctx : Context) (tested : List WorkItem) : (r : Reference) →
    r.itemIn (ctx.withImplicit (ctx.atHand tested)) = r.itemWithin ctx tested
  | .mk .me _ _ | .mk .parent _ _ | .mk .implicit _ _ | .mk .child _ none
  | .mk .children _ none => by rw [Reference.itemIn, Reference.itemWithin]; rfl
  | .mk .child _ (some conditions) | .mk .children _ (some conditions) => by
    -- one selector further in, the child that is tested is the item at hand
    have hinner (child : WorkItem) := allHold_eq_allHoldWithin ctx (child :: tested) conditions
    simp only [Context.atHand] at hinner
    simp only [Reference.itemIn, Reference.itemWithin, Context.withImplicit_withImplicit,
      Context.children_withImplicit, hinner]

theorem allHold_eq_allHoldWithin (ctx : Context) (tested : List WorkItem) :
    (cs : List Condition) →
    allHold (ctx.withImplicit (ctx.atHand tested)) cs = allHoldWithin ctx tested cs
  | [] => by rw [allHold, allHoldWithin]
  | c :: rest => by
    rw [allHold, allHoldWithin, holdsIn_eq_holdsWithin ctx tested c,
      allHold_eq_allHoldWithin ctx tested rest]

end

lemma matchingChildren_eq_findAll (ctx : Context) (conditions : List Condition) :
    matchingChildren ctx (some conditions) =
      findAll (fun child => allHoldWithin ctx [child] conditions) ctx.children := by
  have hinner (child : WorkItem) := allHold_eq_allHoldWithin ctx [child] conditions
  simp only [Context.atHand] at hinner
  simp only [matchingChildren, hinner]

/-! ## Shadowing -/

/-- **A scope shadows the item at hand.**  Whatever the implicit item of a context is:

* a reference with a scope, with a selector of any depth or without one, finds the same item, and
  the operand has the same value;
* a condition between operands that are not without scope is evaluated in the same way;
* every reference has the same targets and every action the same operations.

And conditions inside selectors are evaluated as the lexical evaluation says: a field without scope
belongs to the child that the innermost selector tests, `me` and `parent` are those of the context
outside.  The same holds of the selectors by which an action finds its targets. -/
theorem scopes_shadow_item_at_hand (ctx : Context) :
    (∀ a b : Option WorkItem,
      (∀ r : Reference, r.scope ≠ .implicit →
        r.itemIn (ctx.withImplicit a) = r.itemIn (ctx.withImplicit b) ∧
        (Operand.field r).valueIn (ctx.withImplicit a) =
          (Operand.field r).valueIn (ctx.withImplicit b)) ∧
      (∀ c : Condition, c.left.scope? ≠ some .implicit → c.right.scope? ≠ some .implicit →
        c.holdsIn (ctx.withImplicit a) = c.holdsIn (ctx.withImplicit b)) ∧
      (∀ r : Reference, r.targetsIn (ctx.withImplicit a) = r.targetsIn (ctx.withImplicit b)) ∧
      ∀ action : Action,
        action.execute (ctx.withImplicit a) = action.execute (ctx.withImplicit b)) ∧
    (∀ tested : List WorkItem,
      (∀ c : Condition,
        c.holdsIn (ctx.withImplicit (ctx.atHand tested)) = c.holdsWithin ctx tested) ∧
      ∀ op : Operand,
        op.valueIn (ctx.withImplicit (ctx.atHand tested)) = op.valueWithin ctx tested) ∧
    ∀ conditions : List Condition, matchingChildren ctx (some conditions) =
      findAll (fun child => allHoldWithin ctx [child] conditions) ctx.children := by
  refine ⟨fun a b => ⟨fun r hr => ?_, fun c hleft hright => ?_, fun r => ?_, fun action => ?_⟩,
    fun tested => ⟨holdsIn_eq_holdsWithin ctx tested, valueIn_eq_valueWithin ctx tested⟩,
    matchingChildren_eq_findAll ctx⟩
  · have hop : (Operand.field r).scope? ≠ some .implicit := fun h => hr (Option.some.inj h)
    exact ⟨(itemIn_withImplicit a hr).trans (itemIn_withImplicit b hr).symm,
      (valueIn_withImplicit a hop).trans (valueIn_withImplicit b hop).symm⟩
  · exact (holdsIn_withImplicit a hleft hright).trans (holdsIn_withImplicit b hleft hright).symm
  · exact (targetsIn_withImplicit a r).trans (targetsIn_withImplicit b r).symm
  · exact (execute_withImplicit a action).trans (execute_withImplicit b action).symm

/-- A selector inside a selector, each with a field without scope: the first child whose state is
the title of the first new child.  It is the second child, whatever the item at hand is, even a new
child itself. -/
theorem nested_selector_ignores_item_at_hand :
    let new : WorkItem :=
      ⟨11, "c1", [("System.State", .str "New"), ("System.Title", .str "Done")], []⟩
    let done : WorkItem := ⟨12, "c2", [("System.State", .str "Done")], []⟩
    let trigger : WorkItem := ⟨7, "u7", [("System.State", .str "Done")], []⟩
    let ctx := Context.ofTrigger (some trigger) none [new, done]
    let state := Operand.field (.mk .implicit "State" none)
    let newTitle := Operand.field (.mk .child "Title" (some [.mk state .equal (.literal "New")]))
    let second := Operand.field (.mk .child "id" (some [.mk newTitle .equal state]))
    let c := Condition.mk second .equal (.literal "12")
    (c.holdsIn ctx).result = .ok true ∧
      c.holdsIn (ctx.withImplicit (some new)) = c.holdsIn (ctx.withImplicit none) ∧
      (Operand.field (.mk .child "id" (some [.mk newTitle .equal state]))).valueIn
          (ctx.withImplicit (some new)) =
        (Operand.field (.mk .child "id" (some [.mk newTitle .equal state]))).valueIn
          (ctx.withImplicit none) := by
  intro new done trigger ctx state newTitle second c
  obtain ⟨hvalue, hcondition, -, -⟩ := (scopes_shadow_item_at_hand ctx).1 (some new) none
  exact ⟨by decide +kernel, hcondition c (by decide) (by decide), (hvalue _ (by decide)).2⟩

end Cascade
