import Cascade.Proofs.Engine.Selection
import Cascade.Proofs.Rule.Selectors

/-!
# What a written selector tests

A child that a reference with a selector leads to, to be read from or to be written to, has met
every condition of the selector (`isMetBy_of_reaches`).  What the conditions are is a matter of
reading: they are the pieces between the parentheses that have the form of a condition.  So there is
something to be met unless none of the pieces has this form, and that strict reading does not allow.

Lenient reading drops the other pieces, be it all of them.  A selector that is left without
conditions tests nothing, and the reference leads to the same children as without selector
(`eq_unselective`). The main result is `selector_tests_written_conditions`.
-/

namespace Cascade

variable {ctx : Context} {r : Reference} {child : WorkItem} {conditions : List Condition}

/-- A reference leads to an item: the item is read from or is among those written to. -/
def Reference.Reaches (ctx : Context) (r : Reference) (item : WorkItem) : Prop :=
  (r.itemIn ctx).result = .ok (some item) ∨
    ∃ targets, (r.targetsIn ctx).result = .ok targets ∧ some item ∈ targets

/-- A reference without its selector. -/
def Reference.unselective (r : Reference) : Reference := .mk r.scope r.name none

/-! ## Children that have been reached -/

lemma isMetBy_of_matchingChild
    (h : (matchingChild ctx (some conditions)).result = .ok (some child)) :
    ∀ c ∈ conditions, c.IsMetBy ctx child := by
  have hpasses := passes_of_findFirst h
  exact allHold_eq_true_iff.mp hpasses

lemma isMetBy_of_matchingChildren {found : List WorkItem}
    (h : (matchingChildren ctx (some conditions)).result = .ok found) (hchild : child ∈ found) :
    ∀ c ∈ conditions, c.IsMetBy ctx child := by
  obtain ⟨-, rfl⟩ := matchingChildren_eq_ok_iff.mp h
  simpa using (List.mem_filter.mp hchild).2

/-- A child that is reached through a selector has met its conditions. -/
lemma isMetBy_of_reaches (hscope : r.scope = .child ∨ r.scope = .children)
    (hs : r.selector = some conditions) (h : r.Reaches ctx child) :
    ∀ c ∈ conditions, c.IsMetBy ctx child := by
  obtain ⟨scope, name, selector⟩ := r
  obtain rfl : selector = some conditions := hs
  rcases h with hitem | ⟨targets, htargets, hmem⟩
  · rw [itemIn_mk] at hitem
    rcases hscope with rfl | rfl <;> exact isMetBy_of_matchingChild hitem
  · rw [targetsIn_mk] at htargets
    rcases hscope with rfl | rfl
    · obtain ⟨item, hitem, htargets⟩ := Logged.result_bind_eq_ok.mp htargets
      obtain rfl := Except.ok.inj htargets
      obtain rfl : item = some child := by simpa using hmem
      exact isMetBy_of_matchingChild hitem
    · obtain ⟨found, hfound, htargets⟩ := Logged.result_bind_eq_ok.mp htargets
      obtain rfl := Except.ok.inj htargets
      exact isMetBy_of_matchingChildren hfound (by simpa using hmem)

/-! ## Selectors without conditions -/

lemma matchingChild_of_no_conditions : matchingChild ctx (some []) = matchingChild ctx none := by
  rw [matchingChild, matchingChild]
  cases ctx.children with
  | nil => rfl
  | cons first rest => simp [findFirst, allHold]

lemma matchingChildren_of_no_conditions :
    matchingChildren ctx (some []) = matchingChildren ctx none := by
  rw [matchingChildren, matchingChildren]
  induction ctx.children with
  | nil => rfl
  | cons first rest ih =>
    rw [findAll, ih]
    simp [allHold]

/-- A selector without conditions is like none. -/
lemma eq_unselective (hs : r.selector = some []) :
    r.itemIn ctx = r.unselective.itemIn ctx ∧ r.targetsIn ctx = r.unselective.targetsIn ctx := by
  obtain ⟨scope, name, selector⟩ := r
  obtain rfl : selector = some [] := hs
  rw [Reference.unselective, itemIn_mk, itemIn_mk, targetsIn_mk, targetsIn_mk,
    matchingChild_of_no_conditions, matchingChildren_of_no_conditions]
  exact ⟨rfl, rfl⟩

/-! ## Selectors of rules -/

/-- **A selector tests the conditions that are written.**  In either mode, let a rule that is read
from a text have a reference with a selector, at any depth of selectors.

* The selector stands in the text behind the scope, and its conditions are the pieces between the
  parentheses that have the form of a condition, in order.  So there are none just if no piece has
  this form; and in strict mode there are some.
* A child that the reference leads to has met all conditions of the selector.
* If there are none, the reference leads where it would without selector. -/
theorem selector_tests_written_conditions {strict : Bool} {text : String} {rules : List Rule}
    (h : (readRules strict text).result = .ok rules) {rule : Rule} (hrule : rule ∈ rules)
    {r : Reference} (hr : .field r ∈ rule.operands) {conditions : List Condition}
    (hs : r.selector = some conditions) :
    (strict = true → conditions ≠ []) ∧
      (∃ written inner, OperandText text written ∧ r.IsWrittenAs strict conditions written inner ∧
        (conditions = [] ↔ ∀ piece ∈ splitConditions inner, hasConditionForm piece = false)) ∧
      (∀ ctx child, r.Reaches ctx child → ∀ c ∈ conditions, c.IsMetBy ctx child) ∧
      (conditions = [] → ∀ ctx,
        r.itemIn ctx = r.unselective.itemIn ctx ∧
          r.targetsIn ctx = r.unselective.targetsIn ctx) := by
  obtain ⟨hscope, hne, written, inner, hin, hwritten⟩ :=
    selectorIn_of_mem_readRules h hrule _ hr conditions hs
  refine ⟨hne, ⟨written, inner, hin, hwritten, hwritten.keeps.eq_nil_iff⟩,
    fun ctx child => isMetBy_of_reaches hscope hs, fun hnil ctx => ?_⟩
  subst hnil
  exact eq_unselective hs

/-- Lenient reading drops one of two pieces of a selector.  The one that is kept singles out the new
one of two children. -/
theorem kept_condition_tested :
    let text := "rule \"start\": when me.State is \"Active\" " ++
      "then set children(State is \"New\" and urgent).State = \"Active\""
    let new : Condition := .mk (.field (.mk .implicit "State" none)) .equal (.literal "New")
    let target : Reference := .mk .children "State" (some [new])
    let rule : Rule := ⟨"start", [.mk (.field (.mk .me "State" none)) .equal (.literal "Active")],
      [⟨.set, target, .literal "Active", {}⟩]⟩
    let child (id : Int) (url state : String) : WorkItem :=
      ⟨id, url, [("System.State", .str state)], []⟩
    let ctx := Context.ofTrigger none none [child 1 "c1" "Done", child 2 "c2" "New"]
    (readRules false text).result = .ok [rule] ∧ target.Reaches ctx (child 2 "c2" "New") ∧
      (∃ written inner, OperandText text written ∧ target.IsWrittenAs false [new] written inner) ∧
      new.IsMetBy ctx (child 2 "c2" "New") := by
  intro text new target rule child ctx
  have hread : (readRules false text).result = .ok [rule] := by decide +kernel
  have hmem : .field target ∈ rule.operands := by decide +kernel
  have hreaches : target.Reaches ctx (child 2 "c2" "New") :=
    .inr ⟨[some (child 2 "c2" "New")], by rfl, List.mem_cons_self⟩
  obtain ⟨-, ⟨written, inner, hin, hwritten, -⟩, hmet, -⟩ :=
    selector_tests_written_conditions hread List.mem_cons_self hmem rfl
  exact ⟨hread, hreaches, ⟨written, inner, hin, hwritten⟩,
    hmet ctx _ hreaches new List.mem_cons_self⟩

/-- Lenient reading drops all that a selector says, and the action that was written for some
children is carried out on every child. -/
theorem emptied_selector_reaches_every_child :
    let text :=
      "rule \"close\": when me.State is \"Done\" then set children(Title).State = \"Done\""
    let target : Reference := .mk .children "State" (some [])
    let action : Action := ⟨.set, target, .literal "Done", {}⟩
    let rule : Rule :=
      ⟨"close", [.mk (.field (.mk .me "State" none)) .equal (.literal "Done")], [action]⟩
    let child (id : Int) (url : String) : WorkItem := ⟨id, url, [("System.State", .str "New")], []⟩
    let ctx := Context.ofTrigger none none [child 1 "c1", child 2 "c2"]
    (readRules false text).result = .ok [rule] ∧ .field target ∈ rule.operands ∧
      target.selector = some [] ∧
      (target.targetsIn ctx).result = .ok (ctx.children.map some) ∧
      (action.execute ctx).result =
        .ok (ctx.children.map fun item => action.replacement item "Done") := by
  intro text target action rule child ctx
  refine ⟨by decide +kernel, by decide +kernel, rfl, rfl, by decide +kernel⟩

end Cascade
