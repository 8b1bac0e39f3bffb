import Mathlib.Data.Set.List
import Cascade.Proofs.Engine.Steps
import Cascade.Proofs.Engine.Targets

/-!
# What each action of a run writes

The operations of a run fall into blocks, one for each action of the rule that matched, in order.
`Action.IsBlock` says what a block may hold: operations on targets of its action, in their order,
that replace the field of the action and ask for its options.  Only actions on tags look at what a
target holds; all others have one operation for each target, or none at all.

A run with a result has a triggering item, so all targets are there (`exists_items_of_targetsIn`),
and the block of an action is what it does to one target after another (`isBlock_of_execute`).  The
main result is `operations_are_blocks`.
-/

namespace Cascade

variable {ctx : Context} {a : Action} {items : List WorkItem} {value : Text}
  {ops : List UpdateOperation} {op : UpdateOperation}

/-- Operations that an action may have, its targets being these items. -/
structure Action.IsBlock (ctx : Context) (a : Action) (items : List WorkItem)
    (ops : List UpdateOperation) : Prop where
  targets : (a.target.targetsIn ctx).result = .ok (items.map some)
  /-- The operations are on some of the targets, in their order and each at most once. -/
  urls : (ops.map UpdateOperation.url).Sublist (items.map WorkItem.url)
  place : ∀ op ∈ ops, op.path = fieldPath a.target.name ∧ op.options = a.options
  /-- Setting a field, and adding to one that holds no tags, gives all targets the same value. -/
  replaced : a.kind = .set ∨ a.kind = .add ∧ a.isOnTags = false →
    ∀ value, (a.value.valueIn (ctx.withImplicit ctx.triggering)).result = .ok (some value) →
      ops = items.map fun item => a.replacement item value.text
  /-- An action whose value does not resolve does nothing. -/
  unresolved :
    (∀ value, (a.value.valueIn (ctx.withImplicit ctx.triggering)).result ≠ .ok (some value)) →
      ops = []
  /-- Removing from a field that holds no tags does nothing. -/
  removed : a.kind = .remove → a.isOnTags = false → ops = []

/-! ## One action -/

/-- Doing something to each target, or leaving it out, keeps the order of the targets. -/
lemma sublist_urls_of_operationOn (a : Action) (value : Text) (items : List WorkItem) :
    ((items.flatMap fun item => (a.operationOn value item).toList).map UpdateOperation.url).Sublist
      (items.map WorkItem.url) := by
  induction items with
  | nil => exact List.Sublist.refl _
  | cons item rest ih =>
    rw [List.flatMap_cons, List.map_append, List.map_cons]
    cases hop : a.operationOn value item with
    | none => exact ih.cons _
    | some op =>
      obtain ⟨text, rfl⟩ := exists_replacement_of_operationOn hop
      exact ih.cons_cons _

lemma operationOn_of_replaces (h : a.kind = .set ∨ a.kind = .add ∧ a.isOnTags = false)
    (item : WorkItem) : a.operationOn value item = some (a.replacement item value) := by
  unfold Action.operationOn
  rcases h with hkind | ⟨hkind, htags⟩
  · simp [hkind]
  · simp [hkind, htags]

/-- The targets of a reference are there, as the triggering item is. -/
lemma exists_items_of_targetsIn {r : Reference} {targets : List (Option WorkItem)}
    {trigger : WorkItem} (htrigger : ctx.triggering = some trigger)
    (h : (r.targetsIn ctx).result = .ok targets) :
    ∃ items : List WorkItem, targets = items.map some := by
  have hrange : targets ∈ Set.range (List.map some) := by
    rw [Set.range_list_map]
    intro target hmem
    cases target with
    | none =>
      have habsent := triggering_eq_none_of_mem_targetsIn h hmem
      exact nomatch htrigger.symm.trans habsent
    | some item => exact ⟨item, rfl⟩
  obtain ⟨items, rfl⟩ := hrange
  exact ⟨items, rfl⟩

/-- What an action does to its targets one after another, its value being known, is a block. -/
lemma isBlock_of_operationOn (htargets : (a.target.targetsIn ctx).result = .ok (items.map some))
    {value : Value}
    (hvalue : (a.value.valueIn (ctx.withImplicit ctx.triggering)).result = .ok (some value)) :
    a.IsBlock ctx items (items.flatMap fun item => (a.operationOn value.text item).toList) where
  targets := htargets
  urls := sublist_urls_of_operationOn a value.text items
  place op hop := by
    obtain ⟨item, -, hop⟩ := List.mem_flatMap.mp hop
    obtain ⟨text, rfl⟩ := exists_replacement_of_operationOn (Option.mem_toList.mp hop)
    exact ⟨rfl, rfl⟩
  replaced hreplaces value' h := by
    obtain rfl : value = value' := Option.some.inj (Except.ok.inj (hvalue.symm.trans h))
    simp only [operationOn_of_replaces hreplaces, Option.toList_some]
    exact List.map_eq_flatMap.symm
  unresolved h := absurd hvalue (h value)
  removed hkind htags := by simp [Action.operationOn, hkind, htags]

/-- Without targets, and without a value, there is no operation. -/
lemma isBlock_nil (htargets : (a.target.targetsIn ctx).result = .ok (items.map some))
    (h : items = [] ∨ (a.value.valueIn (ctx.withImplicit ctx.triggering)).result = .ok none) :
    a.IsBlock ctx items [] where
  targets := htargets
  urls := List.nil_sublist _
  place := nofun
  replaced _ value hvalue := by
    rcases h with rfl | hnone
    · rfl
    · cases hnone.symm.trans hvalue
  unresolved _ := rfl
  removed _ _ := rfl

/-- The operations of an action are a block of it. -/
lemma isBlock_of_execute {trigger : WorkItem} (htrigger : ctx.triggering = some trigger)
    (h : (a.execute ctx).result = .ok ops) : ∃ items, a.IsBlock ctx items ops := by
  obtain ⟨targets, htargets, hops⟩ := execute_eq_ok h
  obtain ⟨items, rfl⟩ := exists_items_of_targetsIn htrigger htargets
  refine ⟨items, ?_⟩
  rcases hops with ⟨hempty, rfl⟩ | ⟨value, hvalue, hops⟩
  · exact isBlock_nil htargets (.inl (List.map_eq_nil_iff.mp hempty))
  cases value with
  | none =>
    obtain rfl : ops = [] := hops
    exact isBlock_nil htargets (.inr hvalue)
  | some value =>
    obtain rfl := apply_map_some_eq_ok hops
    exact isBlock_of_operationOn htargets hvalue

/-! ## The main result -/

/-- **Actions write only where they point.**  If a run has a result, then either no rule holds and
there are no operations; or the first rule that holds is named, and its operations are one block for
each of its actions, in order.  Hence all operations are on the triggering item, its parent or its
children. -/
theorem operations_are_blocks {rules : List Rule} {result : RunResult}
    (h : (runRules ctx rules).result = .ok result) :
    ((∀ rule ∈ rules, (rule.holdsIn ctx).result = .ok false) ∧ result = {} ∨
      ∃ before rule after blocks, rules = before ++ rule :: after ∧
        (∀ r ∈ before, (r.holdsIn ctx).result = .ok false) ∧
        (rule.holdsIn ctx).result = .ok true ∧
        result = ⟨some rule.name, List.flatten blocks⟩ ∧
        List.Forall₂ (fun a block => ∃ items, Action.IsBlock ctx a items block) rule.actions
          blocks) ∧
    ∀ op ∈ result.operations, ∃ item ∈ ctx.items, op.url = item.url := by
  refine ⟨?_, fun op hop => (matched_and_url_of_mem_runRules h hop).2⟩
  obtain ⟨item, hitem, hnone | ⟨before, rule, after, ops, hsplit, hbefore, hholds, hops, hresult⟩⟩
    := runRules_eq_ok h
  · exact .inl hnone
  · obtain ⟨blocks, hblocks, rfl⟩ := executeAll_eq_ok hops
    exact .inr ⟨before, rule, after, blocks, hsplit, hbefore, hholds, hresult,
      hblocks.imp fun a block hexecute => isBlock_of_execute hitem hexecute⟩

/-- A rule sets the state of the children that a selector finds, tags those that lack the tag,
removes from a field without tags, and sets the parent to a value that does not resolve: two of the
four blocks have operations, each on two of the three children. -/
theorem blocks_of_four_actions :
    let child (id : Int) (url state tags : String) : WorkItem :=
      ⟨id, url, [("System.State", .str state), ("System.Tags", .str tags)], []⟩
    let trigger : WorkItem := ⟨7, "u7", [("System.Title", .str "Dev")], []⟩
    let children := [child 1 "u1" "New" "a; late", child 2 "u2" "Done" "a", child 3 "u3" "New" ""]
    let ctx := Context.ofTrigger (some trigger) (some ⟨3, "up", [], []⟩) children
    let new : Condition := .mk (.field (.mk .implicit "State" none)) .equal (.literal "New")
    let rule : Rule := ⟨"r", [.mk (.field (.mk .me "Title" none)) .equal (.literal "Dev")],
      [⟨.set, .mk .children "State" (some [new]), .field (.mk .me "Title" none), ⟨some true, none⟩⟩,
        ⟨.add, .mk .children "Tags" none, .literal "late", {}⟩,
        ⟨.remove, .mk .children "Title" none, .literal "late", {}⟩,
        ⟨.set, .mk .parent "State" none, .field (.mk .me "Reason" none), {}⟩]⟩
    let operations : List UpdateOperation :=
      [⟨"u1", ⟨some true, none⟩, "/fields/System.State", "Dev"⟩,
        ⟨"u3", ⟨some true, none⟩, "/fields/System.State", "Dev"⟩,
        ⟨"u2", {}, "/fields/System.Tags", "a; late"⟩, ⟨"u3", {}, "/fields/System.Tags", "late"⟩]
    (runRules ctx [rule]).result = .ok ⟨some "r", operations⟩ ∧
      (∃ blocks, operations = List.flatten blocks ∧
        List.Forall₂ (fun a block => ∃ items, Action.IsBlock ctx a items block) rule.actions
          blocks) ∧
      ∀ op ∈ operations, ∃ item ∈ ctx.items, op.url = item.url := by
  intro child trigger children ctx new rule operations
  have hrun : (runRules ctx [rule]).result = .ok ⟨some "r", operations⟩ := by decide +kernel
  obtain ⟨hblocks, hurls⟩ := operations_are_blocks hrun
  refine ⟨hrun, ?_, hurls⟩
  rcases hblocks with ⟨-, hnone⟩ | ⟨before, rule', after, blocks, hsplit, -, -, hresult, hblocks⟩
  · cases congrArg RunResult.ruleName hnone
  · cases before with
    | nil =>
      obtain ⟨rfl, -⟩ := List.cons.inj hsplit
      exact ⟨blocks, congrArg RunResult.operations hresult, hblocks⟩
    | cons first rest => simp at hsplit

end Cascade
