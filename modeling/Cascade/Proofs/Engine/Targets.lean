import Mathlib.Data.List.Forall2
import Cascade.Proofs.Engine.FirstMatch
import Cascade.Proofs.Engine.Selection

/-!
# The targets of actions

Actions reach the items of the context and no others.  `sublist_items_of_targetsIn` says this for
the targets of a reference, together with their order and with how often they occur: the targets are
some of the items, in the order of the context.

What an action does to one target, its value being known, is `Action.operationOn`.  `apply_eq_ok`
says that an action has these operations and no others, `execute_eq_ok` when it comes to that, and
`executeAll_eq_ok` cuts what several actions have into the parts of each.  So what a run writes it
writes to items of the context, and only after a rule has matched
(`matched_and_url_of_mem_runRules`).
-/

namespace Cascade

/-- The items of a context: the triggering item, its parent and the children. -/
def Context.items (ctx : Context) : List WorkItem :=
  ctx.triggering.toList ++ ctx.parent.toList ++ ctx.children

variable {ctx : Context}

/-! ## Targets of a reference -/

/-- The child that a reference reads from is one of the children. -/
lemma mem_children_of_itemIn {name : String} {selector : Option (List Condition)}
    {item : WorkItem}
    (h : ((Reference.mk .child name selector).itemIn ctx).result = .ok (some item)) :
    item ∈ ctx.children := by
  cases selector with
  | none =>
    simp only [Reference.itemIn, Logged.result_pure, Except.ok.injEq] at h
    exact List.mem_of_mem_head? h
  | some conditions =>
    rw [Reference.itemIn] at h
    exact mem_of_findFirst h

lemma sublist_of_matchingChildren {selector : Option (List Condition)} {found : List WorkItem}
    (h : (matchingChildren ctx selector).result = .ok found) : found.Sublist ctx.children := by
  obtain ⟨-, rfl⟩ := matchingChildren_eq_ok_iff.mp h
  exact List.filter_sublist

/-- The targets of a reference, if all are there, are some of the items in the context's order. -/
lemma sublist_items_of_targetsIn {r : Reference} {items : List WorkItem}
    (h : (r.targetsIn ctx).result = .ok (items.map some)) : items.Sublist ctx.items := by
  obtain ⟨scope, name, selector⟩ := r
  have hinj {found : List WorkItem} (h : found.map some = items.map some) : found = items :=
    (List.map_inj_right fun _ _ => Option.some.inj).mp h
  have htrigger : [ctx.triggering] = items.map some → items.Sublist ctx.items := by
    intro h
    obtain ⟨t, rfl, ht⟩ := List.map_eq_singleton_iff.mp h.symm
    rw [Context.items, ← ht]
    simp
  have hchildren : items.Sublist ctx.children → items.Sublist ctx.items := fun hsub =>
    hsub.trans (List.sublist_append_right _ _)
  unfold Reference.targetsIn at h
  cases scope with
  | implicit => exact htrigger (by simpa [Reference.scope] using h)
  | me => exact htrigger (by simpa [Reference.scope] using h)
  | parent =>
    simp only [Reference.scope, Logged.result_pure, Except.ok.injEq] at h
    rw [← hinj h, Context.items]
    exact (List.sublist_append_right _ _).trans (List.sublist_append_left _ _)
  | child =>
    obtain ⟨item, hitem, h⟩ := Logged.result_bind_eq_ok.mp h
    simp only [Logged.result_pure, Except.ok.injEq] at h
    rw [← hinj h] at hchildren ⊢
    refine hchildren ?_
    cases item with
    | none => simp
    | some item =>
      simp only [Option.toList_some, List.singleton_sublist]
      exact mem_children_of_itemIn hitem
  | children =>
    obtain ⟨found, hfound, h⟩ := Logged.result_bind_eq_ok.mp h
    simp only [Logged.result_pure, Except.ok.injEq] at h
    rw [← hinj h] at hchildren ⊢
    exact hchildren (sublist_of_matchingChildren hfound)

/-! ## Operations on targets -/

/-- When operations come of targets, all targets are there, and the operations are those on one
target after another. -/
lemma onTargets_eq_ok {part : ItemPart} {operation : WorkItem → Option UpdateOperation}
    {targets : List (Option WorkItem)} {ops : List UpdateOperation}
    (h : (onTargets part operation targets).result = .ok ops) :
    ∃ items : List WorkItem, targets = items.map some ∧
      ops = items.flatMap fun item => (operation item).toList := by
  induction targets generalizing ops with
  | nil =>
    simp only [onTargets, Logged.result_pure, Except.ok.injEq] at h
    exact ⟨[], rfl, h.symm⟩
  | cons target rest ih =>
    simp only [onTargets] at h
    obtain ⟨item, hitem, h⟩ := Logged.result_bind_eq_ok.mp h
    obtain ⟨more, hmore, h⟩ := Logged.result_bind_eq_ok.mp h
    simp only [Logged.result_pure, Except.ok.injEq] at h
    obtain ⟨items, rfl, rfl⟩ := ih hmore
    cases target with
    | none => simp [presentItem] at hitem
    | some target =>
      obtain rfl : target = item := by simpa [presentItem] using hitem
      exact ⟨target :: items, rfl, by rw [← h, List.flatMap_cons]⟩

/-- Targets that are there have the operations on one after another. -/
lemma onTargets_map_some (part : ItemPart) (operation : WorkItem → Option UpdateOperation)
    (items : List WorkItem) : onTargets part operation (items.map some) =
      pure (items.flatMap fun item => (operation item).toList) := by
  induction items with
  | nil => rfl
  | cons item rest ih =>
    rw [List.map_cons, onTargets, ih, List.flatMap_cons]
    rfl

/-! ## Operations of an action -/

section

variable {a : Action} {targets : List (Option WorkItem)} {items : List WorkItem} {item : WorkItem}
  {value : Text} {op : UpdateOperation} {ops : List UpdateOperation}

/-- What an action does to a target, its value being known. -/
def Action.operationOn (a : Action) (value : Text) (item : WorkItem) : Option UpdateOperation :=
  match a.kind with
  | .set => some (a.replacement item value)
  | .add =>
    if a.isOnTags then (addTag? item.tags value).map fun tags => a.replacement item (tagsText tags)
    else some (a.replacement item value)
  | .remove =>
    if a.isOnTags then some (a.replacement item (tagsText (removeTag item.tags value))) else none

/-- Whatever an action does to a target is a replacement of its field. -/
lemma exists_replacement_of_operationOn (h : a.operationOn value item = some op) :
    ∃ text, op = a.replacement item text := by
  unfold Action.operationOn at h
  split at h
  · exact ⟨_, (Option.some.inj h).symm⟩
  · split at h
    · obtain ⟨tags, -, rfl⟩ := Option.map_eq_some_iff.mp h
      exact ⟨_, rfl⟩
    · exact ⟨_, (Option.some.inj h).symm⟩
  · split at h
    · exact ⟨_, (Option.some.inj h).symm⟩
    · cases h

/-- Outside the tags a removal does nothing, even to targets that are not there; in all other cases
the targets are there, and the operations are those on one after another. -/
lemma apply_eq_ok (h : (a.apply targets value).result = .ok ops) :
    (a.kind = .remove ∧ a.isOnTags = false ∧ ops = []) ∨
      ∃ items : List WorkItem, targets = items.map some ∧
        ops = items.flatMap fun item => (a.operationOn value item).toList := by
  simp only [Action.apply] at h
  unfold Action.operationOn
  cases hkind : a.kind with
  | set =>
    rw [hkind] at h
    exact .inr (onTargets_eq_ok h)
  | add =>
    simp only [hkind] at h
    split at h
    · next htags =>
      simp only [if_pos htags]
      exact .inr (onTargets_eq_ok h)
    · next htags =>
      simp only [if_neg htags]
      exact .inr (onTargets_eq_ok h)
  | remove =>
    simp only [hkind] at h
    split at h
    · next htags =>
      simp only [if_pos htags]
      exact .inr (onTargets_eq_ok h)
    · next htags =>
      obtain ⟨⟨⟩, -, h⟩ := Logged.result_bind_eq_ok.mp h
      exact .inl ⟨rfl, Bool.not_eq_true _ |>.mp htags, (Except.ok.inj h).symm⟩

/-- On targets that are there the operations are those on one after another. -/
lemma apply_map_some_eq_ok (h : (a.apply (items.map some) value).result = .ok ops) :
    ops = items.flatMap fun item => (a.operationOn value item).toList := by
  rcases apply_eq_ok h with ⟨hkind, htags, rfl⟩ | ⟨items', hitems, rfl⟩
  · have hnone : ∀ item, a.operationOn value item = none := fun item => by
      simp [Action.operationOn, hkind, htags]
    simp [hnone]
  · rw [(List.map_inj_right fun _ _ => Option.some.inj).mp hitems]

/-- An action on tags has its operations on targets that are there. -/
lemma apply_map_some (h : a.isOnTags = true) : a.apply (items.map some) value =
    pure (items.flatMap fun item => (a.operationOn value item).toList) := by
  unfold Action.apply Action.operationOn
  cases a.kind with
  | set => exact onTargets_map_some _ _ _
  | add | remove =>
    simp only [if_pos h]
    exact onTargets_map_some _ _ _

/-- An action does nothing without a target, and nothing without a value. -/
lemma execute_eq_ok (h : (a.execute ctx).result = .ok ops) :
    ∃ targets, (a.target.targetsIn ctx).result = .ok targets ∧
      (targets = [] ∧ ops = [] ∨
        ∃ value, (a.value.valueIn (ctx.withImplicit ctx.triggering)).result = .ok value ∧
          match value with
          | none => ops = []
          | some value => (a.apply targets value.text).result = .ok ops) := by
  obtain ⟨targets, htargets, h⟩ := Logged.result_bind_eq_ok.mp h
  refine ⟨targets, htargets, ?_⟩
  split at h
  · next hempty => exact .inl ⟨List.isEmpty_iff.mp hempty, (Except.ok.inj h).symm⟩
  · obtain ⟨value, hvalue, h⟩ := Logged.result_bind_eq_ok.mp h
    refine .inr ⟨value, hvalue, ?_⟩
    cases value with
    | none => exact (Except.ok.inj h).symm
    | some value => exact h

/-- Every operation of an action is the replacement of its field on one of the items. -/
lemma exists_replacement_of_mem_execute (h : (a.execute ctx).result = .ok ops) (hop : op ∈ ops) :
    ∃ item ∈ ctx.items, ∃ value, op = a.replacement item value := by
  obtain ⟨targets, htargets, ⟨-, rfl⟩ | ⟨value, -, h⟩⟩ := execute_eq_ok h
  · cases hop
  cases value with
  | none =>
    obtain rfl : ops = [] := h
    cases hop
  | some value =>
    rcases apply_eq_ok h with ⟨-, -, rfl⟩ | ⟨items, rfl, rfl⟩
    · cases hop
    · obtain ⟨item, hitem, hop⟩ := List.mem_flatMap.mp hop
      exact ⟨item, (sublist_items_of_targetsIn htargets).subset hitem,
        exists_replacement_of_operationOn (Option.mem_toList.mp hop)⟩

end

/-! ## Operations of rules and runs -/

/-- The operations of actions are those of one after another. -/
lemma executeAll_eq_ok {actions : List Action} {ops : List UpdateOperation}
    (h : (executeAll ctx actions).result = .ok ops) :
    ∃ blocks, List.Forall₂ (fun a block => (a.execute ctx).result = .ok block) actions blocks ∧
      ops = blocks.flatten := by
  induction actions generalizing ops with
  | nil => exact ⟨[], .nil, (Except.ok.inj h).symm⟩
  | cons a rest ih =>
    obtain ⟨first, hfirst, h⟩ := Logged.result_bind_eq_ok.mp h
    obtain ⟨more, hmore, h⟩ := Logged.result_bind_eq_ok.mp h
    obtain ⟨blocks, hblocks, rfl⟩ := ih hmore
    exact ⟨first :: blocks, .cons hfirst hblocks, (Except.ok.inj h).symm⟩

/-- Every operation of actions is on one of the items. -/
lemma exists_url_of_mem_executeAll {actions : List Action} {ops : List UpdateOperation}
    {op : UpdateOperation} (h : (executeAll ctx actions).result = .ok ops) (hop : op ∈ ops) :
    ∃ item ∈ ctx.items, op.url = item.url := by
  obtain ⟨blocks, hblocks, rfl⟩ := executeAll_eq_ok h
  clear h
  induction hblocks with
  | nil => cases hop
  | cons hexecute _ ih =>
    rcases List.mem_append.mp hop with hop | hop
    · obtain ⟨item, hitem, value, rfl⟩ := exists_replacement_of_mem_execute hexecute hop
      exact ⟨item, hitem, rfl⟩
    · exact ih hop

/-- A run has operations only if some rule was executed, and they are on items of the context. -/
lemma matched_and_url_of_mem_runRules {rules : List Rule} {result : RunResult}
    {op : UpdateOperation} (h : (runRules ctx rules).result = .ok result)
    (hop : op ∈ result.operations) :
    result.matched = true ∧ ∃ item ∈ ctx.items, op.url = item.url := by
  obtain ⟨-, -, ⟨-, rfl⟩ | ⟨before, rule, after, ops, -, -, -, hops, rfl⟩⟩ := runRules_eq_ok h
  · cases hop
  · exact ⟨rfl, exists_url_of_mem_executeAll hops hop⟩

end Cascade
