import Mathlib.Data.List.Nodup
import Cascade.Engine.Run
import Cascade.Proofs.Engine.Targets
import Cascade.Proofs.Update.Tracker
import Cascade.Proofs.WorkItem.Tags

/-!
# What a rule leaves of the tags

All actions of a rule read the tags that an item had when the rule started, and every operation on
tags holds a complete list.  So when several actions change the tags of one item, the operations are
not cumulative: the last one that is written overwrites the others, and
`tags_after_execute` says what it leaves.  Where only one action of the rule reaches the tags of an
item, this is the same as performing the actions in turn; in general it is not
(`tags_lost_of_two_additions`).

The argument is one step for an action (`tags_writeAll_execute`) and an induction over the actions
of the rule (`tags_writeAll_executeAll`).
-/

namespace Cascade

/-- The tags of the item at an address. -/
def Tracker.tags (tracker : Tracker) (url : Text) : List Text :=
  splitTags (((tracker url).get? tagsField).getD .null)

namespace Action

/-- An action that sets another field than the tags, or adds or removes one literal tag. -/
def IsSingleChange (a : Action) : Prop :=
  (a.kind = .set ∧ a.isOnTags = false) ∨
    (a.kind ≠ .set ∧ ∃ tag : String, a.value = .literal tag ∧ IsSingleTag (tag : Text).letters)

/-- Whether an action adds to or removes from the tags of the item at an address. -/
def hitsTags (ctx : Context) (url : Text) (a : Action) : Bool :=
  a.kind ≠ .set && a.isOnTags &&
    match (a.target.targetsIn ctx).result with
    | .ok targets => targets.any fun target => target.map WorkItem.url = some url
    | .error _ => false

/-- Tags after an action on them. -/
def perform (tags : List Text) (a : Action) : List Text :=
  match a.kind, a.value with
  | .add, .literal tag => (addTag? tags tag).getD tags
  | .remove, .literal tag => removeTag tags tag
  | _, _ => tags

/-- Whether an action on tags is written even where it finds these tags: a removal always is, an
addition where the tag is absent. -/
def writesTags (tags : List Text) (a : Action) : Bool :=
  match a.kind, a.value with
  | .add, .literal tag => !tags.contains tag
  | .remove, .literal _ => true
  | _, _ => false

/-- The operation of an action on the tags of an item. -/
def tagOperation (a : Action) (item : WorkItem) : Option UpdateOperation :=
  if a.writesTags item.tags then some (a.replacement item (tagsText (a.perform item.tags)))
  else none

end Action

/-- The actions that reach the tags of an item, in order. -/
def Rule.tagActions (ctx : Context) (item : WorkItem) (rule : Rule) : List Action :=
  rule.actions.filter (·.hitsTags ctx item.url)

/-- The tags of an item after the actions that reach them, each starting from the tags that the
previous one left. -/
def Rule.tagsInTurn (ctx : Context) (item : WorkItem) (rule : Rule) : List Text :=
  (rule.tagActions ctx item).foldl Action.perform item.tags

/-- The tags of an item after the last action that is written for it, starting from the tags that
the item had. -/
def Rule.lastTags (ctx : Context) (item : WorkItem) (rule : Rule) : List Text :=
  match ((rule.tagActions ctx item).filter (·.writesTags item.tags)).getLast? with
  | some a => a.perform item.tags
  | none => item.tags

variable {ctx : Context} {a : Action} {tag : String} {ops : List UpdateOperation}

/-! ## The operations of one action -/

/-- Every operation of an action is on its target field. -/
lemma field_of_mem_execute (h : (a.execute ctx).result = .ok ops) {op : UpdateOperation}
    (hop : op ∈ ops) : op.field = writtenField a.target.name := by
  obtain ⟨item, -, value, rfl⟩ := exists_replacement_of_mem_execute h hop
  exact field_of_fieldPath rfl

/-- On tags, what adding and removing a literal do to a target is `Action.tagOperation`. -/
lemma operationOn_literal (hkind : a.kind ≠ .set) (htags : a.isOnTags = true)
    (hvalue : a.value = .literal tag) : a.operationOn tag = a.tagOperation := by
  funext item
  unfold Action.operationOn Action.tagOperation Action.writesTags Action.perform
  cases hk : a.kind with
  | set => exact absurd hk hkind
  | add =>
    simp only [htags, hvalue, if_true, addTag?]
    cases item.tags.contains tag <;> rfl
  | remove => simp only [htags, hvalue, if_true]

lemma execute_literal_eq_ok (hkind : a.kind ≠ .set) (htags : a.isOnTags = true)
    (hvalue : a.value = .literal tag) (h : (a.execute ctx).result = .ok ops) :
    ∃ items : List WorkItem, (a.target.targetsIn ctx).result = .ok (items.map some) ∧
      ops = items.flatMap fun item => (a.tagOperation item).toList := by
  obtain ⟨targets, htargets, ⟨rfl, rfl⟩ | ⟨value, hread, h⟩⟩ := execute_eq_ok h
  · exact ⟨[], htargets, rfl⟩
  rw [hvalue, Operand.valueIn] at hread
  obtain rfl := Except.ok.inj hread
  rcases apply_eq_ok h with ⟨-, hno, -⟩ | ⟨items, rfl, rfl⟩
  · rw [htags] at hno
    cases hno
  · exact ⟨items, htargets, by rw [← operationOn_literal hkind htags hvalue]; rfl⟩

/-! ## One action -/

variable {item : WorkItem} {tracker : Tracker}

/-- Operations on other fields leave the tags. -/
lemma tags_writeAll_of_field_ne (h : ∀ op ∈ ops, op.field ≠ tagsField) (url : Text) :
    (writeAll tracker ops).tags url = tracker.tags url := by
  rw [Tracker.tags, get?_writeAll_of_ne h, Tracker.tags]

/-- Operations on other items leave the tags. -/
lemma tags_writeAll_of_url_ne {url : Text} (h : ∀ op ∈ ops, op.url ≠ url) :
    (writeAll tracker ops).tags url = tracker.tags url := by
  rw [Tracker.tags, writeAll_of_ne h, Tracker.tags]

/-- Whether an action hits is whether the address is among those of its targets. -/
lemma hitsTags_iff {items : List WorkItem} {url : Text} (hkind : a.kind ≠ .set)
    (htags : a.isOnTags = true) (h : (a.target.targetsIn ctx).result = .ok (items.map some)) :
    a.hitsTags ctx url = true ↔ url ∈ items.map WorkItem.url := by
  simp [Action.hitsTags, hkind, htags, h]

/-- The operation on the tags of an item is on that item. -/
lemma url_of_tagOperation {op : UpdateOperation} (h : a.tagOperation item = some op) :
    op.url = item.url := by
  unfold Action.tagOperation at h
  split at h
  · obtain rfl := Option.some.inj h
    rfl
  · cases h

/-- The tags that one operation on them leaves. -/
lemma tags_writeAll_tagOperation (htags : a.isOnTags = true) (tracker : Tracker) :
    (writeAll tracker (a.tagOperation item).toList).tags item.url =
      if a.writesTags item.tags then splitTags (.str (tagsText (a.perform item.tags)))
      else tracker.tags item.url := by
  unfold Action.tagOperation
  split
  · have hfield : ∀ value, (a.replacement item value).field = tagsField := fun value => by
      have hpath : (a.replacement item value).path = fieldPath a.target.name := rfl
      rw [field_of_fieldPath hpath, Text.ofString_inj, writtenField_eq_tagsField]
      simpa [Action.isOnTags] using htags
    have hurl : ∀ value, (a.replacement item value).url = item.url := fun _ => rfl
    simp only [Option.toList_some, writeAll_cons, writeAll_nil, Tracker.tags]
    rw [← hurl, writeTo_url, hfield, Entries.get?_put_self]
    rfl
  · rfl

/-- One action decides the tags of an item if it reaches them and is written; otherwise it leaves
them. -/
lemma tags_writeAll_execute (hurls : (ctx.items.map WorkItem.url).Nodup) (hitem : item ∈ ctx.items)
    (ha : a.IsSingleChange) (h : (a.execute ctx).result = .ok ops) (tracker : Tracker) :
    (writeAll tracker ops).tags item.url =
      if a.hitsTags ctx item.url && a.writesTags item.tags then
        splitTags (.str (tagsText (a.perform item.tags)))
      else tracker.tags item.url := by
  by_cases htags : a.isOnTags = true
  · obtain ⟨-, hno⟩ | ⟨hkind, tag, hvalue, -⟩ := ha
    · rw [htags] at hno
      cases hno
    obtain ⟨items, htargets, rfl⟩ := execute_literal_eq_ok hkind htags hvalue h
    have hsub := sublist_items_of_targetsIn htargets
    have hothers : ∀ {more : List WorkItem}, item.url ∉ more.map WorkItem.url →
        ∀ op ∈ more.flatMap (fun i => (a.tagOperation i).toList), op.url ≠ item.url := by
      intro more hmore op hop heq
      obtain ⟨i, hi, hop⟩ := List.mem_flatMap.mp hop
      have hurl := url_of_tagOperation (by simpa using hop)
      exact hmore (List.mem_map.mpr ⟨i, hi, hurl.symm.trans heq⟩)
    by_cases hmem : item.url ∈ items.map WorkItem.url
    · -- distinct addresses: the target at this address is the item, and it occurs once
      obtain ⟨i, hi, hurl⟩ := List.mem_map.mp hmem
      obtain rfl := List.inj_on_of_nodup_map hurls (hsub.subset hi) hitem hurl
      have hnodup : (items.map WorkItem.url).Nodup := hurls.sublist (hsub.map _)
      obtain ⟨before, after, rfl⟩ := List.append_of_mem hi
      rw [List.map_append, List.map_cons, List.nodup_append, List.nodup_cons] at hnodup
      obtain ⟨-, ⟨hafter, -⟩, hbefore⟩ := hnodup
      rw [List.flatMap_append, List.flatMap_cons, writeAll_append, writeAll_append,
        tags_writeAll_of_url_ne (hothers hafter), tags_writeAll_tagOperation htags,
        tags_writeAll_of_url_ne (hothers fun hb => hbefore _ hb _ List.mem_cons_self rfl),
        (hitsTags_iff hkind htags htargets).mpr hmem, Bool.true_and]
    · rw [tags_writeAll_of_url_ne (hothers hmem), if_neg]
      rw [Bool.and_eq_true, hitsTags_iff hkind htags htargets]
      exact fun h => hmem h.1
  · have hother : ∀ op ∈ ops, op.field ≠ tagsField := by
      intro op hop
      rw [field_of_mem_execute h hop, Ne, Text.ofString_inj, writtenField_eq_tagsField]
      simpa [Action.isOnTags] using htags
    rw [tags_writeAll_of_field_ne hother, if_neg]
    simp [Action.hitsTags, htags]

/-! ## A whole rule -/

/-- Over the actions of a rule the last one that is written decides. -/
lemma tags_writeAll_executeAll (hurls : (ctx.items.map WorkItem.url).Nodup)
    (hitem : item ∈ ctx.items) {actions : List Action} (hall : ∀ a ∈ actions, a.IsSingleChange)
    (h : (executeAll ctx actions).result = .ok ops) (tracker : Tracker) :
    (writeAll tracker ops).tags item.url =
      match ((actions.filter (·.hitsTags ctx item.url)).filter
        (·.writesTags item.tags)).getLast? with
      | some a => splitTags (.str (tagsText (a.perform item.tags)))
      | none => tracker.tags item.url := by
  induction actions generalizing ops tracker with
  | nil =>
    simp only [executeAll, Logged.result_pure, Except.ok.injEq] at h
    rw [← h]
    rfl
  | cons a rest ih =>
    simp only [executeAll] at h
    obtain ⟨first, hfirst, h⟩ := Logged.result_bind_eq_ok.mp h
    obtain ⟨more, hmore, h⟩ := Logged.result_bind_eq_ok.mp h
    simp only [Logged.result_pure, Except.ok.injEq] at h
    rw [← h, writeAll_append, ih (fun b hb => hall b (List.mem_cons_of_mem a hb)) hmore,
      tags_writeAll_execute hurls hitem (hall a List.mem_cons_self) hfirst]
    rw [List.filter_filter, List.filter_filter, List.filter_cons]
    simp only [Bool.and_comm (Action.hitsTags ctx item.url _)]
    by_cases hwrites : (a.writesTags item.tags && a.hitsTags ctx item.url) = true
    · rw [if_pos hwrites, if_pos hwrites, List.getLast?_cons]
      cases (rest.filter fun a =>
        a.writesTags item.tags && a.hitsTags ctx item.url).getLast? <;> rfl
    · rw [if_neg hwrites, if_neg hwrites]

/-- Single tags stay single when one is added or removed. -/
lemma isSingleTag_of_mem_perform {tag : Text} (ha : a.IsSingleChange)
    (h : tag ∈ a.perform item.tags) : IsSingleTag tag.letters := by
  have hold : tag ∈ item.tags → IsSingleTag tag.letters := WorkItem.isSingleTag_of_mem_tags
  obtain ⟨hkind, -⟩ | ⟨-, new, hvalue, hnew⟩ := ha
  · simp only [Action.perform, hkind] at h
    exact hold h
  · simp only [Action.perform, hvalue] at h
    cases hkind : a.kind with
    | set =>
      rw [hkind] at h
      exact hold h
    | add =>
      rw [hkind] at h
      simp only [addTag?] at h
      split at h
      · exact hold h
      · rw [Option.getD_some, List.mem_append, List.mem_singleton] at h
        rcases h with h | rfl
        · exact hold h
        · exact hnew
    | remove =>
      rw [hkind] at h
      exact hold (List.mem_filter.mp h).1

/-- An action that is not written would change nothing. -/
lemma perform_of_not_writesTags {tags : List Text} (h : a.writesTags tags = false) :
    a.perform tags = tags := by
  unfold Action.perform
  split
  · next hkind hvalue =>
    simp only [Action.writesTags, hkind, hvalue, Bool.not_eq_false'] at h
    rw [addTag?, if_pos h, Option.getD_none]
  · next hkind hvalue =>
    simp [Action.writesTags, hkind, hvalue] at h
  · rfl

/-- The operations of a rule leave the tags of the last action that is written. -/
lemma nonEmptyTags_writeAll_execute (hurls : (ctx.items.map WorkItem.url).Nodup)
    (hitem : item ∈ ctx.items) {rule : Rule} (hrule : ∀ a ∈ rule.actions, a.IsSingleChange)
    (h : (rule.execute ctx).result = .ok ops) (htracker : tracker item.url = item.fields) :
    nonEmptyTags ((writeAll tracker ops).tags item.url) =
      nonEmptyTags (rule.lastTags ctx item) := by
  rw [tags_writeAll_executeAll hurls hitem hrule h, Rule.lastTags, Rule.tagActions]
  cases hlast : ((rule.actions.filter (·.hitsTags ctx item.url)).filter
      (·.writesTags item.tags)).getLast? with
  | some a =>
    have ha : a ∈ rule.actions :=
      (List.mem_filter.mp (List.mem_filter.mp (List.mem_of_getLast? hlast)).1).1
    exact nonEmptyTags_splitTags_tagsText fun tag htag =>
      isSingleTag_of_mem_perform (hrule a ha) htag
  | none => rw [Tracker.tags, htracker, WorkItem.tags_eq]

/-- With one action at most, performing all in turn is performing the last one that is written. -/
lemma lastTags_eq_tagsInTurn {rule : Rule} (h : (rule.tagActions ctx item).length ≤ 1) :
    rule.lastTags ctx item = rule.tagsInTurn ctx item := by
  rw [Rule.lastTags, Rule.tagsInTurn]
  match rule.tagActions ctx item, h with
  | [], _ => rfl
  | [a], _ =>
    by_cases hwrites : a.writesTags item.tags = true
    · simp [hwrites]
    · -- an action that is not written would change nothing anyway
      simp [hwrites, perform_of_not_writesTags (by simpa using hwrites)]

/-- **What a rule leaves of the tags of an item.**  Let a rule set other fields only and add or
remove single literal tags, and let the items of the hierarchy have distinct addresses.  After the
operations of the rule have been written in order, the tags of every item are, up to empty ones,
those of the last action that is written for it, performed on the tags that the item had.  If at
most one action of the rule reaches the tags of the item, these are the tags of performing the
actions in turn. -/
theorem tags_after_execute {rule : Rule} {triggering : WorkItem} {parent : Option WorkItem}
    {children : List WorkItem} {ops : List UpdateOperation} {tracker : Tracker}
    (hrule : ∀ a ∈ rule.actions, a.IsSingleChange)
    (hurls : ((Context.ofTrigger (some triggering) parent children).items.map
      WorkItem.url).Nodup)
    (h : (rule.execute (Context.ofTrigger (some triggering) parent children)).result = .ok ops)
    (htracker : ∀ item ∈ (Context.ofTrigger (some triggering) parent children).items,
      tracker item.url = item.fields) :
    let ctx := Context.ofTrigger (some triggering) parent children
    ∀ item ∈ ctx.items,
      nonEmptyTags ((writeAll tracker ops).tags item.url) =
          nonEmptyTags (rule.lastTags ctx item) ∧
        ((rule.tagActions ctx item).length ≤ 1 →
          nonEmptyTags ((writeAll tracker ops).tags item.url) =
            nonEmptyTags (rule.tagsInTurn ctx item)) := by
  intro ctx item hitem
  have hlast := nonEmptyTags_writeAll_execute hurls hitem hrule h (htracker item hitem)
  exact ⟨hlast, fun hone => hlast.trans (congrArg nonEmptyTags (lastTags_eq_tagsInTurn hone))⟩

/-! ## Two actions on one item -/

/-- An action that adds a tag to an item, or removes one from it. -/
def changeTag (kind : ActionKind) (scope : Scope) (tag : String) : Action :=
  ⟨kind, .mk scope "Tags" none, .literal tag, {}⟩

lemma isSingleChange_changeTag {kind : ActionKind} {scope : Scope} (hkind : kind ≠ .set)
    (htag : Text.isInfix tagSeparator (tag : Text).letters = false) :
    (changeTag kind scope tag).IsSingleChange := by
  refine .inr ⟨hkind, tag, rfl, ?_⟩
  rw [IsSingleTag, ← Text.isInfix_iff, htag]
  exact Bool.false_ne_true

/-- An item with the tags `A` and `B` from which one is removed and to which one is added.  The
addition is written last, to the tags that the item had, and the removal is lost; the parent is
reached by one action only. -/
theorem tags_after_removal_and_addition :
    let item : WorkItem := ⟨7, "u7", [("System.Tags", .str "A; B")], []⟩
    let parent : WorkItem := ⟨3, "u3", [], []⟩
    let rule : Rule := ⟨"r", [], [changeTag .remove .me "A", changeTag .add .implicit "C",
      changeTag .add .parent "D"]⟩
    let tracker : Tracker := fun url => if url = ("u7" : Text) then item.fields else []
    let ops : List UpdateOperation := [⟨"u7", {}, "/fields/System.Tags", "B"⟩,
      ⟨"u7", {}, "/fields/System.Tags", "A; B; C"⟩, ⟨"u3", {}, "/fields/System.Tags", "D"⟩]
    (rule.execute (Context.ofTrigger (some item) (some parent) [])).result = .ok ops ∧
      nonEmptyTags ((writeAll tracker ops).tags "u7") = (["A", "B", "C"] : List Text) ∧
      nonEmptyTags ((writeAll tracker ops).tags "u3") = [("D" : Text)] := by
  intro item parent rule tracker ops
  have hrule : ∀ a ∈ rule.actions, a.IsSingleChange := by
    simp only [rule, List.forall_mem_cons, List.not_mem_nil, false_imp_iff, implies_true, and_true]
    refine ⟨?_, ?_, ?_⟩ <;> exact isSingleChange_changeTag (by decide) (by decide)
  have hitems : ∀ i ∈ (Context.ofTrigger (some item) (some parent) []).items,
      tracker i.url = i.fields := by
    simp [Context.items, Context.ofTrigger, item, parent, tracker]
  have hops : (rule.execute (Context.ofTrigger (some item) (some parent) [])).result = .ok ops := by
    decide +kernel
  have hafter := tags_after_execute hrule (by decide) hops hitems
  refine ⟨hops, ?_, ?_⟩
  · exact (hafter item (by simp [Context.items, Context.ofTrigger])).1.trans (by decide +kernel)
  · exact ((hafter parent (by simp [Context.items, Context.ofTrigger])).2
      (by decide +kernel)).trans (by decide +kernel)

/-- Two additions to the tags of one item: performing them in turn gives both tags, but of the two
operations only the second one's list is left. -/
theorem tags_lost_of_two_additions :
    let item : WorkItem := ⟨7, "u7", [], []⟩
    let ctx := Context.ofTrigger (some item) none []
    let rule : Rule := ⟨"r", [], [changeTag .add .me "A", changeTag .add .me "B"]⟩
    let tracker : Tracker := fun _ => []
    (∀ a ∈ rule.actions, a.IsSingleChange) ∧ (ctx.items.map WorkItem.url).Nodup ∧
      (∀ i ∈ ctx.items, tracker i.url = i.fields) ∧
      ∃ ops, (rule.execute ctx).result = .ok ops ∧
        nonEmptyTags (rule.tagsInTurn ctx item) = (["A", "B"] : List Text) ∧
        nonEmptyTags ((writeAll tracker ops).tags item.url) = [("B" : Text)] := by
  intro item ctx rule tracker
  refine ⟨?_, by decide, by simp [ctx, tracker, item, Context.items, Context.ofTrigger], ?_⟩
  · simp only [rule, List.forall_mem_cons, List.not_mem_nil, false_imp_iff, implies_true, and_true]
    constructor <;> exact isSingleChange_changeTag (by decide) (by decide)
  · exact ⟨[⟨"u7", {}, "/fields/System.Tags", "A"⟩, ⟨"u7", {}, "/fields/System.Tags", "B"⟩],
      by decide +kernel, by decide +kernel, by decide +kernel⟩

end Cascade
