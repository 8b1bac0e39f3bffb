import Cascade.Proofs.Engine.Targets
import Cascade.Proofs.WorkItem.Tags

/-!
# Adding and removing a tag

The tags of an item are stored as one text, so an action on tags reads the text, changes the list
and writes a new text.  This file says that the detour does not show: what is read from the written
text is the old list with the tag at its end, or without the tag.

For adding this holds exactly (`splitTags_added`), since a tag to be added is not empty and so
leaves a text that can be told from that of no tags.  A removal may leave one empty tag alone, which
is read as none, so there it holds up to empty tags (`nonEmptyTags_removed`); the written text is
the same again nonetheless (`tagsText_removed_again`).

The main result `tags_are_changed_as_lists` says it of actions, whatever their targets are, and
concludes that neither action does anything new when it is repeated, and that they undo each other.
-/

namespace Cascade

variable {tag : Text} {tags : List Text} {v : Value}

/-! ## Lists of tags -/

lemma addTag?_of_mem (h : tag ∈ tags) : addTag? tags tag = none := by simp [addTag?, h]

lemma addTag?_of_not_mem (h : tag ∉ tags) : addTag? tags tag = some (tags ++ [tag]) := by
  simp [addTag?, h]

/-- A tag that was not there before is removed without a trace. -/
lemma removeTag_append_self (h : tag ∉ tags) : removeTag (tags ++ [tag]) tag = tags := by
  have hkept : tags.filter (· != tag) = tags :=
    List.filter_eq_self.mpr fun t ht => bne_iff_ne.mpr fun heq => h (heq ▸ ht)
  simp [removeTag, hkept]

lemma removeTag_removeTag (tags : List Text) (tag : Text) :
    removeTag (removeTag tags tag) tag = removeTag tags tag := by
  simp [removeTag]

/-- What stays of the tags of a value is single. -/
lemma isSingleTag_of_mem_removeTag {t : Text} (h : t ∈ removeTag (splitTags v) tag) :
    IsSingleTag t.letters :=
  isSingleTag_of_mem_splitTags (List.mem_filter.mp h).1

/-! ## Written and read again -/

/-- The tags of a value, written to a field, are read as they were. -/
lemma splitTags_tagsText_splitTags (v : Value) :
    splitTags (.str (tagsText (splitTags v))) = splitTags v :=
  splitTags_tagsText (splitTags_ne_empty_tag v) fun _ => isSingleTag_of_mem_splitTags

/-- With one tag more, too, if the tag is single and not empty. -/
lemma splitTags_added (hne : tag ≠ ∅) (hsingle : IsSingleTag tag.letters) (v : Value) :
    splitTags (.str (tagsText (splitTags v ++ [tag]))) = splitTags v ++ [tag] := by
  refine splitTags_tagsText (fun h => ?_) fun t ht => ?_
  · have hlast : tag = ∅ := by simpa using congrArg List.getLast? h
    exact hne hlast
  · rcases List.mem_append.mp ht with ht | ht
    · exact isSingleTag_of_mem_splitTags ht
    · obtain rfl := List.mem_singleton.mp ht
      exact hsingle

/-- With a tag removed, up to empty tags. -/
lemma nonEmptyTags_removed (v : Value) (tag : Text) :
    nonEmptyTags (splitTags (.str (tagsText (removeTag (splitTags v) tag)))) =
      (nonEmptyTags (splitTags v)).filter (· ≠ tag) := by
  rw [nonEmptyTags_splitTags_tagsText fun _ => isSingleTag_of_mem_removeTag, nonEmptyTags,
    nonEmptyTags, removeTag, List.filter_filter, List.filter_filter]
  exact List.filter_congr fun t _ => by grind

/-- Removing a tag again writes the same text. -/
lemma tagsText_removed_again (v : Value) (tag : Text) :
    tagsText (removeTag (splitTags (.str (tagsText (removeTag (splitTags v) tag)))) tag) =
      tagsText (removeTag (splitTags v) tag) := by
  by_cases hempty : removeTag (splitTags v) tag = [∅]
  · rw [hempty]
    rfl
  · rw [splitTags_tagsText hempty fun _ => isSingleTag_of_mem_removeTag, removeTag_removeTag]

/-! ## Actions on tags -/

/-- What the field of tags of an item holds; null if it is not set. -/
def WorkItem.tagsValue (item : WorkItem) : Value := (item.fields.get? tagsField).getD .null

/-- The item with another text in its field of tags. -/
def WorkItem.withTags (item : WorkItem) (text : Text) : WorkItem :=
  { item with fields := item.fields.put tagsField (.str text) }

/-- In this context an action has these targets, and its value has this text. -/
structure Action.IsOn (ctx : Context) (a : Action) (items : List WorkItem) (text : Text) :
    Prop where
  targets : (a.target.targetsIn ctx).result = .ok (items.map some)
  value : ∃ value, (a.value.valueIn (ctx.withImplicit ctx.triggering)).result = .ok (some value) ∧
    value.text = text

variable {ctx : Context} {a add remove : Action} {item : WorkItem} {items : List WorkItem}

@[simp] lemma tagsValue_withTags (item : WorkItem) (text : Text) :
    (item.withTags text).tagsValue = .str text := by
  rw [WorkItem.tagsValue, WorkItem.withTags, Entries.get?_put_self, Option.getD_some]

lemma tags_eq_splitTags_tagsValue (item : WorkItem) : item.tags = splitTags item.tagsValue :=
  item.tags_eq

/-- An action on tags ends without error, with its operations on one target after another. -/
lemma execute_of_isOn (htags : a.isOnTags = true) (h : a.IsOn ctx items tag) :
    (a.execute ctx).result =
      .ok (items.flatMap fun item => (a.operationOn tag item).toList) := by
  obtain ⟨value, hvalue, rfl⟩ := h.value
  refine Logged.result_bind_eq_ok.mpr ⟨_, h.targets, ?_⟩
  cases items with
  | nil => rfl
  | cons item rest =>
    refine Logged.result_bind_eq_ok.mpr ⟨_, hvalue, ?_⟩
    exact congrArg Logged.result (apply_map_some htags)

lemma operationOn_add (hkind : add.kind = .add) (htags : add.isOnTags = true) :
    add.operationOn tag item =
      (addTag? (splitTags item.tagsValue) tag).map fun tags => add.replacement item (tagsText tags)
    := by
  simp only [Action.operationOn, hkind, if_pos htags, tags_eq_splitTags_tagsValue]

lemma operationOn_remove (hkind : remove.kind = .remove) (htags : remove.isOnTags = true) :
    remove.operationOn tag item =
      some (remove.replacement item (tagsText (removeTag (splitTags item.tagsValue) tag))) := by
  simp only [Action.operationOn, hkind, if_pos htags, tags_eq_splitTags_tagsValue]

/-- **Tags are changed as lists are.**  Let a tag be single and not empty.  An action that adds it
to the tags, or removes it from them, has its operations on one target after another; and whatever
the field of tags of a target holds,

* nothing is written to add the tag if the target has it; otherwise a text is written that holds the
  old tags with the new one behind them;
* to remove the tag a text is always written, which up to empty tags holds those of the old tags
  that are different, in their order;
* on the target with the written text, adding again writes nothing and removing again writes the
  same text; and removing the tag that was added writes a text that holds the old tags. -/
theorem tags_are_changed_as_lists (hne : tag ≠ ∅) (hsingle : IsSingleTag tag.letters)
    (hadd : add.kind = .add) (hremove : remove.kind = .remove) (haddTags : add.isOnTags = true)
    (hremoveTags : remove.isOnTags = true) :
    (∀ ctx items, add.IsOn ctx items tag → (add.execute ctx).result =
      .ok (items.flatMap fun item => (add.operationOn tag item).toList)) ∧
    (∀ ctx items, remove.IsOn ctx items tag → (remove.execute ctx).result =
      .ok (items.flatMap fun item => (remove.operationOn tag item).toList)) ∧
    ∀ item : WorkItem,
      (tag ∈ splitTags item.tagsValue → add.operationOn tag item = none) ∧
      (tag ∉ splitTags item.tagsValue → ∃ text,
        add.operationOn tag item = some (add.replacement item text) ∧
        splitTags (.str text) = splitTags item.tagsValue ++ [tag] ∧
        add.operationOn tag (item.withTags text) = none ∧
        ∃ undone, remove.operationOn tag (item.withTags text) =
            some (remove.replacement (item.withTags text) undone) ∧
          splitTags (.str undone) = splitTags item.tagsValue) ∧
      ∃ text, remove.operationOn tag item = some (remove.replacement item text) ∧
        nonEmptyTags (splitTags (.str text)) =
          (nonEmptyTags (splitTags item.tagsValue)).filter (· ≠ tag) ∧
        remove.operationOn tag (item.withTags text) =
          some (remove.replacement (item.withTags text) text) := by
  refine ⟨fun _ _ => execute_of_isOn haddTags, fun _ _ => execute_of_isOn hremoveTags,
    fun item => ⟨fun hmem => ?_, fun hmem => ?_, ?_⟩⟩
  · rw [operationOn_add hadd haddTags, addTag?_of_mem hmem]
    rfl
  · have hread := splitTags_added hne hsingle item.tagsValue
    refine ⟨_, by rw [operationOn_add hadd haddTags, addTag?_of_not_mem hmem]; rfl, hread, ?_,
      _, operationOn_remove hremove hremoveTags, ?_⟩
    · rw [operationOn_add hadd haddTags, tagsValue_withTags, hread, addTag?_of_mem (by simp)]
      rfl
    · rw [tagsValue_withTags, hread, removeTag_append_self hmem, splitTags_tagsText_splitTags]
  · refine ⟨_, operationOn_remove hremove hremoveTags, nonEmptyTags_removed _ _, ?_⟩
    rw [operationOn_remove hremove hremoveTags, tagsValue_withTags, tagsText_removed_again]

/-- Tags that make the separator hard to see: one ends in a semicolon, one is empty, and the new one
begins with a space and ends in a semicolon.  It is added all the same, and removed again. -/
theorem tag_between_separators_added :
    let tag : Text := " x;"
    let old : List Text := ["a;", "", "b"]
    let item : WorkItem := ⟨7, "u7", [("System.Tags", .str "a;; ; b")], []⟩
    let ctx := Context.ofTrigger (some item) none []
    let add : Action := ⟨.add, .mk .me "tags" none, .literal " x;", {}⟩
    let remove : Action := ⟨.remove, .mk .implicit "System.Tags" none, .literal " x;", {}⟩
    IsSingleTag tag.letters ∧ splitTags item.tagsValue = old ∧ ∃ text,
      (add.execute ctx).result = .ok [add.replacement item text] ∧
      splitTags (.str text) = old ++ [tag] ∧
      add.operationOn tag (item.withTags text) = none ∧
      ∃ undone, remove.operationOn tag (item.withTags text) =
          some (remove.replacement (item.withTags text) undone) ∧
        splitTags (.str undone) = old := by
  intro tag old item ctx add remove
  have hsingle : IsSingleTag tag.letters := by simp only [IsSingleTag]; decide
  have hold : splitTags item.tagsValue = old := by decide +kernel
  have hon : add.IsOn ctx [item] tag := ⟨rfl, .str tag, rfl, by decide +kernel⟩
  have hadd : add.isOnTags = true := by decide +kernel
  have hremove : remove.isOnTags = true := by decide +kernel
  obtain ⟨hexecute, -, hitem⟩ :=
    tags_are_changed_as_lists (by decide) hsingle rfl rfl hadd hremove
  obtain ⟨-, hnew, -⟩ := hitem item
  obtain ⟨text, hop, hread, hagain, undone, hundo, hback⟩ := hnew (by rw [hold]; decide)
  rw [hold] at hread hback
  refine ⟨hsingle, hold, text, ?_, hread, hagain, undone, hundo, hback⟩
  rw [hexecute ctx [item] hon, List.flatMap_singleton, hop]
  rfl

end Cascade
