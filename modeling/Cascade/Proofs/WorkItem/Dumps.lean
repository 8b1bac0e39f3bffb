import Cascade.Update.Operation
import Cascade.WorkItem.Hook
import Mathlib.Tactic.Lemma

/-!
# Dumps of checked payloads

Payloads are read leniently: parts may be absent or null, may be of another type and may bear either
of two names.  The data as which a model is shown leaves no such choice, for every part stands there
under its own name and has its own type.  So a reader gives a model back from the data as which it
is shown (`Payload.Reads`).

This is shown reader by reader.  The readers of scalars, lists and parts that may be null have it,
and a field has it that a record shows under its own name, whatever else it might be called
(`Payload.Reads.required`, `Payload.Reads.optional`); with these the records are read field by
field. The main result is `dump_validates_again`.
-/

namespace Cascade

namespace Payload

variable {α : Type} {decode : Decoder α} {dump : α → Value} {o : Entries} {own : String}
  {others : List String} {v : Value} {a : α}

/-- A reader gives back every value from the data as which it is shown. -/
def Reads (decode : Decoder α) (dump : α → Value) : Prop := ∀ a, decode (dump a) = .valid a

/-! ## Fields -/

/-- The own name of a field wins over its other names. -/
lemma findKey_own (h : o.get? own = some v) : findKey (own :: others) o = some (own, v) := by
  simp [findKey, h]

lemma findKey_eq_none (h : ∀ name ∈ others, o.get? name = none) : findKey others o = none := by
  simpa [findKey] using h

lemma optional_absent {default : α} (h : ∀ name ∈ others, o.get? name = none) :
    optional others default decode o = .valid default := by
  simp [optional, findKey_eq_none h]

namespace Reads

lemma required (h : Reads decode dump) (hshown : o.get? own = some (dump a)) :
    Payload.required (own :: others) decode o = .valid a := by
  simp [Payload.required, findKey_own hshown, h a, Checked.under]

lemma optional {default : α} (h : Reads decode dump) (hshown : o.get? own = some (dump a)) :
    Payload.optional (own :: others) default decode o = .valid a := by
  simp [Payload.optional, findKey_own hshown, h a, Checked.under]

/-! ## Readers -/

lemma int : Reads Payload.int Value.int := fun _ => rfl

lemma text : Reads Payload.text Value.str := fun _ => rfl

lemma flag : Reads Payload.flag Value.bool := fun _ => rfl

lemma entries : Reads Payload.entries Value.object := fun _ => rfl

lemma nullable (h : Reads decode dump) (hnull : ∀ a, dump a ≠ .null) :
    Reads (Payload.nullable decode) fun a? => (a?.map dump).getD .null := by
  intro a?
  cases a? with
  | none => rfl
  | some a =>
    have hread : Payload.nullable decode (dump a) = some <$> decode (dump a) := by
      unfold Payload.nullable
      split
      · next hnone => exact absurd hnone (hnull a)
      · rfl
    exact hread.trans (congrArg _ (h a))

lemma nullAs {default : α} (h : Reads decode dump) (hnull : ∀ a, dump a ≠ .null) :
    Reads (Payload.nullAs default decode) dump := by
  intro a
  unfold Payload.nullAs
  split
  · next hnone => exact absurd hnone (hnull a)
  · exact h a

lemma itemsFrom (h : Reads decode dump) (i : Nat) (items : List α) :
    Payload.itemsFrom decode i (items.map dump) = .valid items := by
  induction items generalizing i with
  | nil => rfl
  | cons a rest ih =>
    rw [List.map_cons, Payload.itemsFrom, h a, ih (i + 1)]
    rfl

lemma list (h : Reads decode dump) :
    Reads (Payload.list decode) fun items => .list (items.map dump) :=
  h.itemsFrom 0

end Reads

end Payload

open Payload (Reads)

/-! ## Work items -/

lemma Relation.reads (kind : IssueKind) : Reads (Relation.decode kind) Relation.toValue := by
  intro r
  -- without attributes there is nothing to read, which comes to the same
  have hattributes : Reads (fun v => if v.isTruthy then Payload.entries v else .valid [])
      Value.object := by
    intro entries
    cases entries <;> rfl
  simp only [Relation.decode, Relation.toValue, Payload.record]
  rw [Reads.text.required (a := r.rel) rfl, Reads.text.required (a := r.url) rfl,
    hattributes.optional (a := r.attributes) rfl]
  rfl

/-- Fields that are null are none. -/
lemma reads_fields : Reads (Payload.nullAs [] Payload.entries) Value.object :=
  Reads.entries.nullAs nofun

lemma reads_relations (kind : IssueKind) :
    Reads (Payload.nullAs [] (Payload.list (Relation.decode kind))) fun relations =>
      .list (relations.map Relation.toValue) :=
  (Relation.reads kind).list.nullAs nofun

lemma WorkItem.reads (kind : IssueKind) : Reads (WorkItem.decode kind) WorkItem.toValue := by
  intro item
  simp only [WorkItem.decode, WorkItem.toValue, Payload.record]
  rw [Reads.int.required (a := item.id) rfl, Reads.text.required (a := item.url) rfl,
    reads_fields.optional (a := item.fields) rfl,
    (reads_relations kind).optional (a := item.relations) rfl]
  rfl

/-! ## Notifications -/

namespace Hook

lemma reads_link (kind : IssueKind) :
    Reads (decodeLink kind) fun href => .object [("href", .str href)] := by
  intro href
  simp only [decodeLink, Payload.record]
  rw [Reads.text.required (a := href) rfl]
  rfl

lemma reads_linkValue (kind : IssueKind) :
    Reads (Payload.nullable (decodeLink kind)) linkValue := by
  intro href?
  have h := (reads_link kind).nullable nofun href?
  cases href? <;> exact h

lemma reads_links (kind : IssueKind) : Reads (decodeLinks kind) fun links =>
    .object [("self", linkValue links.self), ("parent", linkValue links.parent)] := by
  intro links
  simp only [decodeLinks, Payload.record]
  rw [(reads_linkValue kind).optional (a := links.self) rfl,
    (reads_linkValue kind).optional (a := links.parent) rfl]
  rfl

lemma reads_revision (kind : IssueKind) : Reads (decodeRevision kind) revisionValue := by
  intro revision
  have hid := Reads.int.nullable nofun
  simp only [decodeRevision, revisionValue, Payload.record]
  rw [hid.optional (a := revision.id) rfl, reads_fields.optional (a := revision.fields) rfl,
    (reads_relations kind).optional (a := revision.relations) rfl]
  rfl

lemma reads_resource (kind : IssueKind) : Reads (decodeResource kind)
    fun (id, fields, revision, links) => .object [("workItemId", .int id),
      ("fields", .object fields), ("revision", revisionValue revision),
      ("_links",
        .object [("self", linkValue links.self), ("parent", linkValue links.parent)])] := by
  rintro ⟨id, fields, revision, links⟩
  simp only [decodeResource, Payload.record]
  rw [Reads.int.required (a := id) rfl, Reads.entries.optional (a := fields) rfl,
    (reads_revision kind).optional (a := revision) rfl,
    (reads_links kind).optional (a := links) rfl]
  rfl

lemma reads_project (kind : IssueKind) : Reads (decodeProject kind) fun project =>
    .object [("id", .str project.id), ("baseUrl", (project.baseUrl.map .str).getD .null)] := by
  intro project
  have hbase := Reads.text.nullable nofun
  simp only [decodeProject, Payload.record]
  rw [Reads.text.required (a := project.id) rfl, hbase.optional (a := project.baseUrl) rfl]
  rfl

lemma reads_containers (kind : IssueKind) :
    Reads (Payload.nullable (decodeContainers kind)) containersValue := by
  have hproject := (reads_project kind).nullable nofun
  have hall : Reads (decodeContainers kind) fun project? => containersValue (some project?) := by
    intro project?
    simp only [decodeContainers, containersValue, Payload.record]
    cases project? with
    | none => exact hproject.optional (a := none) rfl
    | some project => exact hproject.optional (a := some project) rfl
  intro containers
  have h := hall.nullable (fun project? => by cases project? <;> exact nofun) containers
  cases containers <;> exact h

lemma reads : Reads decode toValue := by
  intro h
  simp only [decode, toValue, Payload.record]
  rw [Reads.text.required (a := h.eventType) rfl, (reads_resource .modelType).required
      (a := (h.workItemId, h.fields, h.revision, h.links)) rfl,
    (reads_containers .modelType).optional (a := h.containers) rfl]
  rfl

end Hook

/-! ## Update operations -/

namespace UpdateOperation

lemma lookup_flagEntry (name key : String) (flag : Option Bool) :
    (flagEntry name flag).lookup (key : Text) =
      if key = name then flag.map Value.bool else none := by
  cases flag with
  | none => simp [flagEntry]
  | some b =>
    by_cases hkey : key = name
    · simp [flagEntry, hkey]
    · have hne : (key == name) = false := beq_false_of_ne hkey
      simp [flagEntry, List.lookup_cons, hkey, hne]

/-- A flag that is left open has no entry, and none is found under its other name. -/
lemma read_flag {o : Entries} {name other : String} {f : Option Bool}
    (hshown : o.get? name = f.map Value.bool) (hother : o.get? other = none) :
    Payload.optional [name, other] none (Payload.nullable Payload.flag) o = .valid f := by
  cases f with
  | none => exact Payload.optional_absent (by simp [hshown, hother])
  | some b => exact (Reads.flag.nullable nofun).optional (a := some b) hshown

lemma reads_verb : Reads decodeVerb fun _ => .str "replace" := fun _ => rfl

lemma reads : Reads decode toValue := by
  intro op
  simp only [decode, toValue, Payload.record]
  rw [Reads.text.required (a := op.url), read_flag (f := op.options.suppressNotifications),
    read_flag (f := op.options.bypassRules), reads_verb.optional (a := ()),
    Reads.text.required (a := op.path), Reads.text.required (a := op.value)]
  · rfl
  all_goals simp [Entries.get?, List.lookup_append, lookup_flagEntry, List.lookup_cons]

end UpdateOperation

/-! ## The main result -/

/-- **Validation is stable under dumping.**  Take any payload that is accepted as a work item, as a
notification or as an update operation, whatever has been converted, left out, null or found under
another name.  The data as which the model is shown is accepted again, and it gives the same
model. -/
theorem dump_validates_again (payload : Value) :
    (∀ kind item, WorkItem.decode kind payload = .valid item →
      WorkItem.decode kind item.toValue = .valid item) ∧
    (∀ hook, Hook.decode payload = .valid hook → Hook.decode hook.toValue = .valid hook) ∧
    ∀ op, UpdateOperation.decode payload = .valid op →
      UpdateOperation.decode op.toValue = .valid op :=
  ⟨fun kind item _ => WorkItem.reads kind item, fun hook _ => Hook.reads hook,
    fun op _ => UpdateOperation.reads op⟩

/-- The identifier is written as text, the fields are null, and so in effect are the attributes of a
link. -/
def lenientItem : Value :=
  .object [("id", .str " 7.0 "), ("rev", .int 3), ("fields", .null), ("url", .str "u"),
    ("relations", .list [.object [("url", .str "v"), ("rel", .str "r"), ("attributes", .int 0)]])]

/-- Parts stand under both of their names or under the other one, and some of them are null. -/
def lenientHook : Value :=
  .object [("event_type", .str "ignored"), ("eventType", .str "workitem.updated"),
    ("resource_containers", .object [("project", .object [("id", .str "p"), ("base_url", .null)])]),
    ("resource", .object [("work_item_id", .str "not read"), ("workItemId", .bool true),
      ("revision", .object [("id", .null), ("fields", .null), ("relations", .null)]),
      ("links", .null), ("_links", .object [("self_link", .object [("href", .str "s")]),
        ("parent", .object [("href", .str "t")])])])]

/-- One flag stands under both of its names and the other one is null. -/
def lenientOperation : Value :=
  .object [("suppress_notifications", .str "not read"), ("suppressNotifications", .str "Off"),
    ("bypass_rules", .null), ("value", .str "Active"), ("path", .str "/fields/System.State"),
    ("url", .str "u")]

/-- The three are accepted, and so is what is shown of them. -/
theorem lenient_payloads_validate_again :
    let item : WorkItem := ⟨7, "u", [], [⟨"r", "v", []⟩]⟩
    let hook : Hook := ⟨"workitem.updated", 1, [], ⟨none, [], []⟩, ⟨some "s", some "t"⟩,
      some (some ⟨"p", none⟩)⟩
    let op : UpdateOperation := ⟨"u", ⟨some false, none⟩, "/fields/System.State", "Active"⟩
    WorkItem.decode .modelType lenientItem = .valid item ∧
    WorkItem.decode .modelType item.toValue = .valid item ∧
    Hook.decode lenientHook = .valid hook ∧ Hook.decode hook.toValue = .valid hook ∧
    UpdateOperation.decode lenientOperation = .valid op ∧
    UpdateOperation.decode op.toValue = .valid op := by
  intro item hook op
  have hitem : WorkItem.decode .modelType lenientItem = .valid item := rfl
  have hhook : Hook.decode lenientHook = .valid hook := rfl
  have hop : UpdateOperation.decode lenientOperation = .valid op := rfl
  exact ⟨hitem, (dump_validates_again lenientItem).1 _ item hitem,
    hhook, (dump_validates_again lenientHook).2.1 hook hhook,
    hop, (dump_validates_again lenientOperation).2.2 op hop⟩

end Cascade
