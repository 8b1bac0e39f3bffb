import Cascade.WorkItem.Basic

/-!
# Notifications of updates

The tracker notifies the service of the update of a work item. Only the parts that the automation
reads are modelled. The updated item is found under the link named `parent` of the notification: it
is the parent of the *update*, not of the item.
-/

namespace Cascade

/-- The links of a notification. -/
structure HookLinks where
  self : Option Text := none
  parent : Option Text := none
  deriving Repr, DecidableEq, Inhabited

/-- The item after the update. -/
structure Revision where
  id : Option Int := none
  fields : Entries := []
  relations : List Relation := []
  deriving Inhabited

/-- The project an item belongs to. -/
structure Project where
  id : Text
  baseUrl : Option Text := none
  deriving Repr, DecidableEq, Inhabited

/-- The containers of a notification; the outer option is for all of them, the inner one for the
project. -/
abbrev Containers := Option (Option Project)

/-- A notification that a work item was updated. -/
structure Hook where
  eventType : Text
  workItemId : Int
  fields : Entries := []
  revision : Revision := {}
  links : HookLinks := {}
  containers : Containers := none
  deriving Inhabited

namespace Hook

/-- The event the service handles. -/
def supportedEvent : String := "workitem.updated"

/-- Whether the service handles a notification. -/
def isSupported (h : Hook) : Bool := h.eventType == supportedEvent

/-- The address of the updated item. -/
def triggeringUrl (h : Hook) : Option Text := h.links.parent

/-- The first link from the updated item to its parent. -/
def parentLink (h : Hook) : Option Relation :=
  h.revision.relations.find? fun r => r.rel == parentRelation && r.isNamed "Parent"

/-- The address of a link. -/
def decodeLink (kind : IssueKind) : Payload.Decoder Text :=
  Payload.record kind fun o => id <$> Payload.required ["href"] Payload.text o

/-- The links of a notification, read from a payload. -/
def decodeLinks (kind : IssueKind) : Payload.Decoder HookLinks :=
  Payload.record kind fun o =>
    HookLinks.mk
      <$> Payload.optional ["self", "self_link"] none (Payload.nullable (decodeLink kind)) o
      <*> Payload.optional ["parent"] none (Payload.nullable (decodeLink kind)) o

/-- The updated item, read from a payload. -/
def decodeRevision (kind : IssueKind) : Payload.Decoder Revision :=
  Payload.record kind fun o =>
    Revision.mk
      <$> Payload.optional ["id"] none (Payload.nullable Payload.int) o
      <*> Payload.optional ["fields"] [] (Payload.nullAs [] Payload.entries) o
      <*> Payload.optional ["relations"] []
        (Payload.nullAs [] (Payload.list (Relation.decode kind))) o

/-- A project, read from a payload. -/
def decodeProject (kind : IssueKind) : Payload.Decoder Project :=
  Payload.record kind fun o =>
    Project.mk
      <$> Payload.required ["id"] Payload.text o
      <*> Payload.optional ["baseUrl", "base_url"] none (Payload.nullable Payload.text) o

/-- The containers, read from a payload. -/
def decodeContainers (kind : IssueKind) : Payload.Decoder (Option Project) :=
  Payload.record kind fun o =>
    Payload.optional ["project"] none (Payload.nullable (decodeProject kind)) o

/-- The updated resource: what the notification says besides its type and its containers. -/
def decodeResource (kind : IssueKind) :
    Payload.Decoder (Int × Entries × Revision × HookLinks) :=
  Payload.record kind fun o =>
    (fun id fields revision links => (id, fields, revision, links))
      <$> Payload.required ["workItemId", "work_item_id"] Payload.int o
      <*> Payload.optional ["fields"] [] Payload.entries o
      <*> Payload.optional ["revision"] {} (decodeRevision kind) o
      <*> Payload.optional ["_links", "links"] {} (decodeLinks kind) o

/-- A notification, read from a payload. -/
def decode : Payload.Decoder Hook :=
  let kind := IssueKind.modelType
  Payload.record kind fun o =>
    (fun event (id, fields, revision, links) containers =>
        ⟨event, id, fields, revision, links, containers⟩)
      <$> Payload.required ["eventType", "event_type"] Payload.text o
      <*> Payload.required ["resource"] (decodeResource kind) o
      <*> Payload.optional ["resourceContainers", "resource_containers"] none
        (Payload.nullable (decodeContainers kind)) o

/-- A link as data. -/
def linkValue : Option Text → Value
  | none => .null
  | some href => .object [("href", .str href)]

/-- The updated item as data. -/
def revisionValue (r : Revision) : Value :=
  .object [("id", (r.id.map Value.int).getD .null), ("fields", .object r.fields),
    ("relations", .list (r.relations.map Relation.toValue))]

/-- The containers as data. -/
def containersValue : Containers → Value
  | none => .null
  | some none => .object [("project", .null)]
  | some (some p) =>
    .object [("project", .object [("id", .str p.id), ("baseUrl", (p.baseUrl.map .str).getD .null)])]

/-- A notification as data. -/
def toValue (h : Hook) : Value :=
  .object [("eventType", .str h.eventType),
    ("resource", .object [("workItemId", .int h.workItemId), ("fields", .object h.fields),
      ("revision", revisionValue h.revision),
      ("_links",
        .object [("self", linkValue h.links.self), ("parent", linkValue h.links.parent)])]),
    ("resourceContainers", containersValue h.containers)]

end Hook

end Cascade
