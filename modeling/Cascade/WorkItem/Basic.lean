import Cascade.Payload.Scalar
import Cascade.WorkItem.Field

/-!
# Work items

A work item has an identifier, an address, fields, and relations to other items. `WorkItem.decode`
reads one from a payload and `WorkItem.toValue` shows it as data again.
-/

namespace Cascade

/-- A link from one item to another. -/
structure Relation where
  /-- The type of the link. -/
  rel : Text
  url : Text
  attributes : Entries := []
  deriving Inhabited

/-- An item of the tracker. -/
structure WorkItem where
  id : Int
  url : Text
  fields : Entries := []
  relations : List Relation := []
  deriving Inhabited

namespace Relation

/-- The name among the attributes of a link. -/
def name (r : Relation) : Option Value :=
  match r.attributes.get? "name" with
  | some .null => none
  | v => v

/-- Whether a link bears a name. -/
def isNamed (r : Relation) (n : Text) : Bool := (r.name.map (·.isStr n)).getD false

/-- A link read from a payload. Attributes that count as absent are none. -/
def decode (kind : IssueKind) : Payload.Decoder Relation :=
  Payload.record kind fun o =>
    Relation.mk <$> Payload.required ["rel"] Payload.text o
      <*> Payload.required ["url"] Payload.text o
      <*> Payload.optional ["attributes"] []
        (fun v => if v.isTruthy then Payload.entries v else .valid []) o

/-- A link as data. -/
def toValue (r : Relation) : Value :=
  .object [("rel", .str r.rel), ("url", .str r.url), ("attributes", .object r.attributes)]

end Relation

namespace WorkItem

/-- The value of a field, under any of its names; null counts as not set. -/
def read (item : WorkItem) (name : String) : Option Value :=
  let canonical := canonicalField name
  if canonical = idField then some (.int item.id)
  else
    match item.fields.get? canonical with
    | some .null => none
    | v => v

/-- The links of a type and, if one is asked for, with a name. -/
def relationsOf (item : WorkItem) (rel : Text) (name : Option Text := none) : List Relation :=
  item.relations.filter fun r => r.rel == rel && (name.map r.isNamed).getD true

/-- An item read from a payload; `kind` is the fault of a payload that is no object. -/
def decode (kind : IssueKind) : Payload.Decoder WorkItem :=
  Payload.record kind fun o =>
    WorkItem.mk <$> Payload.required ["id"] Payload.int o
      <*> Payload.required ["url"] Payload.text o
      <*> Payload.optional ["fields"] [] (Payload.nullAs [] Payload.entries) o
      <*> Payload.optional ["relations"] []
        (Payload.nullAs [] (Payload.list (Relation.decode kind))) o

/-- An item as data. -/
def toValue (item : WorkItem) : Value :=
  .object [("id", .int item.id), ("url", .str item.url), ("fields", .object item.fields),
    ("relations", .list (item.relations.map Relation.toValue))]

end WorkItem

/-- The type of the links that lead from a child to its parent. -/
def parentRelation : String := "System.LinkTypes.Hierarchy-Reverse"

/-- The type of the links that lead from a parent to its children. -/
def childRelation : String := "System.LinkTypes.Hierarchy-Forward"

end Cascade
