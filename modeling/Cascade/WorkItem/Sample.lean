import Cascade.Text.Case
import Cascade.WorkItem.Basic

/-!
# Sample payloads

Payloads as the tracker sends them, for trying things out: work items with links to a parent and to
children, the person an item is assigned to, a small hierarchy, and the notification of an update.
-/

namespace Cascade.Sample

/-- The address under which sample items are found. -/
def itemsUrl : String := "https://dev.azure.com/contoso/_apis/wit/workItems"

/-- The address of a sample item. -/
def itemUrl (id : Int) : String := itemsUrl ++ "/" ++ intText id

/-- A person. Without a name to show, the first part of the unique name is shown in title case. -/
def identity (uniqueName : String) (shown : Option String) : Value :=
  let account := uniqueName.toList.takeWhile (· ≠ '@')
  let name := (shown.filter (!·.isEmpty)).getD (String.ofList (Text.titleText account))
  .object [("displayName", .str name), ("uniqueName", .str uniqueName),
    ("id", .str ("id-" ++ uniqueName))]

/-- A link to an item. -/
def link (rel name : String) (id : Int) : Value :=
  .object [("rel", .str rel), ("url", .str (itemUrl id)),
    ("attributes", .object [("isLocked", .bool false), ("name", .str name)])]

/-- The links to a parent, if there is one. -/
def parentLinks (parent : Option Int) : List Value :=
  parent.toList.map (link parentRelation "Parent")

/-- What a sample item is made of. -/
structure Item where
  id : Int
  title : Value := .str "Work item"
  state : Value := .str "New"
  type : Value := .str "Task"
  parent : Option Int := none
  children : List Int := []
  /-- Further fields; they replace those above under the same name. -/
  fields : Entries := []

/-- The payload of an item. -/
def Item.payload (item : Item) : Value :=
  let fields := Entries.ofBindings (("System.Title", item.title) ::
    ("System.State", item.state) :: ("System.WorkItemType", item.type) :: item.fields)
  .object [("id", .int item.id), ("rev", .int 1), ("url", .str (itemUrl item.id)),
    ("fields", .object fields),
    ("relations", .list (parentLinks item.parent ++
      item.children.map (link childRelation "Child")))]

/-- The item that named properties describe; those that name no property are further fields. -/
def Item.ofEntries (o : Entries) : Item :=
  let int? (key : String) : Option Int :=
    match o.get? key with
    | some (.int i) => some i
    | _ => none
  let children :=
    match o.get? "child_ids" with
    | some (.list vs) => vs.filterMap fun
      | .int i => some i
      | _ => none
    | _ => []
  let own : List Text :=
    ["work_item_id", "title", "state", "work_item_type", "parent_id", "child_ids"]
  { id := (int? "work_item_id").getD 0
    title := (o.get? "title").getD (.str "Work item")
    state := (o.get? "state").getD (.str "New")
    type := (o.get? "work_item_type").getD (.str "Task")
    parent := int? "parent_id"
    children := children
    fields := o.filter fun (key, _) => !own.contains key }

/-- A user story with two tasks. -/
def story : Item where
  id := 100
  title := .str "Checkout flow"
  type := .str "User Story"
  children := [101, 102]
  fields := [("System.Tags", .str "Sprint 12")]

/-- The task to develop it, which has been started. -/
def developmentTask : Item where
  id := 101
  title := .str "Dev: implement checkout"
  state := .str "Active"
  parent := some 100
  fields := [("System.AssignedTo", identity "dev@contoso.com" none)]

/-- The task to test it, which is new. -/
def testTask : Item where
  id := 102
  title := .str "Test: checkout scenarios"
  parent := some 100
  fields := [("System.AssignedTo", identity "qa@contoso.com" none)]

/-- The payloads of the story and its tasks. -/
def hierarchy : Value :=
  .object [("parent", story.payload),
    ("children", .list [developmentTask.payload, testTask.payload])]

/-- The notification of an update of an item. -/
def notification (id : Int) (parent : Option Int) (event : String) : Value :=
  .object [
    ("subscriptionId", .str "00000000-0000-0000-0000-000000000000"),
    ("eventType", .str event),
    ("resource", .object [
      ("id", .int 7),
      ("workItemId", .int id),
      ("rev", .int 7),
      ("fields", .object [("System.State",
        .object [("oldValue", .str "New"), ("newValue", .str "Active")])]),
      ("revision", .object [
        ("id", .int id),
        ("rev", .int 7),
        ("fields", .object [("System.State", .str "Active"), ("System.WorkItemType", .str "Task")]),
        ("relations", .list (parentLinks parent))]),
      ("_links", .object [
        ("self", .object [("href", .str (itemUrl id ++ "/updates/7"))]),
        ("parent", .object [("href", .str (itemUrl id))])])]),
    ("resourceContainers", .object [("project",
      .object [("id", .str "project-1"), ("baseUrl", .str "https://dev.azure.com/contoso/")])])]

end Cascade.Sample
