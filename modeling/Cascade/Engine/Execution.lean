import Cascade.Engine.Evaluation
import Cascade.Update.Operation
import Cascade.WorkItem.Tags

/-!
# Executing actions

An action turns into update operations, one per target at most; nothing is sent here. Its value is
read from the side of the triggering item, whatever its target. Adding and removing work on the tags
that the target has now: an operation holds the complete new list. Adding to any other field sets
it; removing from any other field does nothing but make a notice.
-/

namespace Cascade

/-- The children that a selector singles out; all of them if there is none. -/
def matchingChildren (ctx : Context) (selector : Option (List Condition)) : Eval (List WorkItem) :=
  match selector with
  | none => pure ctx.children
  | some conditions =>
    findAll (fun child => allHold (ctx.withImplicit (some child)) conditions) ctx.children

/-- The items that an action on a reference writes to. A lacking triggering item counts, so that
writing to it is noticed. -/
def Reference.targetsIn (ctx : Context) (r : Reference) : Eval (List (Option WorkItem)) :=
  match r.scope with
  | .me | .implicit => pure [ctx.triggering]
  | .parent => pure (ctx.parent.toList.map some)
  | .child => do
    let item ← r.itemIn ctx
    return item.toList.map some
  | .children => do
    let items ← matchingChildren ctx r.selector
    return items.map some

/-- The replacement of the target field of an action on one target. -/
def Action.replacement (a : Action) (item : WorkItem) (value : Text) : UpdateOperation :=
  { url := item.url, options := a.options, path := fieldPath a.target.name, value }

/-- The target, if there is one. -/
def presentItem (part : ItemPart) : Option WorkItem → Eval WorkItem
  | some item => pure item
  | none => Logged.fail (.absentItem part)

/-- The operations that an action has on targets, given what it does to one. -/
def onTargets (part : ItemPart) (operation : WorkItem → Option UpdateOperation) :
    List (Option WorkItem) → Eval (List UpdateOperation)
  | [] => pure []
  | target :: rest => do
    let item ← presentItem part target
    let more ← onTargets part operation rest
    return (operation item).toList ++ more

/-- The tags of an item. -/
def WorkItem.tags (item : WorkItem) : List Text :=
  splitTags ((item.read tagsField).getD .null)

/-- The tags with one more, unless it is among them. -/
def addTag? (tags : List Text) (tag : Text) : Option (List Text) :=
  if tags.contains tag then none else some (tags ++ [tag])

/-- The tags without one. -/
def removeTag (tags : List Text) (tag : Text) : List Text := tags.filter (· != tag)

/-- Whether the target field of an action holds tags. -/
def Action.isOnTags (a : Action) : Bool := canonicalField a.target.name = tagsField

/-- The operations of an action on its targets, its value being known. -/
def Action.apply (a : Action) (targets : List (Option WorkItem)) (value : Text) :
    Eval (List UpdateOperation) :=
  let replace := onTargets .url fun item => some (a.replacement item value)
  match a.kind with
  | .set => replace targets
  | .add =>
    if a.isOnTags then
      onTargets .fields (fun item =>
        (addTag? item.tags value).map fun tags => a.replacement item (tagsText tags)) targets
    else replace targets
  | .remove =>
    if a.isOnTags then
      onTargets .fields (fun item =>
        some (a.replacement item (tagsText (removeTag item.tags value)))) targets
    else do
      Logged.note (.removalOutsideTags a.target.name)
      return []

/-- The operations of an action. -/
def Action.execute (ctx : Context) (a : Action) : Eval (List UpdateOperation) := do
  let targets ← a.target.targetsIn ctx
  if targets.isEmpty then return []
  else
    match ← a.value.valueIn (ctx.withImplicit ctx.triggering) with
    | none => return []
    | some value => a.apply targets value.text

/-- The operations of actions, in order. -/
def executeAll (ctx : Context) : List Action → Eval (List UpdateOperation)
  | [] => pure []
  | a :: rest => do
    let operations ← a.execute ctx
    let more ← executeAll ctx rest
    return operations ++ more

end Cascade
