import Cascade.Logged
import Cascade.Pattern.Error
import Cascade.WorkItem.Basic

/-!
# What rules are evaluated against

A rule runs against the item whose update triggered it, that item's parent and the parent's
children. The *implicit* item is the one that a field without scope belongs to: the triggering item
at first, and the child under test inside a selector.

A context may lack its triggering item. Reading its fields then gives nothing; writing to it, or
asking for its identifier, is an error.
-/

namespace Cascade

/-- The items that operands can reach. -/
structure Context where
  implicit : Option WorkItem
  triggering : Option WorkItem
  parent : Option WorkItem := none
  children : List WorkItem := []

namespace Context

/-- The context at the start of a rule. -/
def ofTrigger (triggering parent : Option WorkItem) (children : List WorkItem) : Context :=
  ⟨triggering, triggering, parent, children⟩

/-- The context with another implicit item. -/
def withImplicit (c : Context) (item : Option WorkItem) : Context := { c with implicit := item }

@[simp] theorem withImplicit_withImplicit (c : Context) (a b : Option WorkItem) :
    (c.withImplicit a).withImplicit b = c.withImplicit b := rfl

@[simp] theorem implicit_withImplicit (c : Context) (a : Option WorkItem) :
    (c.withImplicit a).implicit = a := rfl

@[simp] theorem triggering_withImplicit (c : Context) (a : Option WorkItem) :
    (c.withImplicit a).triggering = c.triggering := rfl

@[simp] theorem parent_withImplicit (c : Context) (a : Option WorkItem) :
    (c.withImplicit a).parent = c.parent := rfl

@[simp] theorem children_withImplicit (c : Context) (a : Option WorkItem) :
    (c.withImplicit a).children = c.children := rfl

end Context

/-- A part of a work item that the engine asks for. -/
inductive ItemPart where
  | id
  | url
  | fields
  deriving Repr, DecidableEq

/-- Why evaluating or executing a rule stops. -/
inductive EvalError where
  /-- A part of the triggering item is asked for and there is no such item. -/
  | absentItem (part : ItemPart)
  | refusedPattern (refusal : Pattern.Refusal)
  deriving Repr, DecidableEq

/-- An evaluation step: notices on the way, possibly an error. -/
abbrev Eval (α : Type) := Logged EvalError α

end Cascade
