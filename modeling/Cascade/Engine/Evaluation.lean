import Cascade.Engine.Context
import Cascade.Pattern.Matcher
import Cascade.Pattern.Reader
import Cascade.Rule.Basic
import Cascade.Text.Search

/-!
# Evaluating conditions

Operands are resolved against a context. A condition with an operand that has no value is false,
whatever its comparison; otherwise the texts of the values are compared. Conditions are tried from
left to right until one is false.

Evaluating a selector means trying its conditions on one child after another, each in the context in
which that child is the implicit item; `me` and `parent` keep their meaning inside.
-/

namespace Cascade

/-- Whether a pattern, given as text, is found in a text. A malformed pattern, which can only come
from a field, is found nowhere: the outcome is `none`, and a notice is made. -/
def searchPattern (pattern subject : Text) : Eval (Option Bool) :=
  match Pattern.Node.read pattern with
  | .ok node => pure (some (node.search subject))
  | .error (.malformed reason position) => do
    Logged.note (.unusablePattern pattern (Pattern.malformedText pattern reason position))
    return none
  | .error (.refused refusal) => Logged.fail (.refusedPattern refusal)

/-- Whether a comparison holds between two texts. -/
def Comparison.holds (c : Comparison) (left right : Text) : Eval Bool :=
  match c with
  | .matching => do
    return (← searchPattern right left).getD false
  | .notMatching => do
    return ((← searchPattern right left).map (!·)).getD false
  | .contains => pure (Text.isInfix right.letters left.letters)
  | .startsWith => pure (right.letters.isPrefixOf left.letters)
  | .endsWith => pure (right.letters.isSuffixOf left.letters)
  | .equal => pure (left == right)
  | .notEqual => pure (left != right)

/-- The first element that passes a test. -/
def findFirst {ε α : Type} (test : α → Logged ε Bool) : List α → Logged ε (Option α)
  | [] => pure none
  | a :: rest => do
    if ← test a then return some a else findFirst test rest

/-- The elements that pass a test. -/
def findAll {ε α : Type} (test : α → Logged ε Bool) : List α → Logged ε (List α)
  | [] => pure []
  | a :: rest => do
    let passes ← test a
    let more ← findAll test rest
    return if passes then a :: more else more

mutual

/-- Whether a condition holds. -/
def Condition.holdsIn (ctx : Context) : Condition → Eval Bool
  | .mk left comparison right => do
    let leftValue ← left.valueIn ctx
    let rightValue ← right.valueIn ctx
    match leftValue, rightValue with
    | some l, some r => comparison.holds l.text r.text
    | _, _ => return false

/-- The value of an operand, if it has one. -/
def Operand.valueIn (ctx : Context) : Operand → Eval (Option Value)
  | .literal text => pure (some (.str text))
  | .field (.mk scope name selector) => do
    let item ← (Reference.mk scope name selector).itemIn ctx
    return item.bind fun i => i.read name

/-- The item that a reference reads from. -/
def Reference.itemIn (ctx : Context) : Reference → Eval (Option WorkItem)
  | .mk .me _ _ => pure ctx.triggering
  | .mk .parent _ _ => pure ctx.parent
  | .mk .implicit _ _ => pure ctx.implicit
  | .mk .child _ none => pure ctx.children.head?
  | .mk .children _ none => pure ctx.children.head?
  | .mk .child _ (some conditions) =>
    findFirst (fun child => allHold (ctx.withImplicit (some child)) conditions) ctx.children
  | .mk .children _ (some conditions) =>
    findFirst (fun child => allHold (ctx.withImplicit (some child)) conditions) ctx.children

/-- Whether all conditions hold. -/
def allHold (ctx : Context) : List Condition → Eval Bool
  | [] => pure true
  | c :: rest => do
    if ← c.holdsIn ctx then allHold ctx rest else return false

end

end Cascade
