import Cascade.Rule.Basic
import Cascade.Value

/-!
# Rules as data

The form in which rules are shown to callers: an object per rule, condition, action and operand. The
key `conditions` of an operand is there exactly when a selector is.
-/

namespace Cascade

mutual

/-- An operand as data. -/
def Operand.toValue : Operand → Value
  | .literal text => .object [("kind", .str "const"), ("value", .str text)]
  | .field reference => reference.toValue

/-- A reference as data. -/
def Reference.toValue : Reference → Value
  | .mk scope name none =>
    .object [("kind", .str "object"), ("scope", .str scope.word), ("field", .str name)]
  | .mk scope name (some conditions) =>
    .object [("kind", .str "object"), ("scope", .str scope.word), ("field", .str name),
      ("conditions", .list (conditionValues conditions))]

/-- A condition as data. -/
def Condition.toValue : Condition → Value
  | .mk left comparison right =>
    .object [("left", left.toValue), ("operator", .str comparison.spelling),
      ("right", right.toValue)]

/-- Conditions as data. -/
def conditionValues : List Condition → List Value
  | [] => []
  | c :: rest => c.toValue :: conditionValues rest

end

/-- An optional flag as data. -/
def flagValue : Option Bool → Value
  | none => .null
  | some b => .bool b

/-- An action as data. -/
def Action.toValue (a : Action) : Value :=
  .object [("operator", .str a.kind.word),
    ("options", .object [("suppress_notifications", flagValue a.options.suppressNotifications),
      ("bypass_rules", flagValue a.options.bypassRules)]),
    ("target", a.target.toValue), ("value", a.value.toValue)]

/-- A rule as data. -/
def Rule.toValue (r : Rule) : Value :=
  .object [("name", .str r.name), ("when", .list (conditionValues r.guards)),
    ("then", .list (r.actions.map Action.toValue))]

theorem conditionValues_eq_map (cs : List Condition) :
    conditionValues cs = cs.map Condition.toValue := by
  induction cs with
  | nil => rfl
  | cons c rest ih => simp [conditionValues, ih]

end Cascade
