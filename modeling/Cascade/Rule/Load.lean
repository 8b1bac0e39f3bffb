import Cascade.Rule.Basic
import Cascade.Value

/-!
# Rules from data

Rules can be given in the form in which they are shown (`Rule.toValue`) as well as in writing. Such
rules are taken as they are: only the words for scopes, comparisons and actions are checked. Texts
that are missing are empty, and flags that are missing are left open. Rules are written in
characters, so a text with halves of surrogate pairs counts as missing.
-/

namespace Cascade

/-- Where a word is expected. -/
inductive WordPlace where
  | scope
  | comparison
  | action
  deriving Repr, DecidableEq

/-- A value that is none of the words expected in its place. -/
structure LoadError where
  value : Value
  place : WordPlace

/-- A part of an object is smaller than the object. -/
theorem Value.sizeOf_lt_of_get? {v w : Value} {key : Text} (h : v.get? key = some w) :
    sizeOf w < sizeOf v := by
  have inEntries (entries : List (Text × Value)) (h : Entries.get? entries key = some w) :
      sizeOf w < sizeOf entries := by
    induction entries with
    | nil => simp [Entries.get?] at h
    | cons e rest ih =>
      obtain ⟨k, x⟩ := e
      simp only [Entries.get?, List.lookup_cons] at h ih
      split at h
      · cases h
        simp +arith
      · have := ih h
        simp +arith
        omega
  cases v with
  | object entries =>
    have := inEntries entries h
    simp +arith
    omega
  | _ => simp [Value.get?] at h

/-- The word under a key. -/
def wordAt {α : Type} (place : WordPlace) (read : String → Option α) (v : Value) (key : String) :
    Except LoadError α :=
  let word := (v.get? key).getD .null
  match (word.str?.bind Text.string?).bind read with
  | some a => .ok a
  | none => .error ⟨word, place⟩

/-- The text under a key. -/
def textAt (v : Value) (key : String) : String :=
  (((v.get? key).bind Value.str?).bind Text.string?).getD ""

/-- The flag under a key. -/
def flagAt (v : Value) (key : String) : Option Bool :=
  match v.get? key with
  | some (.bool b) => some b
  | _ => none

mutual

/-- An operand from data. -/
def Operand.ofValue (v : Value) : Except LoadError Operand :=
  if textAt v "kind" = "const" then .ok (.literal (textAt v "value"))
  else (Reference.ofValue v).map .field
termination_by (sizeOf v, 1)

/-- A reference from data. -/
def Reference.ofValue (v : Value) : Except LoadError Reference := do
  let scope ← wordAt .scope Scope.ofWord? v "scope"
  match h : v.get? "conditions" with
  | some (.list cs) =>
    have : sizeOf cs < sizeOf v := by
      have := Value.sizeOf_lt_of_get? h
      simp +arith at this
      omega
    return .mk scope (textAt v "field") (some (← conditionsOf cs))
  | _ => return .mk scope (textAt v "field") none
termination_by (sizeOf v, 0)

/-- A condition from data. -/
def Condition.ofValue (v : Value) : Except LoadError Condition := do
  let left ←
    match h : v.get? "left" with
    | some l =>
      have := Value.sizeOf_lt_of_get? h
      Operand.ofValue l
    | none => .error ⟨.null, .scope⟩
  let comparison ← wordAt .comparison Comparison.ofSpelling? v "operator"
  let right ←
    match h : v.get? "right" with
    | some r =>
      have := Value.sizeOf_lt_of_get? h
      Operand.ofValue r
    | none => .error ⟨.null, .scope⟩
  return .mk left comparison right
termination_by (sizeOf v, 0)

/-- Conditions from data. -/
def conditionsOf (vs : List Value) : Except LoadError (List Condition) :=
  match vs with
  | [] => .ok []
  | v :: rest => do
    let c ← Condition.ofValue v
    return c :: (← conditionsOf rest)
termination_by (sizeOf vs, 0)

end

/-- An action from data. -/
def Action.ofValue (v : Value) : Except LoadError Action := do
  let kind ← wordAt .action ActionKind.ofWord? v "operator"
  let target ← Reference.ofValue ((v.get? "target").getD .null)
  let value ← Operand.ofValue ((v.get? "value").getD .null)
  let flags := (v.get? "options").getD .null
  return ⟨kind, target, value,
    ⟨flagAt flags "suppress_notifications", flagAt flags "bypass_rules"⟩⟩

/-- The items of a list under a key. -/
def itemsAt (v : Value) (key : String) : List Value :=
  match v.get? key with
  | some (.list vs) => vs
  | _ => []

/-- A rule from data. -/
def Rule.ofValue (v : Value) : Except LoadError Rule := do
  let guards ← conditionsOf (itemsAt v "when")
  let actions ← (itemsAt v "then").mapM Action.ofValue
  return ⟨textAt v "name", guards, actions⟩

end Cascade
