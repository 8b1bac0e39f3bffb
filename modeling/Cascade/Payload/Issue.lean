import Cascade.Value

/-!
# Checking payloads

A payload is checked as a whole: every part is looked at, and all faults are reported in the order
of the declared fields. `Checked` is the result of a check; two checks joined by `<*>` report the
faults of both. That is why it is an applicative functor and no monad.

No fault is lost, and the order of the faults is that of the parts (`invalid_seq_invalid`). As data
(`Issue.toValue`) a fault is its kind and the way to it.
-/

namespace Cascade

/-- What is wrong with a part of a payload. -/
inductive IssueKind where
  | missing
  | stringType
  /-- A text with halves of surrogate pairs, where it is to be taken apart. -/
  | stringUnicode
  | intType
  | intParsing
  | intFromFloat
  | intParsingSize
  | finiteNumber
  | floatType
  | floatParsing
  | boolType
  | boolParsing
  | dictType
  | listType
  | modelType
  | modelAttributesType
  | literalError
  deriving Repr, DecidableEq

/-- The name of a fault. -/
def IssueKind.code : IssueKind → String
  | .missing => "missing"
  | .stringType => "string_type"
  | .stringUnicode => "string_unicode"
  | .intType => "int_type"
  | .intParsing => "int_parsing"
  | .intFromFloat => "int_from_float"
  | .intParsingSize => "int_parsing_size"
  | .finiteNumber => "finite_number"
  | .floatType => "float_type"
  | .floatParsing => "float_parsing"
  | .boolType => "bool_type"
  | .boolParsing => "bool_parsing"
  | .dictType => "dict_type"
  | .listType => "list_type"
  | .modelType => "model_type"
  | .modelAttributesType => "model_attributes_type"
  | .literalError => "literal_error"

/-- A step from a value to a part of it. -/
inductive PathStep where
  | key (name : String)
  | index (i : Nat)
  deriving Repr, DecidableEq

/-- A fault and the way to the part that has it. -/
structure Issue where
  path : List PathStep
  kind : IssueKind
  deriving Repr, DecidableEq

/-- A step of a way as data. -/
def PathStep.toValue : PathStep → Value
  | .key name => .str name
  | .index i => .int i

/-- A fault as data. -/
def Issue.toValue (i : Issue) : Value :=
  .object [("loc", .list (i.path.map PathStep.toValue)), ("type", .str i.kind.code)]

/-- The result of a check: a value, or all faults. -/
inductive Checked (α : Type) where
  | valid (a : α)
  | invalid (issues : List Issue)

namespace Checked

variable {α β : Type}

/-- One fault, of the value itself. -/
def fault (kind : IssueKind) : Checked α := .invalid [⟨[], kind⟩]

/-- The result with another value. -/
def map (f : α → β) : Checked α → Checked β
  | .valid a => .valid (f a)
  | .invalid issues => .invalid issues

/-- Two checks of parts, the faults of both. -/
def seq (f : Checked (α → β)) (x : Unit → Checked α) : Checked β :=
  match f, x () with
  | .valid f, .valid a => .valid (f a)
  | .valid _, .invalid issues => .invalid issues
  | .invalid issues, .valid _ => .invalid issues
  | .invalid issues, .invalid more => .invalid (issues ++ more)

instance : Functor Checked where
  map := map

instance : Applicative Checked where
  pure := valid
  seq := seq

/-- The result seen from the value of which the checked one is a part. -/
def under (step : PathStep) : Checked α → Checked α
  | .valid a => .valid a
  | .invalid issues => .invalid (issues.map fun i => { i with path := step :: i.path })

/-- The value, if there is no fault. -/
def toOption : Checked α → Option α
  | .valid a => some a
  | .invalid _ => none

/-- The value or the faults. -/
def toExcept : Checked α → Except (List Issue) α
  | .valid a => .ok a
  | .invalid issues => .error issues

@[simp] theorem map_valid (f : α → β) (a : α) : f <$> (valid a) = valid (f a) := rfl

@[simp] theorem map_invalid (f : α → β) (issues : List Issue) :
    f <$> (invalid issues : Checked α) = invalid issues := rfl

@[simp] theorem valid_seq_valid (f : α → β) (a : α) : valid f <*> valid a = valid (f a) := rfl

@[simp] theorem valid_seq_invalid (f : α → β) (issues : List Issue) :
    valid f <*> (invalid issues : Checked α) = invalid issues := rfl

@[simp] theorem invalid_seq_valid (issues : List Issue) (a : α) :
    (invalid issues : Checked (α → β)) <*> valid a = invalid issues := rfl

@[simp] theorem invalid_seq_invalid (issues more : List Issue) :
    (invalid issues : Checked (α → β)) <*> (invalid more : Checked α) =
      invalid (issues ++ more) := rfl

end Checked

end Cascade
