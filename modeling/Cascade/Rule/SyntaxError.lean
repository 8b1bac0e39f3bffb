import Cascade.Rule.Basic
import Cascade.Logged
import Cascade.Pattern.Error
import Cascade.Number.Notation

/-!
# Why a rule text is rejected

A rejected text is reported with the cause, the number of the line and the text in question. One
kind of failure is not a matter of syntax: a literal pattern that is well formed but refused.
-/

namespace Cascade

/-- What is wrong with a rule text. -/
inductive SyntaxFault where
  | expectedHeader
  | invalidHeader
  | expectedWhen (rule : String)
  | expectedThen (rule : String)
  | noConditions (rule : String)
  | noActions (rule : String)
  | unrecognised (clause : Clause)
  | invalidPattern (reason : String)
  | literalTarget (kind : ActionKind)
  | missingOption
  | emptySelector
  | malformedSelector
  | invalidOperand
  deriving Repr, DecidableEq

/-- A clause part by name. -/
def Clause.word : Clause → String
  | .condition => "condition"
  | .action => "action"

/-- The cause in words. -/
def SyntaxFault.message : SyntaxFault → String
  | .expectedHeader => "Expected rule header"
  | .invalidHeader => "Invalid rule syntax"
  | .expectedWhen rule => s!"Expected 'when' clause in rule \"{rule}\""
  | .expectedThen rule => s!"Expected 'then' clause in rule \"{rule}\""
  | .noConditions rule => s!"Rule \"{rule}\" has no conditions"
  | .noActions rule => s!"Rule \"{rule}\" has no actions"
  | .unrecognised clause => s!"Unrecognised {clause.word}"
  | .invalidPattern reason => s!"Invalid regular expression ({reason})"
  | .literalTarget kind => s!"Cannot {kind.word} a literal value"
  | .missingOption => "Expected an option after 'with'"
  | .emptySelector => "Empty selector condition"
  | .malformedSelector => "Malformed child selector"
  | .invalidOperand => "Invalid operand"

/-- A fault with the place where it was found. -/
structure SyntaxError where
  fault : SyntaxFault
  /-- The number of the line. -/
  number : Int
  /-- The text in question. -/
  text : String
  deriving Repr, DecidableEq

/-- A message with the place it is about. -/
def placedMessage (message : String) (number : Option Int) (text : Option String) : String :=
  let message :=
    match number with
    | some n => message ++ " at line " ++ intText n
    | none => message
  match text with
  | some t => message ++ ": " ++ t
  | none => message

/-- The error in words. -/
def SyntaxError.message (e : SyntaxError) : String :=
  placedMessage e.fault.message (some e.number) (some e.text)

/-- Why a rule text cannot be read. -/
inductive ReadError where
  | rejected (error : SyntaxError)
  | refusedPattern (refusal : Pattern.Refusal)
  deriving Repr, DecidableEq

end Cascade
