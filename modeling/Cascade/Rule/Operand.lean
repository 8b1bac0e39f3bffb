import Cascade.Rule.Line
import Cascade.Rule.Operator
import Cascade.Rule.SyntaxError
import Cascade.Pattern.Reader

/-!
# Reading operands and conditions

An operand is a literal in double quotes, a field behind a scope and a point, or a field by itself.
Behind `child` and `children` a selector may stand in parentheses: a list of conditions, and thus of
operands. `readOperandWithin` is the recursion through selectors; every selector uses up an opening
parenthesis, so their number bounds its depth.

In strict mode text that fits no grammar is an error. In lenient mode it is dropped with a notice,
or taken for the name of a field.
-/

namespace Cascade

/-- A reading step: notices on the way, possibly an error. -/
abbrev Read (α : Type) := Logged ReadError α

/-- How a piece of text is to be read. -/
structure Reading where
  /-- Whether text that fits no grammar is an error. -/
  strict : Bool
  /-- The number of the line the text begins on. -/
  number : Int
  deriving Repr, DecidableEq

namespace Reading

/-- Rejects a text. -/
def reject {α : Type} (r : Reading) (fault : SyntaxFault) (text : List Char) : Read α :=
  .fail (.rejected ⟨fault, r.number, String.ofList text⟩)

/-- Deals with a piece of a clause that fits no grammar. -/
def unrecognised (r : Reading) (clause : Clause) (text : List Char) : Read Unit :=
  if r.strict then r.reject (.unrecognised clause) text
  else .note (.droppedText clause r.number (String.ofList text))

/-- Reads pieces one after another, dealing with those that fit no grammar. -/
def readPieces {α : Type} (r : Reading) (clause : Clause)
    (readPiece : List Char → Read (Option α)) :
    List (List Char) → Read (List α)
  | [] => pure []
  | piece :: pieces => do
    match ← readPiece piece with
    | some a =>
      let rest ← r.readPieces clause readPiece pieces
      return a :: rest
    | none =>
      r.unrecognised clause piece
      r.readPieces clause readPiece pieces

end Reading

/-- A text that is not empty up to the end of its only line; a line feed may end it. -/
def soleLine? (text : List Char) : Option (List Char) :=
  let line := text.takeWhile (· ≠ '\n')
  let rest := text.dropWhile (· ≠ '\n')
  if !line.isEmpty && (rest.isEmpty || rest == ['\n']) then some line else none

/-- The text between double quotes at either end. -/
def literal? (text : List Char) : Option String :=
  match text with
  | '"' :: rest =>
    if rest.getLast? = some '"' then some (String.ofList rest.dropLast) else none
  | _ => none

/-- The scope whose word stands before a character at the start of a text, and the text behind. -/
def scopeBefore? (mark : Char) (scopes : List Scope) (text : List Char) :
    Option (Scope × List Char) :=
  scopes.findSome? fun scope =>
    (Text.after? (scope.word.toList ++ [mark]) text).map fun rest => (scope, rest)

/-- Whether a text is the name of a field. -/
def isFieldName : List Char → Bool
  | [] => false
  | c :: rest =>
    (c.isAlpha || c = '_') && rest.all fun d => Text.isWord d || d = '.' || d = '-'

/-- A field behind a scope, or by itself. -/
def readPlainOperand (r : Reading) (text : List Char) : Read Operand :=
  let qualified :=
    match scopeBefore? '.' [.me, .parent, .children, .child] text with
    | some (scope, rest) => (soleLine? rest).map fun name => (scope, name)
    | none => none
  match qualified with
  | some (scope, name) => pure (.field (.mk scope (String.ofList (Text.trim name)) none))
  | none =>
    if r.strict && !isFieldName text then r.reject .invalidOperand text
    else pure (.field (.mk .implicit (String.ofList text) none))

/-- The parts of a selector operand. -/
structure SelectorParts where
  scope : Scope
  conditions : List Char
  field : List Char
  deriving Repr, DecidableEq

/-- The scope of a selector that a text begins with, and the place of its parenthesis. -/
def selectorScope? (text : List Char) : Option (Scope × Nat) :=
  (scopeBefore? '(' [.children, .child] text).map fun (scope, _) => (scope, scope.word.length)

/-- The parts of a selector operand: the parenthesis is closed, and a point and a field follow. -/
def selectorParts? (scope : Scope) (start : Nat) (text : List Char) : Option SelectorParts :=
  match closingParen? text start with
  | none => none
  | some stop =>
    match text.drop (stop + 1) with
    | '.' :: c :: field =>
      some ⟨scope, (text.take stop).drop (start + 1), Text.trim (c :: field)⟩
    | _ => none

/-- An operand, given a reader for the conditions of a selector. -/
def readOperandWith (readInner : List Char → Read (List Condition)) (r : Reading)
    (text : List Char) : Read Operand :=
  let text := Text.trim text
  match literal? text with
  | some value => pure (.literal value)
  | none =>
    match selectorScope? text with
    | none => readPlainOperand r text
    | some (scope, start) =>
      match selectorParts? scope start text with
      | some parts => do
        let conditions ← readInner parts.conditions
        if conditions.isEmpty && r.strict then r.reject .emptySelector text
        else
          return .field (.mk parts.scope (String.ofList parts.field) (some conditions))
      | none =>
        if r.strict then r.reject .malformedSelector text else readPlainOperand r text

/-- Refuses a literal pattern that cannot be used. -/
def checkPattern (r : Reading) (text : List Char) (pattern : String) : Read Unit :=
  match Pattern.Node.read pattern with
  | .ok _ => pure ()
  | .error (.malformed reason position) =>
    r.reject (.invalidPattern (Pattern.malformedText pattern reason position).shown) text
  | .error (.refused refusal) => .fail (.refusedPattern refusal)

/-- Refuses the right operand of a comparison when it is a literal pattern that cannot be used. -/
def checkRight (r : Reading) (text : List Char) (comparison : Comparison) (right : Operand) :
    Read Unit :=
  match right with
  | .literal pattern => if comparison.takesPattern then checkPattern r text pattern else pure ()
  | .field _ => pure ()

/-- A condition, given a reader for operands; nothing when no operator stands between two texts. The
right operand is read first. -/
def readConditionWith (readOperand : List Char → Read Operand) (r : Reading) (text : List Char) :
    Read (Option Condition) :=
  match findOperator text with
  | none => pure none
  | some m =>
    let left := Text.trim m.before
    let right := Text.trim m.after
    if left.isEmpty || right.isEmpty then pure none
    else do
      let right ← readOperand right
      checkRight r text m.comparison right
      let left ← readOperand left
      return some (.mk left m.comparison right)

/-- The conditions of a text, given a reader for operands. -/
def readConditionsWith (readOperand : List Char → Read Operand) (r : Reading) (text : List Char) :
    Read (List Condition) :=
  r.readPieces .condition (readConditionWith readOperand r) (splitConditions text)

/-- An operand with selectors nested at most to a depth. At depth zero no selector is met. -/
def readOperandWithin (r : Reading) : (depth : Nat) → List Char → Read Operand
  | 0 => readOperandWith (fun _ => pure []) r
  | depth + 1 => readOperandWith (readConditionsWith (readOperandWithin r depth) r) r

/-- The operand a text writes. -/
def readOperand (r : Reading) (text : List Char) : Read Operand :=
  readOperandWithin r (text.count '(') text

/-- The condition a text writes, if it has the form of one. -/
def readCondition (r : Reading) (text : List Char) : Read (Option Condition) :=
  readConditionWith (readOperandWithin r (text.count '(')) r text

/-- The conditions a text writes. -/
def readConditions (r : Reading) (text : List Char) : Read (List Condition) :=
  readConditionsWith (readOperandWithin r (text.count '(')) r text

end Cascade
