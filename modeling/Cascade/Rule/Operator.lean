import Cascade.Rule.Basic
import Cascade.Rule.Nesting
import Cascade.Text.Blank
import Cascade.Text.Search
import Cascade.Text.Word

/-!
# Finding the operator of a condition

The operator of a condition is the leftmost comparison at top level that stands as words of its own:
no word character precedes or follows it. Between the words of one comparison any white space may
stand. Where several comparisons begin, the longer spelling wins.
-/

namespace Cascade

/-- A condition's text cut at its operator. -/
structure OperatorMatch where
  before : List Char
  comparison : Comparison
  /-- The operator as it stands in the text. -/
  written : List Char
  after : List Char
  deriving Repr, DecidableEq

/-- The text behind words with white space between them. -/
def afterWords? : List (List Char) → List Char → Option (List Char)
  | [], text => some text
  | [word], text => Text.after? word text
  | word :: words, text =>
    match Text.after? word text with
    | some (c :: rest) => if Text.isBlank c then afterWords? words (Text.trimStart rest) else none
    | _ => none

/-- Whether a text does not go on with a word character. -/
def endsWord (text : List Char) : Bool := !(text.head?.map Text.isWord).getD false

/-- The comparison that begins here and ends with its word. -/
def comparisonAt? (text : List Char) : Option (Comparison × List Char) :=
  Comparison.all.findSome? fun c =>
    match afterWords? (c.words.map String.toList) text with
    | some rest => if endsWord rest then some (c, rest) else none
    | none => none

/-- The operator of a text whose scan is in a state; `last` is the character before the text. -/
def findOperatorFrom (n : Nesting) (last : Option Char) : List Char → Option OperatorMatch
  | [] => none
  | c :: rest =>
    let later := (findOperatorFrom (n.step c) (some c) rest).map fun m =>
      { m with before := c :: m.before }
    if n.isTopLevel c && !(last.map Text.isWord).getD false then
      match comparisonAt? (c :: rest) with
      | some (comparison, after) =>
        some ⟨[], comparison, (c :: rest).take ((c :: rest).length - after.length), after⟩
      | none => later
    else later

/-- The operator of a condition. -/
def findOperator (text : List Char) : Option OperatorMatch := findOperatorFrom .outside none text

end Cascade
