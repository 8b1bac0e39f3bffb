import Cascade.Text.Letter

/-!
# Why a pattern cannot be used

Most faults are malformed texts, reported with the place where reading stopped; the place is given
by line and column too when the pattern has several lines. The others are refusals: the text is
well formed, but asks for a repetition count beyond all bounds or for both character modes at once.
How deep groups may be nested is not bounded.
-/

namespace Cascade.Pattern

/-- Why a well-formed pattern is refused. -/
inductive Refusal where
  /-- A repetition count is too large to be represented. -/
  | repetitionTooLarge
  /-- A repetition count has more digits than are converted. -/
  | tooManyDigits
  /-- ASCII and Unicode classes are both asked for. -/
  | conflictingModes
  deriving Repr, DecidableEq

/-- A fault of a pattern. -/
inductive Fault where
  /-- The text is no pattern; `position` is where that showed. -/
  | malformed (reason : Text) (position : Option Nat)
  | refused (refusal : Refusal)
  deriving Repr, DecidableEq

/-- The line and the column, both counted from one, of a place in a text. -/
def lineAndColumn (text : Text) (position : Nat) : Nat × Nat :=
  let before := text.letters.take position
  (before.count (.char '\n') + 1, (before.reverse.takeWhile (· != .char '\n')).length + 1)

/-- The description of a malformed pattern. -/
def malformedText (pattern reason : Text) : Option Nat → Text
  | none => reason
  | some position =>
    let place := reason ++ s!" at position {position}"
    if pattern.letters.contains (.char '\n') then
      let (line, column) := lineAndColumn pattern position
      place ++ s!" (line {line}, column {column})"
    else place

end Cascade.Pattern
