import Cascade.Pattern.Fold
import Cascade.Text.Letter

/-!
# Patterns

The regular expressions that `matches` conditions use, as syntax trees. All modes (letter case, the
meaning of the dot, of the anchors and of the classes) are settled when a pattern is read, so that a
tree means the same wherever it stands.

Half of a surrogate pair is a code point like any other, except that it belongs to no named class.
-/

namespace Cascade.Pattern

/-- The named classes of characters. -/
inductive CharClass where
  | digit
  | space
  | word
  deriving Repr, DecidableEq

/-- An item of a character set. -/
inductive SetItem where
  | single (point : Nat)
  | range (low high : Nat)
  | named (cls : CharClass) (ascii : Bool) (negated : Bool)
  deriving Repr, DecidableEq

/-- A set of code points: those that some item lists, or the others when negated. -/
structure CharSet where
  negated : Bool := false
  items : List SetItem
  folding : Folding := .exact
  deriving Repr, DecidableEq

/-- A condition on a place in a text. -/
inductive Anchor where
  | textStart
  | lineStart
  /-- The end, or the place before a line feed that ends the text. -/
  | lastLineEnd
  | lineEnd
  | textEnd
  | boundary (ascii : Bool)
  | noBoundary (ascii : Bool)
  deriving Repr, DecidableEq

/-- Which number of repetitions is tried first, and whether others are tried at all. -/
inductive RepeatKind where
  | greedy
  | lazy
  | possessive
  deriving Repr, DecidableEq

/-- A pattern or a part of one. -/
inductive Node where
  /-- One code point of a set. -/
  | one (set : CharSet)
  | anchor (place : Anchor)
  | sequence (parts : List Node)
  | choice (alternatives : List Node)
  /-- At least `least` and at most `most` repetitions. -/
  | repeated (kind : RepeatKind) (least : Nat) (most : Option Nat) (body : Node)
  /-- A group that remembers what it matched. -/
  | capture (index : Nat) (body : Node)
  /-- A group that is not entered again once it has matched. -/
  | atomic (body : Node)
  /-- A condition on what follows (`ahead`) or on the `width` characters that precede. -/
  | look (ahead : Bool) (negated : Bool) (width : Nat) (body : Node)
  /-- What a group matched, once more. -/
  | recall (group : Nat) (folding : Folding)
  /-- One part if a group has matched, another if it has not. -/
  | ifCaptured (group : Nat) (yes no : Node)
  deriving Repr, Inhabited

/-- Whether a character belongs to a class, or to the part of it that is ASCII. -/
def CharClass.holds (cls : CharClass) (ascii : Bool) (c : Char) : Bool :=
  if ascii then
    c.toNat < 128 &&
      match cls with
      | .digit => c.isDigit
      | .space => c == ' ' || (9 ≤ c.toNat && c.toNat ≤ 13)
      | .word => Text.isAsciiWord c
  else
    match cls with
    | .digit => Text.isDecimal c
    | .space => Text.isBlank c
    | .word => Text.isWord c

/-- Whether a set item lists a code point, given in folded form. -/
def SetItem.holds (folding : Folding) (folded : Nat) : SetItem → Bool
  | .single point => folding.same folded point
  | .range low high => folding.inRange folded low high
  | .named cls ascii negated =>
    (Letter.ofPoint? folded).any (·.isIn (cls.holds ascii)) != negated

/-- Whether a set holds a code point. -/
def CharSet.holds (set : CharSet) (l : Letter) : Bool :=
  set.items.any (·.holds set.folding (set.folding.fold l.point)) != set.negated

/-- The set of one code point. -/
def CharSet.just (point : Nat) (folding : Folding := .exact) : CharSet :=
  { items := [.single point], folding }

end Cascade.Pattern
