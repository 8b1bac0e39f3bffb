import Cascade.Text.Case
import Cascade.Text.Word
import Cascade.Text.Blank

/-!
# Comparing characters without regard to case

Two characters are alike when their lower-case forms are equal or share an upper-case form. The
second possibility is a short list of classes. In ASCII mode only the ASCII letters have a case.
-/

namespace Cascade.Pattern

/-- How much of letter case a comparison overlooks. -/
inductive Folding where
  /-- Nothing: characters are compared as they are. -/
  | exact
  /-- The case of ASCII letters. -/
  | ascii
  /-- The case of all letters. -/
  | unicode
  deriving Repr, DecidableEq

/-- Lower-case characters with one upper-case form. -/
def sharedUpper : List (List Nat) := [
  [0x69, 0x131], [0x73, 0x17F], [0xB5, 0x3BC], [0x345, 0x3B9, 0x1FBE], [0x390, 0x1FD3],
  [0x3B0, 0x1FE3], [0x3B2, 0x3D0], [0x3B5, 0x3F5], [0x3B8, 0x3D1], [0x3BA, 0x3F0], [0x3C0, 0x3D6],
  [0x3C1, 0x3F1], [0x3C2, 0x3C3], [0x3C6, 0x3D5], [0x432, 0x1C80], [0x434, 0x1C81],
  [0x43E, 0x1C82], [0x441, 0x1C83], [0x442, 0x1C84, 0x1C85], [0x44A, 0x1C86], [0x463, 0x1C87],
  [0x1C88, 0xA64B], [0x1E61, 0x1E9B], [0xFB05, 0xFB06]]

/-- The lower-case forms that count as the form `n`. -/
def alike (n : Nat) : List Nat := (sharedUpper.find? (·.contains n)).getD [n]

/-- The lower-case form of an ASCII letter; other code points stay. -/
def lowerAscii (n : Nat) : Nat := if 65 ≤ n ∧ n ≤ 90 then n + 32 else n

/-- The simple lower-case form of a code point. -/
def lowerPoint (n : Nat) : Nat := if n < 128 then lowerAscii n else Text.lowerRuns.map n

/-- The form of a code point under which characters are compared. -/
def Folding.fold : Folding → Nat → Nat
  | .exact, n => n
  | .ascii, n => lowerAscii n
  | .unicode, n => lowerPoint n

/-- Whether the folded code point `n` is matched by an item that lists the code point `m`. -/
def Folding.same (f : Folding) (n m : Nat) : Bool :=
  match f with
  | .unicode => (alike (lowerPoint m)).contains n
  | f => f.fold m == n

/-- Whether the folded code point `n` is matched by an item that lists all code points from `low`
to `high`: some of them folds to `n` or to a form that counts as `n`. -/
def Folding.inRange (f : Folding) (n low high : Nat) : Bool :=
  let within (m : Nat) : Bool := low ≤ m && m ≤ high
  match f with
  | .exact => within n
  | .ascii => within n && lowerAscii n == n || (97 ≤ n && n ≤ 122 && within (n - 32))
  | .unicode =>
    (alike n).any fun l =>
      (lowerPoint l == l && within l) || (Text.lowerRuns.preimages l).any within

end Cascade.Pattern
