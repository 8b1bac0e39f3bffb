/-!
# Binary floating point, taken apart

A finite double is `± mantissa · 2 ^ exponent`. `Float.parts` reads the three off its bits, so that
the questions the program asks of a float (is it whole, which whole number is it, which reals round
to it) are questions about natural numbers.
-/

namespace Cascade

/-- A finite double: `mantissa · 2 ^ exponent`, negated when `negative`. -/
structure Binary64 where
  /-- The sign bit; zero has both signs. -/
  negative : Bool
  mantissa : Nat
  exponent : Int
  deriving Repr, DecidableEq

/-- What the bits of a double say. -/
inductive FloatParts where
  | finite (value : Binary64)
  | infinite (negative : Bool)
  | nan
  deriving Repr, DecidableEq

/-- The parts of a double. Subnormal numbers share the least exponent and have no hidden bit. -/
def floatParts (f : Float) : FloatParts :=
  let bits := f.toBits.toNat
  let negative := bits / Nat.pow 2 63 == 1
  let field : Nat := bits / Nat.pow 2 52 % Nat.pow 2 11
  let fraction : Nat := bits % Nat.pow 2 52
  if field = 2047 then if fraction = 0 then .infinite negative else .nan
  else if field = 0 then .finite ⟨negative, fraction, -1074⟩
  else .finite ⟨negative, fraction + Nat.pow 2 52, (field : Int) - 1075⟩

namespace Binary64

/-- Whether the number is whole. -/
def isWhole (b : Binary64) : Bool :=
  0 ≤ b.exponent || b.mantissa % Nat.pow 2 (-b.exponent).toNat == 0

/-- The number with its fraction cut off. -/
def truncate (b : Binary64) : Int :=
  let magnitude : Nat :=
    if 0 ≤ b.exponent then b.mantissa * Nat.pow 2 b.exponent.toNat
    else b.mantissa / Nat.pow 2 (-b.exponent).toNat
  if b.negative then -(magnitude : Int) else magnitude

end Binary64

/-- The whole number a double is equal to, if there is one. -/
def wholeFloat? (f : Float) : Option Int :=
  match floatParts f with
  | .finite b => if b.isWhole then some b.truncate else none
  | _ => none

end Cascade
