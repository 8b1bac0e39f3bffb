import Cascade.Number.Reading

/-!
# Whole powers of a double

`floatPower b n` is the double nearest to `b ^ n`. The power is computed in natural numbers and
rounded once. Two things have no result: a power of zero with a negative exponent, and a power of a
finite number that lies beyond the doubles; a power that is too small is zero.
-/

namespace Cascade

/-- Why a power has no result. -/
inductive PowerFault where
  | overflow
  | negativePowerOfZero
  deriving Repr, DecidableEq

/-- A zero with a sign. -/
def signedZero (negative : Bool) : Float := packFloat negative 0 (-1074)

/-- An infinity with a sign. -/
def signedInfinity (negative : Bool) : Float := packFloat negative (Nat.pow 2 52) 972

/-- The power of a finite number other than zero, the exponent being `k` or, when `inverse`, `-k`.
The magnitude of the number lies between `2 ^ (top - 1)` and `2 ^ top`, which settles the powers
that are far out of range. -/
def finitePower (b : Binary64) (inverse : Bool) (k : Nat) : Except PowerFault Float :=
  let negative := b.negative && k % 2 == 1
  let top : Int := b.mantissa.log2 + 1 + b.exponent
  let least : Int := if inverse then -(top * k) else (top - 1) * k
  let greatest : Int := if inverse then -((top - 1) * k) else top * k
  if b.mantissa = Nat.pow 2 52 ∧ b.exponent = -52 then .ok (if negative then -1.0 else 1.0)
  else if 1024 ≤ least then .error .overflow
  else if greatest < -1080 then .ok (signedZero negative)
  else
    let scale : Int := b.exponent * k
    let above := Nat.pow b.mantissa k * Nat.pow 2 scale.toNat
    let below := Nat.pow 2 (-scale).toNat
    let power := if inverse then nearestFloat negative below above
      else nearestFloat negative above below
    if power.isInf then .error .overflow else .ok power

/-- A whole power of a double. -/
def floatPower (base : Float) (n : Int) : Except PowerFault Float :=
  let odd := n.natAbs % 2 == 1
  if n = 0 then .ok 1.0
  else
    match floatParts base with
    | .nan => .ok base
    | .infinite negative =>
      .ok (if n < 0 then signedZero (negative && odd) else signedInfinity (negative && odd))
    | .finite b =>
      if b.mantissa = 0 then
        if n < 0 then .error .negativePowerOfZero else .ok (signedZero (b.negative && odd))
      else finitePower b (n < 0) n.natAbs

end Cascade
