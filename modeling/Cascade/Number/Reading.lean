import Cascade.Number.Binary64

/-!
# Reading numbers

`nearestFloat` rounds a fraction of natural numbers to the nearest double, a tie going to the even
mantissa; it works on natural numbers throughout, so that no digit of a long decimal is lost. Below
the normal range the mantissa loses bits, above it the result is infinite.
-/

namespace Cascade

/-- The double with this sign bit, mantissa and exponent, the mantissa having at most 53 bits and
all of them unless the exponent is the least one. -/
def packFloat (negative : Bool) (mantissa : Nat) (exponent : Int) : Float :=
  let magnitude : Nat :=
    if mantissa < Nat.pow 2 52 then mantissa
    else if exponent > 971 then 2047 * Nat.pow 2 52
    else (exponent + 1075).toNat * Nat.pow 2 52 + (mantissa - Nat.pow 2 52)
  Float.ofBits (UInt64.ofNat (magnitude + if negative then Nat.pow 2 63 else 0))

/-- The double nearest to `num / den`. -/
def nearestFloat (negative : Bool) (num den : Nat) : Float :=
  if num = 0 then packFloat negative 0 (-1074)
  else
    let quotient (e : Int) : Nat × Nat :=
      let n := num * Nat.pow 2 (-e).toNat
      let d := den * Nat.pow 2 e.toNat
      (n, d)
    let guess : Int := (num.log2 : Int) - den.log2 - 52
    let start := if (quotient guess).1 / (quotient guess).2 < Nat.pow 2 52 then guess - 1 else guess
    let exponent := max start (-1074)
    let (n, d) := quotient exponent
    let below := n / d
    let rest := n % d
    let rounded :=
      if 2 * rest > d ∨ (2 * rest = d ∧ below % 2 = 1) then below + 1 else below
    if rounded = Nat.pow 2 53 then packFloat negative (Nat.pow 2 52) (exponent + 1)
    else packFloat negative rounded exponent

/-- The double nearest to `digits · 10 ^ exponent`. Exponents far outside the range of doubles are
settled without computing the power. -/
def decimalFloat (negative : Bool) (digits : Nat) (exponent : Int) : Float :=
  let size := (Nat.toDigits 10 digits).length + exponent
  if digits = 0 ∨ size < -400 then packFloat negative 0 (-1074)
  else if size > 400 then packFloat negative (Nat.pow 2 52) 972
  else nearestFloat negative (digits * Nat.pow 10 exponent.toNat) (Nat.pow 10 (-exponent).toNat)

/-- The double nearest to a whole number. -/
def floatOfInt (i : Int) : Float := nearestFloat (i < 0) i.natAbs 1

/-- The number that ASCII digits write. -/
def digitsValue (digits : List Char) : Nat :=
  digits.foldl (fun n c => n * 10 + (c.toNat - 48)) 0

end Cascade
