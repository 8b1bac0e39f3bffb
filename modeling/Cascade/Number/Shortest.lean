import Cascade.Number.Binary64

/-!
# The shortest decimal that reads back

Every real number in a small interval around a double rounds to that double. Of the decimals in this
interval `Binary64.shortest` takes one with the fewest digits, and of those the one nearest to the
double; when two are equally near, the even one. The search tries the decimal grids with one digit,
two digits and so on: on each grid only the two neighbours of the double can be candidates.
-/

namespace Cascade

/-- The number `digits · 10 ^ exponent`. -/
structure Decimal where
  digits : Nat
  exponent : Int
  deriving Repr, DecidableEq

/-- The same number without zeros at the end of its digits. -/
def Decimal.normalize (fuel : Nat) (d : Decimal) : Decimal :=
  match fuel with
  | 0 => d
  | fuel + 1 =>
    if d.digits ≠ 0 ∧ d.digits % 10 = 0 then normalize fuel ⟨d.digits / 10, d.exponent + 1⟩ else d

namespace Binary64

/-- The position of the decimal point before the first digit: `10 ^ (k - 1) ≤ value < 10 ^ k`. -/
def pointPosition (b : Binary64) : Int :=
  let scaled := b.mantissa * Nat.pow 10 400
  let whole :=
    if 0 ≤ b.exponent then scaled * Nat.pow 2 b.exponent.toNat
    else scaled / Nat.pow 2 (-b.exponent).toNat
  (Nat.toDigits 10 whole).length - 400

/-- The candidate on the grid of multiples of `10 ^ place`, if one of the double's two neighbours on
that grid rounds to the double. All quantities are counted in quarters of the last place of the
mantissa; the gap below a power of two is half as wide as the one above. -/
def onGrid? (b : Binary64) (place : Int) : Option Nat :=
  let isPower := b.mantissa = Nat.pow 2 52 ∧ b.exponent ≠ -1074
  let factor := Nat.pow 2 (b.exponent - 2).toNat * Nat.pow 10 (-place).toNat
  let grid := Nat.pow 10 place.toNat * Nat.pow 2 (2 - b.exponent).toNat
  let value := 4 * b.mantissa * factor
  let low := (4 * b.mantissa - if isPower then 1 else 2) * factor
  let high := (4 * b.mantissa + 2) * factor
  let endsIncluded := b.mantissa % 2 = 0
  let below := value / grid
  let above := below + 1
  let belowFits := if endsIncluded then low ≤ below * grid else low < below * grid
  let aboveFits := if endsIncluded then above * grid ≤ high else above * grid < high
  let toBelow := value - below * grid
  let toAbove := above * grid - value
  if belowFits ∧ aboveFits then
    if toBelow < toAbove ∨ (toBelow = toAbove ∧ below % 2 = 0) then some below else some above
  else if belowFits then some below
  else if aboveFits then some above
  else none

/-- The shortest candidate with at least `count` digits; `fuel` further digits may be tried. -/
def shortestFrom (b : Binary64) (point : Int) : (fuel count : Nat) → Decimal
  | 0, count => ⟨(b.onGrid? (point - count)).getD 0, point - count⟩
  | fuel + 1, count =>
    match b.onGrid? (point - count) with
    | some digits => ⟨digits, point - count⟩
    | none => shortestFrom b point fuel (count + 1)

/-- The shortest decimal that reads back as the magnitude of the double. Seventeen digits always
suffice. -/
def shortest (b : Binary64) : Decimal :=
  if b.mantissa = 0 then ⟨0, 0⟩
  else (shortestFrom b b.pointPosition 17 1).normalize 20

end Binary64

end Cascade
