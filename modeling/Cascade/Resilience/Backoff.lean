import Cascade.Number.Power

/-!
# Waiting between attempts

The time to wait grows with the number of attempts, by a strategy, up to a cap. To keep callers from
coming back all at once it is then spread by up to a tenth in either direction, at the place `u`
between the two ends. It is never negative.
-/

namespace Cascade

/-- How the wait grows from attempt to attempt. -/
inductive Growth where
  | exponential
  | linear
  | constant
  deriving Repr, DecidableEq, Inhabited

/-- The growth a word names; any other word stands for no growth. -/
def Growth.ofWord : String → Growth
  | "exponential" => .exponential
  | "linear" => .linear
  | _ => .constant

/-- The settings of the wait. -/
structure Backoff where
  /-- The wait after the first attempt. -/
  base : Float := 1.0
  /-- The longest wait, before spreading. -/
  cap : Float := 60.0
  /-- What exponential growth multiplies by. -/
  factor : Float := 2.0
  growth : Growth := .exponential
  /-- Whether the wait is spread. -/
  spread : Bool := true

namespace Backoff

/-- The lesser of two numbers, the first one if they do not compare. -/
def lesser (a b : Float) : Float := if b < a then b else a

/-- The wait after an attempt, without cap and spreading. -/
def growthAt (b : Backoff) (attempt : Int) : Except PowerFault Float :=
  match b.growth with
  | .exponential => (floatPower b.factor (attempt - 1)).map (b.base * ·)
  | .linear =>
    let n := floatOfInt attempt
    if n.isInf then .error .overflow else .ok (b.base * n)
  | .constant => .ok b.base

/-- A wait spread by a tenth, at the place `u`. -/
def spreadAt (wait u : Float) : Float :=
  let tenth := wait * 0.1
  wait + (-tenth + (tenth - -tenth) * u)

/-- A number, or zero if it is not positive. -/
def atLeastZero (wait : Float) : Float := if 0.0 < wait then wait else 0.0

/-- The wait after an attempt. -/
def delay (b : Backoff) (u : Float) (attempt : Int) : Except PowerFault Float :=
  (b.growthAt attempt).map fun wait =>
    let capped := lesser wait b.cap
    atLeastZero (if b.spread then spreadAt capped u else capped)

end Backoff

end Cascade
