import Cascade.Resilience.Breaker
import Cascade.Value

/-!
# Breakers by name

All callers of a service share one breaker, which is found by name. A registry holds breakers in the
order in which they were asked for first; the settings of a breaker are those of that first time.

As data, a breaker that has not failed yet is shown with a last failure at time zero.
-/

namespace Cascade

/-- A breaker as data. -/
def Breaker.toValue (b : Breaker Float) : Value :=
  .object [("name", .str b.name), ("state", .str b.state.word), ("failure_count", .int b.failures),
    ("last_failure_time", .float (b.lastFailure.getD 0.0)), ("failure_threshold", .int b.threshold),
    ("recovery_timeout", .float b.timeout), ("is_open", .bool b.isOpen)]

/-- Breakers, oldest first; no name occurs twice. -/
abbrev Registry (τ : Type) := List (Breaker τ)

namespace Registry

variable {τ : Type}

/-- The breaker with a name. -/
def get? (r : Registry τ) (name : String) : Option (Breaker τ) := r.find? (·.name = name)

/-- The breaker with the name of a fresh one: the one in the registry, or the fresh one. -/
def getOr (r : Registry τ) (fresh : Breaker τ) : Breaker τ := (r.get? fresh.name).getD fresh

/-- The registry with a breaker put in the place of the one with its name, or at the end. -/
def put : Registry τ → Breaker τ → Registry τ
  | [], b => [b]
  | c :: rest, b => if c.name = b.name then b :: rest else c :: put rest b

/-- The registry with every breaker as it was at first. -/
def resetAll (r : Registry τ) : Registry τ := r.map Breaker.reset

theorem get?_put_self (r : Registry τ) (b : Breaker τ) : (r.put b).get? b.name = some b := by
  induction r with
  | nil => simp [put, get?]
  | cons c rest ih =>
    unfold put
    split
    · simp [get?]
    · next h => simpa [get?, h] using ih

theorem get?_put_of_ne (r : Registry τ) {b : Breaker τ} {name : String} (h : name ≠ b.name) :
    (r.put b).get? name = r.get? name := by
  induction r with
  | nil => simp [put, get?, Ne.symm h]
  | cons c rest ih =>
    unfold put
    split
    · next hc => simp [get?, hc, Ne.symm h]
    · simp only [get?, List.find?_cons] at ih ⊢
      split <;> simp_all

end Registry

end Cascade
