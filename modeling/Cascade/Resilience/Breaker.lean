/-!
# Circuit breakers

A breaker counts failures in a row. Once there are as many as its threshold it opens, and calls are
refused until the recovery timeout has passed since the last failure. Then calls are let through
again, half open: the first success closes the breaker, a failure opens it anew.

The clock is a parameter of every transition, and its type is a parameter of the breaker. Admission
and completion of a call are transitions of their own, so calls may overlap.
-/

namespace Cascade

/-- The states of a breaker. -/
inductive BreakerState where
  | closed
  | opened
  | halfOpen
  deriving Repr, DecidableEq, Inhabited

/-- A state by name. -/
def BreakerState.word : BreakerState → String
  | .closed => "closed"
  | .opened => "open"
  | .halfOpen => "half_open"

/-- A breaker over a clock. -/
structure Breaker (τ : Type) where
  name : String
  /-- The number of failures in a row that open the breaker. -/
  threshold : Int
  /-- The time for which an open breaker refuses calls. -/
  timeout : τ
  state : BreakerState := .closed
  /-- The failures since the last success. -/
  failures : Nat := 0
  /-- The time of the last failure, if there was one since the last reset. -/
  lastFailure : Option τ := none
  deriving Repr, DecidableEq

namespace Breaker

variable {τ : Type}

/-- Whether the breaker is open. -/
def isOpen (b : Breaker τ) : Bool := b.state == .opened

/-- Whether the timeout has passed since the last failure. -/
def isDue [Sub τ] [LE τ] [DecidableLE τ] (b : Breaker τ) (now : τ) : Bool :=
  match b.lastFailure with
  | some time => b.timeout ≤ now - time
  | none => true

/-- The breaker after a call has been let through; `none` if the call is refused. -/
def permit [Sub τ] [LE τ] [DecidableLE τ] (b : Breaker τ) (now : τ) : Option (Breaker τ) :=
  if b.isOpen then
    if b.isDue now then some { b with state := .halfOpen } else none
  else some b

/-- The breaker after a call has succeeded. -/
def succeed (b : Breaker τ) : Breaker τ := { b with state := .closed, failures := 0 }

/-- The breaker after a call has failed. -/
def fail (b : Breaker τ) (now : τ) : Breaker τ :=
  let failures := b.failures + 1
  let state := if b.threshold ≤ failures then .opened else b.state
  { b with state, failures, lastFailure := some now }

/-- The breaker as it was at first. -/
def reset (b : Breaker τ) : Breaker τ :=
  { b with state := .closed, failures := 0, lastFailure := none }

/-- What a refused caller is told. -/
def refusal (b : Breaker τ) : String :=
  "Circuit breaker '" ++ b.name ++ "' is OPEN - blocking call"

@[simp] theorem failures_succeed (b : Breaker τ) : b.succeed.failures = 0 := rfl

@[simp] theorem state_succeed (b : Breaker τ) : b.succeed.state = .closed := rfl

@[simp] theorem failures_fail (b : Breaker τ) (now : τ) :
    (b.fail now).failures = b.failures + 1 := rfl

@[simp] theorem lastFailure_fail (b : Breaker τ) (now : τ) :
    (b.fail now).lastFailure = some now := rfl

@[simp] theorem failures_reset (b : Breaker τ) : b.reset.failures = 0 := rfl

@[simp] theorem state_reset (b : Breaker τ) : b.reset.state = .closed := rfl

/-- A call is refused exactly while the breaker is open and its timeout has not passed. -/
theorem permit_eq_none_iff [Sub τ] [LE τ] [DecidableLE τ] (b : Breaker τ) (now : τ) :
    b.permit now = none ↔ b.isOpen = true ∧ b.isDue now = false := by
  unfold permit
  cases b.isOpen <;> cases b.isDue now <;> simp

/-- Letting a call through leaves the count of failures alone. -/
theorem failures_of_permit [Sub τ] [LE τ] [DecidableLE τ] {b c : Breaker τ} {now : τ}
    (h : b.permit now = some c) : c.failures = b.failures := by
  unfold permit at h
  split at h
  · split at h
    · cases h
      rfl
    · cases h
  · cases h
    rfl

end Breaker

end Cascade
