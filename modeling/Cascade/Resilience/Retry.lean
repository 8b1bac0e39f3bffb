/-!
# Trying again

A call that fails for a passing reason is tried again, up to a number of attempts, with a wait
between them. Failures of any other kind end it at once.

The call and the wait are steps on some state; nothing is assumed of them.
-/

namespace Cascade

/-- What decides whether and when a call is tried again. -/
structure RetryPolicy (ε φ δ : Type) where
  maxAttempts : Int
  /-- Whether a failure is passing. -/
  isPassing : ε → Bool
  /-- The wait after an attempt, or why there is none. -/
  delay : Nat → Except φ δ

/-- How a call that is tried again fails. -/
inductive RetryFailure (ε φ : Type) where
  /-- A failure that is not passing. -/
  | permanent (error : ε)
  /-- As many passing failures as there are attempts. -/
  | exhausted (attempts : Nat) (last : ε)
  /-- No attempt was allowed. -/
  | notAttempted
  /-- The wait could not be computed. -/
  | noDelay (fault : φ)
  deriving Repr, DecidableEq

section

variable {σ ε φ δ α : Type}

/-- Makes attempts as long as some are left, the first of them being number `attempt`. -/
def retryFrom (policy : RetryPolicy ε φ δ) (sleep : δ → StateM σ Unit)
    (call : StateM σ (Except ε α)) :
    (left attempt : Nat) → StateM σ (Except (RetryFailure ε φ) α)
  | 0, _ => pure (.error .notAttempted)
  | left + 1, attempt => do
    match ← call with
    | .ok a => return .ok a
    | .error e =>
      if !policy.isPassing e then return .error (.permanent e)
      else if left = 0 then return .error (.exhausted attempt e)
      else
        match policy.delay attempt with
        | .error f => return .error (.noDelay f)
        | .ok d =>
          sleep d
          retryFrom policy sleep call left (attempt + 1)

/-- Makes a call, trying again by a policy. -/
def retry (policy : RetryPolicy ε φ δ) (sleep : δ → StateM σ Unit)
    (call : StateM σ (Except ε α)) : StateM σ (Except (RetryFailure ε φ) α) :=
  retryFrom policy sleep call policy.maxAttempts.toNat 1

end

/-- What is said of a policy that allows no attempt. -/
def noAttemptAllowed : String := "max_attempts must be at least 1"

end Cascade
