import Cascade.Resilience.Backoff
import Cascade.Resilience.Registry
import Cascade.Resilience.Retry
import Cascade.Service.Fault
import Cascade.Tracker.Exchange

/-!
# Calls to the tracker

A call is one or more requests: a request that is lost is made again, as often as the policy allows.
Every call goes through the breaker of the tracker, which counts it as one success or one failure,
however many requests it took; a call that the breaker refuses makes none.

A response with the status of an error, lost requests and a refusal are failures of the tracker and
are reported as such. Other failures leave the call as they are (`Escape`).

Requests and waits take time. The breaker is asked at the time of the call, and a failure is counted
at the time at which it is known.
-/

namespace Cascade.Tracker

/-- What calls leave behind: the requests that were made, the waits, and the state of the
breakers. -/
structure Session where
  clock : Float
  breakers : Registry Float := []
  /-- The requests, oldest first. -/
  requests : List Request := []
  /-- The waits, in seconds, oldest first. -/
  waits : List Float := []

/-- What surrounds a session. -/
structure Surroundings where
  transport : Transport
  /-- The place, between zero and one, that spread waits take. -/
  spread : Float := 0.5
  /-- The seconds that a request takes, in view of all requests before it. -/
  requestTime : List Request → Request → Float := fun _ _ => 0.0
  /-- The seconds that a wait takes that is to take so many. -/
  waitTime : Float → Float := fun _ => 0.0

/-- Why a request is not served. -/
inductive RequestFailure where
  /-- The response has the status of an error. -/
  | status (code : Int)
  | disconnected (message : String)
  | broken (mishap : Mishap)
  deriving Repr, DecidableEq

/-- Whether a request may be served when it is made again. -/
def RequestFailure.isPassing : RequestFailure → Bool
  | .disconnected _ => true
  | _ => false

/-- A failure that is none of the tracker. -/
inductive Escape where
  | mishap (mishap : Mishap)
  | noDelay (fault : PowerFault)
  deriving Repr, DecidableEq

/-- Why a call fails. -/
inductive CallFailure where
  | reported (fault : Fault)
  | escaped (escape : Escape)

/-- The name of the tracker, which is that of its breaker, too. -/
def name : String := "azure_devops"

/-- How calls are made. -/
structure CallSettings where
  maxAttempts : Int := 3
  backoff : Backoff := { cap := 10.0 }
  /-- The breaker as it is if there is none yet. -/
  breaker : Breaker Float := { name, threshold := 5, timeout := 60.0 }

/-- The step that makes a request. -/
def makeRequest (around : Surroundings) (r : Request) :
    StateM Session (Except RequestFailure Response) := do
  let session ← get
  set { session with
    clock := session.clock + around.requestTime session.requests r
    requests := session.requests ++ [r] }
  match around.transport session.requests r with
  | .answered response =>
    return if response.isSuccess then .ok response else .error (.status response.status)
  | .disconnected message => return .error (.disconnected message)
  | .broken mishap => return .error (.broken mishap)

/-- The step that waits. -/
def wait (around : Surroundings) (seconds : Float) : StateM Session Unit :=
  modify fun session => { session with
    clock := session.clock + around.waitTime seconds
    waits := session.waits ++ [seconds] }

/-- The policy by which requests are made again. -/
def CallSettings.policy (s : CallSettings) (around : Surroundings) :
    RetryPolicy RequestFailure PowerFault Float where
  maxAttempts := s.maxAttempts
  isPassing := RequestFailure.isPassing
  delay attempt := s.backoff.delay around.spread attempt

/-- Puts a breaker in its place. -/
def keepBreaker (b : Breaker Float) : StateM Session Unit :=
  modify fun session => { session with breakers := session.breakers.put b }

/-- A failure of the tracker. -/
def failure (message : Text) (details : Entries) : CallFailure :=
  .reported (.externalService name message details)

/-- The words of a failed request. -/
def RequestFailure.message : RequestFailure → String
  | .status code => intText code
  | .disconnected message => message
  | .broken mishap => mishap.message

/-- What a failed call is reported as. -/
def callFailure (r : Request) : RetryFailure RequestFailure PowerFault → CallFailure
  | .permanent (.status code) =>
    failure (r.verb.word ++ " " ++ r.url ++ s!" returned {intText code}")
      [("url", .str r.url), ("status_code", .int code)]
  | .permanent (.broken mishap) => .escaped (.mishap mishap)
  | .permanent (.disconnected message) => exhausted 1 message
  | .exhausted attempts last => exhausted attempts last.message
  | .notAttempted => exhausted 0 noAttemptAllowed
  | .noDelay fault => .escaped (.noDelay fault)
where
  /-- All attempts have failed, the last one with these words. -/
  exhausted (attempts : Nat) (message : String) : CallFailure :=
    failure (r.verb.word ++ " " ++ r.url ++ s!" failed after {attempts} attempts")
      [("url", .str r.url), ("error", .str message)]

/-- Makes a call. -/
def call (settings : CallSettings) (around : Surroundings) (r : Request) :
    StateM Session (Except CallFailure Response) := do
  let session ← get
  let breaker := session.breakers.getOr settings.breaker
  match breaker.permit session.clock with
  | none => return .error (failure breaker.refusal [("url", .str r.url)])
  | some admitted =>
    keepBreaker admitted
    match ← retry (settings.policy around) (wait around) (makeRequest around r) with
    | .ok response =>
      keepBreaker admitted.succeed
      return .ok response
    | .error e =>
      keepBreaker (admitted.fail (← get).clock)
      return .error (callFailure r e)

end Cascade.Tracker
