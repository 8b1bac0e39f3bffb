import Cascade.Json.Body
import Cascade.Service.Settings
import Cascade.Text.Digits
import Cascade.Tracker.Call
import Cascade.Update.Dispatch
import Cascade.WorkItem.Hook

/-!
# Work items and rules from the tracker

A client reads work items and rule texts and writes batches of updates, all by calls. A work item
that the tracker does not give, or that is not valid, counts as absent; so the children that are
found are those that could be had, in the order of their links.
-/

namespace Cascade.Tracker

/-- Access to the tracker. -/
structure Client where
  token : String
  apiVersion : String
  /-- The longest time that a request may take, in seconds. -/
  timeout : Float
  calls : CallSettings
  around : Surroundings

namespace Client

/-- The client that settings describe. -/
def ofSettings (s : Settings) (token : String) (around : Surroundings) : Client where
  token := token
  apiVersion := s.apiVersion
  timeout := s.timeout
  calls := {
    maxAttempts := s.maxAttempts
    backoff := { base := s.retryDelay, cap := 10.0 }
    breaker := { name, threshold := s.failureThreshold, timeout := s.recoveryTimeout } }
  around := around

/-- Makes sure that the breaker of the client exists. -/
def connect (c : Client) : StateM Session Unit :=
  modify fun session =>
    { session with breakers := session.breakers.put (session.breakers.getOr c.calls.breaker) }

/-- The header by which the client proves itself. -/
def authorization (c : Client) : String :=
  "Basic " ++ String.ofList (Text.base64 (Text.encodeUtf8 ("az:" ++ c.token).toList))

/-- The request for a work item. -/
def itemRequest (c : Client) (url : Text) : Request where
  verb := .get
  url := url
  parameters := [("$expand", "relations"), ("api-version", c.apiVersion)]

/-- The request for a rule text. -/
def rulesRequest (url : String) : Request := { verb := .get, url }

/-- A flag as a parameter. -/
def flagText (b : Bool) : String := if b then "true" else "false"

/-- The request that writes a batch. -/
def batchRequest (c : Client) (b : Batch) : Request where
  verb := .patch
  url := b.url
  parameters := [("suppressNotifications", flagText b.suppressNotifications),
    ("bypassRules", flagText b.bypassRules), ("api-version", c.apiVersion)]
  body := some b.patch
  headers := [("Content-Type", "application/json-patch+json")]

/-- The work item in a response, if there is one. -/
def itemOf? (r : Response) : Option WorkItem :=
  match Json.readBody r.body with
  | .ok v => (WorkItem.decode .modelType v).toOption
  | .error _ => none

/-- Reads a work item; `none` if it cannot be had. -/
def readItem (c : Client) (url : Text) : StateM Session (Except Escape (Option WorkItem)) := do
  match ← call c.calls c.around (c.itemRequest url) with
  | .ok response => return .ok (itemOf? response)
  | .error (.reported _) => return .ok none
  | .error (.escaped (.mishap m)) => return if m.isBadValue then .ok none else .error (.mishap m)
  | .error (.escaped e) => return .error e

/-- Reads the parent of the item that a notification is about. -/
def readParent (c : Client) (hook : Hook) : StateM Session (Except Escape (Option WorkItem)) :=
  match hook.parentLink with
  | none => pure (.ok none)
  | some link => c.readItem link.url

/-- Reads the work items at addresses, without those that cannot be had. -/
def readItems (c : Client) : List Text → StateM Session (Except Escape (List WorkItem))
  | [] => pure (.ok [])
  | url :: rest => do
    match ← c.readItem url with
    | .error e => return .error e
    | .ok item => return (← c.readItems rest).map (item.toList ++ ·)

/-- Reads the children of an item. -/
def readChildren (c : Client) (item : WorkItem) :
    StateM Session (Except Escape (List WorkItem)) :=
  c.readItems ((item.relationsOf childRelation (some "Child")).map (·.url))

/-- Reads a rule text. Bytes that are no text are replaced. -/
def readRules (c : Client) (url : String) : StateM Session (Except CallFailure String) := do
  return (← call c.calls c.around (rulesRequest url)).map fun response =>
    String.ofList (Text.decodeUtf8Leniently response.body)

/-- Writes a batch; the result is the status of the response. -/
def writeBatch (c : Client) (b : Batch) : StateM Session (Except CallFailure Int) := do
  return (← call c.calls c.around (c.batchRequest b)).map (·.status)

/-- Writes batches one after another up to the first failure; what was written stands beside it. -/
def writeBatches (c : Client) :
    List Batch → StateM Session (List (Batch × Int) × Option CallFailure)
  | [] => pure ([], none)
  | b :: rest => do
    match ← c.writeBatch b with
    | .error e => return ([], some e)
    | .ok status =>
      let (written, failure) ← c.writeBatches rest
      return ((b, status) :: written, failure)

/-- Writes a batch on behalf of a dispatcher. -/
def send (c : Client) (b : Batch) : StateM Session (SendOutcome Escape) := do
  match ← c.writeBatch b with
  | .ok _ => return .sent
  | .error (.reported fault) => return .refused fault.message
  | .error (.escaped e) => return .failed e

end Client

end Cascade.Tracker
