import Cascade.Update.Batch

/-!
# Dispatching updates

The batches of a list of operations are sent one after another. A batch that is refused is reported
and the next one is sent all the same; only a failure of another kind ends the dispatch. A dry run
sends nothing and reports every batch.

Sending and counting are parameters: steps on some state, of which the first may succeed, be refused
or fail. So what is said about `Dispatcher.dispatch` holds for every client.
-/

namespace Cascade

/-- How sending one batch ended. -/
inductive SendOutcome (ε : Type) where
  | sent
  | refused (message : Text)
  | failed (error : ε)

/-- What became of a batch. -/
inductive BatchStatus where
  | sent
  | failed (message : Text)
  | dryRun
  deriving Repr, DecidableEq

/-- The status by name. -/
def BatchStatus.word : BatchStatus → String
  | .sent => "sent"
  | .failed _ => "failed"
  | .dryRun => "dry_run"

/-- The report on one batch. -/
structure DispatchResult where
  url : Text
  /-- The number of operations in the batch. -/
  operations : Nat
  status : BatchStatus
  deriving Repr, DecidableEq

namespace DispatchResult

/-- The report on a batch with a status. -/
def ofBatch (b : Batch) (status : BatchStatus) : DispatchResult :=
  ⟨b.url, b.operations.length, status⟩

/-- The report as data; a failure without words has no entry for them. -/
def toValue (r : DispatchResult) : Value :=
  let error : Entries :=
    match r.status with
    | .failed message => if message.isEmpty then [] else [("error", .str message)]
    | _ => []
  .object (("url", .str r.url) :: ("operations", .int r.operations) ::
    ("status", .str r.status.word) :: error)

end DispatchResult

/-- What a dispatch did: the reports it made and, if it was ended by a failure, that failure. -/
structure DispatchReport (ε : Type) where
  results : List DispatchResult := []
  failure : Option ε := none

/-- The report with one more result in front. -/
def DispatchReport.cons {ε : Type} (r : DispatchResult) (report : DispatchReport ε) :
    DispatchReport ε :=
  { report with results := r :: report.results }

/-- What sends batches: a step that sends one, a step that counts what became of one, and whether
anything is sent at all. -/
structure Dispatcher (σ ε : Type) where
  /-- Whether batches are only reported. -/
  dryRun : Bool := false
  send : Batch → StateM σ (SendOutcome ε)
  count : BatchStatus → StateM σ Unit

namespace Dispatcher

variable {σ ε : Type}

/-- Sends a batch, or only says so. -/
def attempt (d : Dispatcher σ ε) (b : Batch) : StateM σ (Except ε BatchStatus) :=
  if d.dryRun then pure (.ok .dryRun)
  else do
    match ← d.send b with
    | .sent => return .ok .sent
    | .refused message => return .ok (.failed message)
    | .failed error => return .error error

/-- Sends batches one after another, counting each as soon as it is done with. -/
def sendAll (d : Dispatcher σ ε) : List Batch → StateM σ (DispatchReport ε)
  | [] => pure {}
  | b :: rest => do
    match ← d.attempt b with
    | .error error => return { failure := some error }
    | .ok status =>
      d.count status
      return (← d.sendAll rest).cons (.ofBatch b status)

/-- Sends the batches of operations. -/
def dispatch (d : Dispatcher σ ε) (operations : List UpdateOperation) :
    StateM σ (DispatchReport ε) :=
  d.sendAll (groupOperations operations)

end Dispatcher

end Cascade
