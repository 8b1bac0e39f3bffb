import Cascade.Proofs.Service.Handling
import Cascade.Proofs.Tracker.Escapes
import Cascade.Proofs.Update.Sending

/-!
# What becomes of failures of the network

The dispatcher of a service is ended by the failures that the calls it makes are not prepared for
(`attempt_eq_error_iff`), and by no other.  Together with what escapes from calls and from reading
work items this gives the main result `surfaces_unless_escaping`: apart from the failures that are
named by `Tracker.Escapes`, failures of the network are reported as such, work items that cannot be
had count as absent, and all batches are sent.
-/

namespace Cascade

open Tracker (Client Escapes Session Surfaces call)

namespace Service

variable {s : Service} {c : Client} {state : ServiceState} {x : Tracker.Escape}

lemma send_eq_failed_iff {session : Session} {b : Batch} :
    ((c.send b).run session).1 = .failed x ↔
      Escapes c.calls c.around session (c.batchRequest b) x := by
  rw [← Tracker.call_escapes_iff]
  generalize hout : (call c.calls c.around (c.batchRequest b)).run session = out
  obtain ⟨outcome, after⟩ := out
  have hwrite : (c.writeBatch b).run session = (outcome.map (·.status), after) := by
    rw [Client.writeBatch, run_bind_of_run hout]
    rfl
  rw [Client.send, run_bind_of_run hwrite]
  match outcome with
  | .ok response => exact ⟨nofun, nofun⟩
  | .error (.reported fault) => exact ⟨nofun, nofun⟩
  | .error (.escaped e) =>
    constructor
    · intro h
      obtain rfl := SendOutcome.failed.inj h
      rfl
    · intro h
      obtain rfl := Tracker.CallFailure.escaped.inj (Except.error.inj h)
      rfl

lemma run_dispatcher_send (b : Batch) : ((s.dispatcher c).send b).run state =
    (((c.send b).run state.session).1,
      { state with session := ((c.send b).run state.session).2 }) := rfl

/-- Sending a batch fails exactly where it is sent at all and the call is not prepared. -/
lemma attempt_eq_error_iff {b : Batch} : (((s.dispatcher c).attempt b).run state).1 = .error x ↔
    s.settings.dryRun = false ∧ Escapes c.calls c.around state.session (c.batchRequest b) x := by
  cases hdry : s.settings.dryRun with
  | true =>
    have hrun : ((s.dispatcher c).attempt b).run state = (.ok .dryRun, state) := by
      have hd : (s.dispatcher c).dryRun = true := hdry
      rw [Dispatcher.attempt, if_pos hd]
      rfl
    rw [hrun]
    exact ⟨nofun, nofun⟩
  | false =>
    have hd : ¬ (s.dispatcher c).dryRun = true := by
      change ¬ s.settings.dryRun = true
      simp [hdry]
    rw [← send_eq_failed_iff]
    rw [Dispatcher.attempt, if_neg hd, run_bind_of_run (run_dispatcher_send b)]
    generalize ((c.send b).run state.session).1 = outcome
    cases outcome with
    | sent => exact ⟨nofun, nofun⟩
    | refused message => exact ⟨nofun, nofun⟩
    | failed e =>
      constructor
      · intro h
        obtain rfl := Except.error.inj h
        exact ⟨rfl, rfl⟩
      · rintro ⟨-, h⟩
        obtain rfl := SendOutcome.failed.inj h
        rfl

/-- **Failures of the network surface unless they escape.**  A call gives a response or reports the
tracker exactly if no failure escapes from it.  A work item is had or counts as absent exactly if
every failure that escapes from reading it is one of a value that cannot be used.  A dispatch has a
result for each batch exactly if it is a dry run or no failure escapes from the writing of a batch,
in the session that the batches before it leave; otherwise the batches behind are not sent.
Payloads may be nested to any depth here; that a reader runs out of stack is not among the
failures. -/
theorem surfaces_unless_escaping (s : Service) (c : Client) (state : ServiceState) :
    (∀ r, Surfaces ((call c.calls c.around r).run state.session).1 ↔
      ∀ x, ¬ Escapes c.calls c.around state.session r x) ∧
    (∀ url, (∃ item, ((c.readItem url).run state.session).1 = .ok item) ↔
      ∀ x, Escapes c.calls c.around state.session (c.itemRequest url) x → x.isBadValue = true) ∧
    ∀ operations,
      let batches := groupOperations operations
      let report := (((s.dispatcher c).dispatch operations).run state).1
      (report.failure = none ∧ report.results.length = batches.length ∨
        report.failure ≠ none ∧ report.results.length < batches.length) ∧
      (report.failure = none ↔ s.settings.dryRun = true ∨
        ∀ before b after, batches = before ++ b :: after →
          ∀ x, ¬ Escapes c.calls c.around (((s.dispatcher c).sendAll before).run state).2.session
            (c.batchRequest b) x) := by
  refine ⟨fun r => Tracker.call_surfaces_iff, fun url => Tracker.exists_readItem_eq_ok_iff, ?_⟩
  intro operations batches report
  refine ⟨Dispatcher.length_results_sendAll _ _ _, ?_⟩
  have hfailure : report.failure = none ↔ ∀ before b after, batches = before ++ b :: after →
      ∀ x, ¬ (s.settings.dryRun = false ∧
        Escapes c.calls c.around (((s.dispatcher c).sendAll before).run state).2.session
          (c.batchRequest b) x) := by
    simp only [← attempt_eq_error_iff]
    exact Dispatcher.failure_sendAll_eq_none_iff
  rw [hfailure]
  cases s.settings.dryRun with
  | true => simp
  | false => simp

/-- A compressed response that cannot be unpacked is neither lost nor an error of the tracker.  It
escapes from the call and from reading the work item, and it ends a dispatch at its first batch. -/
theorem unpacking_failure_escapes :
    let mishap : Tracker.Mishap := { name := "DecodingError", message := "incorrect header check" }
    let around : Tracker.Surroundings := { transport := fun _ _ => .broken mishap }
    let s : Service :=
      { settings := { serviceName := "workitems", listensAt := 8080 }, around, files := default,
        explainBody := default, explainIssues := default }
    let c := s.clientFor "token"
    let session := (s.initialState 1000.0).session
    let update (url : String) : UpdateOperation :=
      { url, path := "/fields/System.State", value := "A" }
    let report :=
      (((s.dispatcher c).dispatch [update "u", update "v"]).run (s.initialState 1000.0)).1
    ¬ Surfaces ((call c.calls c.around (c.itemRequest "w")).run session).1 ∧
    (¬ ∃ item, ((c.readItem "w").run session).1 = .ok item) ∧
    report.failure ≠ none ∧ report.results.length < 2 := by
  intro mishap around s c session update report
  obtain ⟨hcall, hread, hdispatch⟩ := surfaces_unless_escaping s c (s.initialState 1000.0)
  have hescapes (r : Tracker.Request) : Escapes c.calls c.around session r (.mishap mishap) :=
    .mishap nofun (by decide : 0 < 3) nofun rfl
  have hfailure : report.failure ≠ none := fun hnone => by
    obtain hdry | hall := (hdispatch [update "u", update "v"]).2.mp hnone
    · exact nomatch hdry
    · exact hall [] _ _ rfl _ (hescapes _)
  refine ⟨fun h => (hcall _).mp h _ (hescapes _), fun h => ?_, hfailure, ?_⟩
  · exact nomatch (hread "w").mp h _ (hescapes _)
  · obtain ⟨hnone, -⟩ | ⟨-, hlength⟩ := (hdispatch [update "u", update "v"]).1
    · exact absurd hnone hfailure
    · exact hlength

end Service

end Cascade
