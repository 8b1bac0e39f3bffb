import Mathlib.Tactic.Lemma
import Cascade.Update.Dispatch

/-!
# Sending batches one after another

These are facts about every dispatcher, whatever its steps are.  A batch that is done with is
reported and followed by the others (`run_sendAll_cons_of_ok`), a sending that fails ends the
dispatch (`run_sendAll_cons_of_error`).  So a dispatch that is not ended by a failure has a result
for each batch (`length_results_sendAll`), and one is ended by a failure exactly where the sending
of some batch fails in the state that the batches before it leave (`failure_sendAll_eq_none_iff`).
-/

namespace Cascade

namespace Dispatcher

variable {σ ε : Type} {d : Dispatcher σ ε} {b : Batch} {rest : List Batch} {s s' : σ}

lemma run_sendAll_cons_of_ok {status : BatchStatus} (h : (d.attempt b).run s = (.ok status, s')) :
    (d.sendAll (b :: rest)).run s =
      Prod.map (DispatchReport.cons (.ofBatch b status)) id
        ((d.sendAll rest).run ((d.count status).run s').2) := by
  rw [sendAll, StateT.run_bind, h]
  rfl

lemma run_sendAll_cons_of_error {e : ε} (h : (d.attempt b).run s = (.error e, s')) :
    (d.sendAll (b :: rest)).run s = ({ failure := some e }, s') := by
  rw [sendAll, StateT.run_bind, h]
  rfl

/-- A dispatch that no failure ends has a result for each batch, any other one has fewer. -/
lemma length_results_sendAll (d : Dispatcher σ ε) (batches : List Batch) (s : σ) :
    let report := ((d.sendAll batches).run s).1
    report.failure = none ∧ report.results.length = batches.length ∨
      report.failure ≠ none ∧ report.results.length < batches.length := by
  induction batches generalizing s with
  | nil => exact .inl ⟨rfl, rfl⟩
  | cons b rest ih =>
    obtain ⟨outcome, s', h⟩ : ∃ outcome s', (d.attempt b).run s = (outcome, s') := ⟨_, _, rfl⟩
    cases outcome with
    | error e =>
      rw [run_sendAll_cons_of_error h]
      exact .inr ⟨nofun, Nat.succ_pos _⟩
    | ok status =>
      rw [run_sendAll_cons_of_ok h]
      rcases ih ((d.count status).run s').2 with ⟨hnone, hlength⟩ | ⟨hsome, hlength⟩
      · exact .inl ⟨hnone, congrArg (· + 1) hlength⟩
      · exact .inr ⟨hsome, Nat.succ_lt_succ hlength⟩

/-- A failure ends a dispatch exactly where the sending of some batch fails. -/
lemma failure_sendAll_eq_none_iff {batches : List Batch} :
    ((d.sendAll batches).run s).1.failure = none ↔
      ∀ before b after, batches = before ++ b :: after →
        ∀ e, ((d.attempt b).run ((d.sendAll before).run s).2).1 ≠ .error e := by
  induction batches generalizing s with
  | nil => exact ⟨fun _ before b after heq => absurd heq (by simp), fun _ => rfl⟩
  | cons b rest ih =>
    obtain ⟨outcome, s', h⟩ : ∃ outcome s', (d.attempt b).run s = (outcome, s') := ⟨_, _, rfl⟩
    cases outcome with
    | error e =>
      rw [run_sendAll_cons_of_error h]
      refine ⟨nofun, fun hall => ?_⟩
      exact absurd (congrArg Prod.fst h) (hall [] b rest rfl e)
    | ok status =>
      rw [run_sendAll_cons_of_ok h]
      refine ih.trans ⟨fun hall before b' after heq e => ?_, fun hall before b' after heq e => ?_⟩
      · cases before with
        | nil =>
          obtain ⟨rfl, -⟩ := List.cons.inj heq
          rw [sendAll]
          change ((d.attempt b).run s).1 ≠ _
          rw [h]
          exact nofun
        | cons first before =>
          obtain ⟨rfl, hrest⟩ := List.cons.inj heq
          rw [run_sendAll_cons_of_ok h]
          exact hall before b' after hrest e
      · have hfirst := hall (b :: before) b' after (congrArg (b :: ·) heq) e
        rwa [run_sendAll_cons_of_ok h] at hfirst

end Dispatcher

end Cascade
