import Mathlib.Algebra.BigOperators.Group.Finset.Basic
import Mathlib.Algebra.GroupWithZero.Nat
import Mathlib.Data.List.Dedup
import Cascade.Metrics.Basic
import Cascade.Proofs.Update.Sending

/-!
# Every batch is accounted for

A dispatcher is watched from outside: a `Ledger` keeps the batches that its client was given and the
metrics.  The client is a script, `outcomes n` being the end of the `n`-th sending of all, so that
what is said here holds whatever a client does (`Dispatcher.scripted`).

A batch whose sending ends well or is refused is reported, counted and followed by the next one
(`run_sendAll_cons_ok`); a sending that fails ends the call then and there
(`run_sendAll_cons_error`). So the batches in front of the first failure are reported and counted
(`run_sendAll`).  With the number of operations in all batches (`sum_length_groupOperations`) this
gives `Accounted`, the account of one call, in whatever state the calls before it have left the
dispatcher (`accounted_dispatch`).  The main result `dispatchAll_accounted` is about a whole
sequence of calls.
-/

namespace Cascade

/-- What is seen of a dispatcher from outside. -/
structure Ledger where
  /-- The batches that the client was given, oldest first. -/
  received : List Batch := []
  metrics : Metrics

variable {ε : Type}

/-- What a sending that ended is reported as, or the failure that is not reported. -/
def SendOutcome.status : SendOutcome ε → Except ε BatchStatus
  | .sent => .ok .sent
  | .refused message => .ok (.failed message)
  | .failed error => .error error

namespace Dispatcher

/-- The dispatcher of a client that follows a script: its `n`-th sending, counted from zero over all
calls, ends as `outcomes n` says. -/
def scripted (dryRun : Bool) (outcomes : Nat → SendOutcome ε) : Dispatcher Ledger ε where
  dryRun := dryRun
  send b := do
    let ledger ← get
    set { ledger with received := ledger.received ++ [b] }
    return outcomes ledger.received.length
  count status := modify fun ledger =>
    { ledger with metrics := ledger.metrics.recordBatch status.word }

/-- Calls of a dispatcher one after another.  A call that fails does not keep the caller from making
the next one. -/
def dispatchAll {σ : Type} (d : Dispatcher σ ε) :
    List (List UpdateOperation) → StateM σ (List (DispatchReport ε))
  | [] => pure []
  | operations :: calls => do
    let report ← d.dispatch operations
    return report :: (← d.dispatchAll calls)

end Dispatcher

open Dispatcher (scripted)

variable {dryRun : Bool} {outcomes : Nat → SendOutcome ε} {ledger : Ledger}

/-! ## Batches one by one -/

/-- What becomes of the batch that would be the `n`-th to be sent. -/
def verdict (dryRun : Bool) (outcomes : Nat → SendOutcome ε) (n : Nat) : Except ε BatchStatus :=
  if dryRun then .ok .dryRun else (outcomes n).status

/-- The ledger after batches have been handed over, if they are at all. -/
def Ledger.receive (ledger : Ledger) (dryRun : Bool) (batches : List Batch) : Ledger :=
  { ledger with received := ledger.received ++ if dryRun then [] else batches }

/-- The ledger after batches have been counted. -/
def Ledger.record (ledger : Ledger) (statuses : List BatchStatus) : Ledger :=
  { ledger with
    metrics :=
      statuses.foldl (fun metrics status => metrics.recordBatch status.word) ledger.metrics }

lemma run_attempt (b : Batch) : ((scripted dryRun outcomes).attempt b).run ledger =
    (verdict dryRun outcomes ledger.received.length, ledger.receive dryRun [b]) := by
  cases dryRun with
  | true =>
    have hreceive : ledger.receive true [b] = ledger := by simp [Ledger.receive]
    rw [hreceive]
    rfl
  | false =>
    have hrun : ((scripted false outcomes).attempt b).run ledger =
        ((match outcomes ledger.received.length with
          | .sent => pure (.ok .sent)
          | .refused message => pure (.ok (.failed message))
          | .failed error => pure (.error error) : StateM Ledger (Except ε BatchStatus)).run
            (ledger.receive false [b])) := rfl
    rw [hrun]
    cases h : outcomes ledger.received.length <;> simp [verdict, SendOutcome.status, h] <;> rfl

/-- A batch that is done with is counted, reported and followed by the others. -/
lemma run_sendAll_cons_ok {status : BatchStatus}
    (h : verdict dryRun outcomes ledger.received.length = .ok status) (b : Batch)
    (rest : List Batch) : ((scripted dryRun outcomes).sendAll (b :: rest)).run ledger =
      Prod.map (DispatchReport.cons (.ofBatch b status)) id
        (((scripted dryRun outcomes).sendAll rest).run
          ((ledger.receive dryRun [b]).record [status])) := by
  have hattempt : ((scripted dryRun outcomes).attempt b).run ledger =
      (.ok status, ledger.receive dryRun [b]) := by rw [run_attempt, h]
  exact Dispatcher.run_sendAll_cons_of_ok hattempt

/-- A sending that fails ends the call. -/
lemma run_sendAll_cons_error {error : ε}
    (h : verdict dryRun outcomes ledger.received.length = .error error) (b : Batch)
    (rest : List Batch) : ((scripted dryRun outcomes).sendAll (b :: rest)).run ledger =
      ({ failure := some error }, ledger.receive dryRun [b]) := by
  have hattempt : ((scripted dryRun outcomes).attempt b).run ledger =
      (.error error, ledger.receive dryRun [b]) := by rw [run_attempt, h]
  exact Dispatcher.run_sendAll_cons_of_error hattempt

/-! ## Batches in a row -/

/-- A verdict after one more batch is the next one; in a dry run all are the same. -/
lemma verdict_receive (b : Batch) (k : Nat) :
    verdict dryRun outcomes ((ledger.receive dryRun [b]).received.length + k) =
      verdict dryRun outcomes (ledger.received.length + (k + 1)) := by
  cases dryRun with
  | true => rfl
  | false =>
    have hlength : (ledger.receive false [b]).received.length + k =
        ledger.received.length + (k + 1) := by
      simp only [Ledger.receive, Bool.false_eq_true, if_false, List.length_append,
        List.length_singleton]
      omega
    rw [hlength]

/-- The ledger after one batch and then others is that after all of them. -/
lemma receive_cons (b : Batch) (batches : List Batch) (status : BatchStatus)
    (statuses : List BatchStatus) :
    ((((ledger.receive dryRun [b]).record [status]).receive dryRun batches).record statuses) =
      (ledger.receive dryRun (b :: batches)).record (status :: statuses) := by
  cases dryRun <;> simp [Ledger.receive, Ledger.record]

/-- The batches in front of the first sending that fails are reported and counted, all of them if
none fails; behind a sending that fails nothing more is received. -/
lemma run_sendAll (dryRun : Bool) (outcomes : Nat → SendOutcome ε) (batches : List Batch)
    (ledger : Ledger) : ∃ statuses : List BatchStatus,
      (∀ (k : Nat) (hk : k < statuses.length),
        verdict dryRun outcomes (ledger.received.length + k) = .ok statuses[k]) ∧
      ((statuses.length = batches.length ∧
        ((scripted dryRun outcomes).sendAll batches).run ledger =
          ({ results := List.zipWith .ofBatch batches statuses },
            (ledger.receive dryRun batches).record statuses)) ∨
      (statuses.length < batches.length ∧ ∃ error,
        verdict dryRun outcomes (ledger.received.length + statuses.length) = .error error ∧
        ((scripted dryRun outcomes).sendAll batches).run ledger =
          ({ results := List.zipWith .ofBatch batches statuses, failure := some error },
            (ledger.receive dryRun (batches.take (statuses.length + 1))).record statuses))) := by
  induction batches generalizing ledger with
  | nil =>
    have hreceive : (ledger.receive dryRun []).record [] = ledger := by
      cases dryRun <;> simp [Ledger.receive, Ledger.record]
    refine ⟨[], nofun, .inl ⟨rfl, ?_⟩⟩
    rw [hreceive]
    rfl
  | cons b rest ih =>
    cases hv : verdict dryRun outcomes ledger.received.length with
    | error error =>
      refine ⟨[], nofun, .inr ⟨Nat.zero_lt_succ _, error, hv, ?_⟩⟩
      rw [run_sendAll_cons_error hv]
      rfl
    | ok status =>
      obtain ⟨statuses, hstatuses, hrun⟩ := ih ((ledger.receive dryRun [b]).record [status])
      refine ⟨status :: statuses, fun k hk => ?_, ?_⟩
      · cases k with
        | zero => exact hv
        | succ k => exact (verdict_receive b k).symm.trans (hstatuses k (Nat.lt_of_succ_lt_succ hk))
      · rw [run_sendAll_cons_ok hv]
        rcases hrun with ⟨hlength, hrun⟩ | ⟨hlength, error, herror, hrun⟩
        · refine .inl ⟨congrArg (· + 1) hlength, ?_⟩
          rw [hrun, receive_cons]
          rfl
        · refine .inr ⟨Nat.succ_lt_succ hlength, error, ?_, ?_⟩
          · exact (verdict_receive b statuses.length).symm.trans herror
          · rw [hrun, receive_cons]
            rfl

/-! ## Counts and sizes -/

/-- Each status is counted under its own word. -/
lemma count_record (statuses : List BatchStatus) (word : String) :
    (ledger.record statuses).metrics.batches.count [word] =
      ledger.metrics.batches.count [word] + statuses.countP (·.word = word) := by
  induction statuses generalizing ledger with
  | nil => rfl
  | cons status statuses ih =>
    have hcons :
        ledger.record (status :: statuses) = (ledger.record [status]).record statuses := rfl
    have hone : (ledger.record [status]).metrics.batches =
        ledger.metrics.batches.increment [status.word] := rfl
    rw [hcons, ih, hone]
    by_cases h : status.word = word
    · subst h
      rw [Series.count_increment_self, List.countP_cons_of_pos (by simp)]
      omega
    · rw [Series.count_increment_of_ne _ (by simpa using Ne.symm h),
        List.countP_cons_of_neg (by simpa using h)]

/-- All operations are in batches, each in one. -/
lemma sum_length_groupOperations (operations : List UpdateOperation) :
    ((groupOperations operations).map (·.operations.length)).sum = operations.length := by
  have hsize : (groupOperations operations).map (·.operations.length) =
      (distinctUrls operations).map fun url => (operations.map (·.url)).count url := by
    rw [groupOperations, List.map_map]
    refine List.map_congr_left fun url _ => ?_
    simp [Batch.ofOperations, List.count, List.countP_eq_length_filter, List.filter_map,
      Function.comp_def, beq_eq_decide]
  have hperm : (distinctUrls operations).Perm (operations.map (·.url)).dedup := by
    refine (List.perm_ext_iff_of_nodup (nodup_distinctUrls _)
      (List.nodup_dedup _)).mpr fun url => ?_
    rw [mem_distinctUrls, List.mem_dedup, List.mem_map]
  rw [hsize, (hperm.map _).sum_eq, List.sum_map_count_dedup_eq_length, List.length_map]

/-! ## One call -/

/-- The account of a call.  The outcomes of its sendings begin where those of the calls before it
end. -/
structure Accounted (dryRun : Bool) (outcomes : Nat → SendOutcome ε)
    (operations : List UpdateOperation) (before : Ledger) (report : DispatchReport ε)
    (after : Ledger) : Prop where
  /-- A result is about the batch in its place: it bears the address and the size of the batch, and
  says that the batch was sent, or refused and in which words, exactly as it was. -/
  results : ∀ (k : Nat) (result : DispatchResult), report.results[k]? = some result →
    ∃ b, (groupOperations operations)[k]? = some b ∧ result.url = b.url ∧
      result.operations = b.operations.length ∧
      (dryRun = true → result.status = .dryRun) ∧
      (dryRun = false →
        (result.status = .sent ↔ outcomes (before.received.length + k) = .sent) ∧
        ∀ message, result.status = .failed message ↔
          outcomes (before.received.length + k) = .refused message)
  /-- Each status is counted as often as there are results with it. -/
  counted : ∀ word, after.metrics.batches.count [word] =
    before.metrics.batches.count [word] + report.results.countP (·.status.word = word)
  /-- If no sending fails, all batches are reported, and the client has received each once, in
  order. -/
  complete : (dryRun = false → ∀ k < (groupOperations operations).length, ∀ error,
      outcomes (before.received.length + k) ≠ .failed error) →
    report.failure = none ∧ report.results.length = (groupOperations operations).length ∧
      (report.results.map (·.operations)).sum = operations.length ∧
      (dryRun = false → after.received = before.received ++ groupOperations operations)
  /-- In a dry run the client receives nothing. -/
  withheld : dryRun = true → after.received = before.received
  /-- If a sending fails, it is the last one, and the batches before it are counted. -/
  interrupted : dryRun = false → ∀ k < (groupOperations operations).length, ∀ error,
    outcomes (before.received.length + k) = .failed error →
    (∀ j < k, ∀ error', outcomes (before.received.length + j) ≠ .failed error') →
    report.failure = some error ∧ report.results.length = k ∧
      after.received = before.received ++ (groupOperations operations).take (k + 1)

/-- What a verdict of a batch says of its sending. -/
lemma status_of_verdict {n : Nat} {status : BatchStatus}
    (h : verdict dryRun outcomes n = .ok status) :
    (dryRun = true → status = .dryRun) ∧
      (dryRun = false → (status = .sent ↔ outcomes n = .sent) ∧
        ∀ message, status = .failed message ↔ outcomes n = .refused message) := by
  cases dryRun with
  | true =>
    obtain rfl := Except.ok.inj h
    exact ⟨fun _ => rfl, nofun⟩
  | false =>
    refine ⟨nofun, fun _ => ?_⟩
    change (outcomes n).status = .ok status at h
    cases ho : outcomes n with
    | sent =>
      rw [ho] at h
      obtain rfl := Except.ok.inj h
      simp
    | refused message =>
      rw [ho] at h
      obtain rfl := Except.ok.inj h
      simp
    | failed error =>
      rw [ho] at h
      cases h

lemma verdict_eq_error {n : Nat} {error : ε} :
    verdict dryRun outcomes n = .error error ↔ dryRun = false ∧ outcomes n = .failed error := by
  cases dryRun with
  | true => simp [verdict]
  | false => cases h : outcomes n <;> simp [verdict, SendOutcome.status, h]

/-- The statuses that stand in reports are those the reports were made with. -/
lemma map_status_zipWith {batches : List Batch} {statuses : List BatchStatus}
    (h : statuses.length ≤ batches.length) :
    (List.zipWith DispatchResult.ofBatch batches statuses).map (·.status) = statuses := by
  induction batches generalizing statuses with
  | nil => rw [List.length_eq_zero_iff.mp (Nat.le_zero.mp h)]; rfl
  | cons b batches ih =>
    cases statuses with
    | nil => rfl
    | cons status statuses =>
      rw [List.zipWith_cons_cons, List.map_cons, ih (Nat.le_of_succ_le_succ h)]
      rfl

/-- The sizes that stand in reports are those of the batches. -/
lemma map_operations_zipWith {batches : List Batch} {statuses : List BatchStatus}
    (h : statuses.length = batches.length) :
    (List.zipWith DispatchResult.ofBatch batches statuses).map (·.operations) =
      batches.map (·.operations.length) := by
  induction batches generalizing statuses with
  | nil => rfl
  | cons b batches ih =>
    obtain ⟨status, statuses, rfl⟩ := List.exists_cons_of_length_eq_add_one h
    rw [List.zipWith_cons_cons, List.map_cons, List.map_cons, ih (Nat.succ.inj h)]
    rfl

/-- A call is accounted for, in whatever state it is made. -/
lemma accounted_dispatch (dryRun : Bool) (outcomes : Nat → SendOutcome ε) (ledger : Ledger)
    (operations : List UpdateOperation) :
    Accounted dryRun outcomes operations ledger
      (((scripted dryRun outcomes).dispatch operations).run ledger).1
      (((scripted dryRun outcomes).dispatch operations).run ledger).2 := by
  unfold Dispatcher.dispatch
  obtain ⟨statuses, hstatuses, hrun⟩ := run_sendAll dryRun outcomes
    (groupOperations operations) ledger
  have hle : statuses.length ≤ (groupOperations operations).length := by
    rcases hrun with ⟨h, -⟩ | ⟨h, -⟩ <;> omega
  generalize hout : ((scripted dryRun outcomes).sendAll (groupOperations operations)).run ledger =
    out at hrun ⊢
  obtain ⟨report, after⟩ := out
  -- Whether a sending fails or not, the reports and the counts are those of the statuses.
  have hresults : report.results = List.zipWith .ofBatch (groupOperations operations) statuses := by
    rcases hrun with ⟨-, h⟩ | ⟨-, error, -, h⟩ <;> rw [(Prod.mk.inj h).1]
  have hmetrics : after.metrics = (ledger.record statuses).metrics := by
    rcases hrun with ⟨-, h⟩ | ⟨-, error, -, h⟩ <;> rw [(Prod.mk.inj h).2] <;> rfl
  have hlength : report.results.length = statuses.length := by
    rw [hresults, List.length_zipWith]
    omega
  refine ⟨fun k result hk => ?_, fun word => ?_, fun hnone => ?_, fun hdry => ?_,
    fun hdry k hk error herror hfirst => ?_⟩
  · -- results
    rw [hresults, List.getElem?_zipWith_eq_some] at hk
    obtain ⟨b, status, hb, hstatus, rfl⟩ := hk
    obtain ⟨hlt, rfl⟩ := List.getElem?_eq_some_iff.mp hstatus
    exact ⟨b, hb, rfl, rfl, status_of_verdict (hstatuses k hlt)⟩
  · -- counted
    rw [hmetrics, count_record, hresults]
    conv_lhs => rw [← map_status_zipWith hle, List.countP_map]
    rfl
  · -- complete
    rcases hrun with ⟨hall, h⟩ | ⟨hlt, error, herror, -⟩
    · obtain ⟨rfl, rfl⟩ := Prod.mk.inj h
      refine ⟨rfl, hlength.trans hall, ?_, ?_⟩
      · rw [map_operations_zipWith hall, sum_length_groupOperations]
      · rintro rfl
        rfl
    · obtain ⟨hdry, herror⟩ := verdict_eq_error.mp herror
      exact absurd herror (hnone hdry _ hlt error)
  · -- withheld
    subst hdry
    rcases hrun with ⟨-, h⟩ | ⟨-, error, -, h⟩ <;> rw [(Prod.mk.inj h).2] <;>
      simp [Ledger.receive, Ledger.record]
  · -- interrupted
    have hverdict : verdict dryRun outcomes (ledger.received.length + k) = .error error :=
      verdict_eq_error.mpr ⟨hdry, herror⟩
    have hnot : ¬ k < statuses.length := fun hlt => by
      rw [hstatuses k hlt] at hverdict
      cases hverdict
    rcases hrun with ⟨hall, -⟩ | ⟨hlt, error', herror', h⟩
    · omega
    · have hge : ¬ statuses.length < k := fun hlt =>
        hfirst _ hlt error' (verdict_eq_error.mp herror').2
      obtain rfl : k = statuses.length := by omega
      rw [herror'] at hverdict
      obtain rfl := Except.error.inj hverdict
      obtain ⟨rfl, rfl⟩ := Prod.mk.inj h
      subst hdry
      exact ⟨rfl, hlength, rfl⟩

/-! ## Calls in a row -/

/-- A first call is made, and the others in the state that it leaves. -/
lemma run_dispatchAll_cons {σ : Type} (d : Dispatcher σ ε) (operations : List UpdateOperation)
    (calls : List (List UpdateOperation)) (s : σ) :
    (d.dispatchAll (operations :: calls)).run s =
      Prod.map (((d.dispatch operations).run s).1 :: ·) id
        ((d.dispatchAll calls).run ((d.dispatch operations).run s).2) := rfl

/-- **Every batch is attempted once and accounted for.**  Over any sequence of calls of one
dispatcher, with any outcomes of the sendings, every call makes a report, and each call is accounted
for between the state in which the calls before it leave the dispatcher and the one in which it
leaves it itself.  Altogether each status is counted as often as there are results with it. -/
theorem dispatchAll_accounted (dryRun : Bool) (outcomes : Nat → SendOutcome ε)
    (calls : List (List UpdateOperation)) (start : Ledger) :
    let run (calls : List (List UpdateOperation)) :=
      ((scripted dryRun outcomes).dispatchAll calls).run start
    (run calls).1.length = calls.length ∧
    (∀ (i : Nat) (operations : List UpdateOperation), calls[i]? = some operations →
      ∃ report, (run calls).1[i]? = some report ∧
        Accounted dryRun outcomes operations (run (calls.take i)).2 report
          (run (calls.take (i + 1))).2) ∧
    ∀ word, (run calls).2.metrics.batches.count [word] = start.metrics.batches.count [word] +
      ((run calls).1.flatMap DispatchReport.results).countP (·.status.word = word) := by
  induction calls generalizing start with
  | nil => exact ⟨rfl, nofun, fun _ => rfl⟩
  | cons operations calls ih =>
    obtain ⟨hlength, hcalls, hcounts⟩ :=
      ih (((scripted dryRun outcomes).dispatch operations).run start).2
    have hfirst := accounted_dispatch dryRun outcomes start operations
    simp only [run_dispatchAll_cons] at hlength hcalls hcounts ⊢
    refine ⟨congrArg (· + 1) hlength, fun i operations' hi => ?_, fun word => ?_⟩
    · cases i with
      | zero =>
        obtain rfl := Option.some.inj hi
        exact ⟨_, rfl, hfirst⟩
      | succ i => exact hcalls i operations' hi
    · simp only [Prod.map_fst, Prod.map_snd, id_eq, List.flatMap_cons, List.countP_append]
      rw [hcounts word, hfirst.counted word, Nat.add_assoc]

/-- An update of the state of an item. -/
def stateUpdate (url value : String) : UpdateOperation :=
  { url, path := "/fields/System.State", value }

/-- Two calls, the first on two items and the second on three; the second sending is refused and the
fourth fails, so the last batch is neither sent nor counted. -/
theorem dispatchAll_refused_then_broken :
    let calls := [[stateUpdate "u1" "A", stateUpdate "u2" "B", stateUpdate "u1" "C"],
      [stateUpdate "u3" "A", stateUpdate "u4" "B", stateUpdate "u5" "C"]]
    let outcomes : Nat → SendOutcome String := fun n =>
      if n = 1 then .refused "down" else if n = 3 then .failed "broken" else .sent
    let start : Ledger := { metrics := { service := "workitems" } }
    let before := (((scripted false outcomes).dispatchAll (calls.take 1)).run start).2
    let run := ((scripted false outcomes).dispatchAll calls).run start
    before.received.map Batch.url = (["u1", "u2"] : List Text) ∧
    (∃ report, run.1[1]? = some report ∧ report.failure = some "broken" ∧
      report.results.length = 1) ∧
    run.2.received.map Batch.url = (["u1", "u2", "u3", "u4"] : List Text) ∧
    run.2.metrics.batches.count ["sent"] = 2 ∧ run.2.metrics.batches.count ["failed"] = 1 := by
  intro calls outcomes start before run
  obtain ⟨-, hcalls, hcounts⟩ := dispatchAll_accounted false outcomes calls start
  obtain ⟨report, hreport, haccount⟩ := hcalls 1 _ rfl
  obtain ⟨hfailure, hlength, hreceived⟩ := haccount.interrupted rfl 1 (by decide) "broken" rfl
    fun j hj error => by
      obtain rfl : j = 0 := by omega
      exact (nofun : (.sent : SendOutcome String) ≠ .failed error)
  refine ⟨rfl, ⟨report, hreport, hfailure, hlength⟩, ?_, ?_, ?_⟩
  · exact congrArg (List.map Batch.url) hreceived
  · exact hcounts "sent"
  · exact hcounts "failed"

end Cascade
