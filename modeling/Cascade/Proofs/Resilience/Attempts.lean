import Mathlib.Data.Nat.Find
import Cascade.Proofs.Resilience.Delays
import Cascade.Proofs.Resilience.Retrying

/-!
# What trying again promises

How often a call is made, and how it ends, is promised from the outcomes of the attempts alone: it
goes on up to the first outcome that is final, or as far as the number of attempts allows
(`RetryPolicy.Promises`).  To compare runs with that, the call here is one whose outcomes are given
in advance, and the waits are written down (`RetryPolicy.attempts`).

A wait may have no value, though, and then the call cannot go on.  The main result
`promise_kept_iff_delays` says that the promise is kept exactly if each wait before the promised end
has a value, and what is done otherwise.  `attempts_default` makes this explicit for the default
settings, where the waits are enough for 1025 attempts.
-/

namespace Cascade

variable {ε φ δ α : Type}

/-- What is seen of a call that is tried again: how often it was made, and the waits. -/
structure Attempts (δ : Type) where
  calls : Nat
  delays : List δ

/-- A call whose outcomes are given in advance, the first of them having number 1. -/
def scriptedCall (outcomes : Nat → Except ε α) : StateM (Attempts δ) (Except ε α) := fun seen =>
  (outcomes (seen.calls + 1), { seen with calls := seen.calls + 1 })

/-- A wait that is written down. -/
def noteDelay (d : δ) : StateM (Attempts δ) Unit := fun seen =>
  ((), { seen with delays := seen.delays ++ [d] })

namespace RetryPolicy

variable (policy : RetryPolicy ε φ δ) (outcomes : Nat → Except ε α)

/-- The outcome of a call with these outcomes, and what was seen of it. -/
def attempts : Except (RetryFailure ε φ) α × Attempts δ :=
  (retry policy noteDelay (scriptedCall outcomes)).run ⟨0, []⟩

/-- An outcome after which there is no other attempt: a success, or a failure that is not
passing. -/
def IsFinal (outcome : Except ε α) : Prop :=
  ∀ e, outcome = .error e → policy.isPassing e = false

/-- The promise: how often the call is made, and its outcome. -/
inductive Promises : Nat → Except (RetryFailure ε φ) α → Prop
  | final {k : Nat} (hpos : 1 ≤ k) (hallowed : k ≤ policy.maxAttempts)
    (hbefore : ∀ i, 1 ≤ i → i < k → ¬policy.IsFinal (outcomes i))
    (hfinal : policy.IsFinal (outcomes k)) : Promises k ((outcomes k).mapError .permanent)
  | exhausted {n : Nat} {e : ε} (hpos : 1 ≤ n) (hmax : policy.maxAttempts = n)
    (hnone : ∀ i, 1 ≤ i → i ≤ n → ¬policy.IsFinal (outcomes i)) (hlast : outcomes n = .error e) :
    Promises n (.error (.exhausted n e))
  | notAttempted (hmax : policy.maxAttempts < 1) : Promises 0 (.error .notAttempted)

/-- The waits after the first attempts, as many as this. -/
def HasDelays (n : Nat) (delays : List δ) : Prop :=
  (List.range' 1 n).map policy.delay = delays.map .ok

variable {policy outcomes} {n : Nat} {delays : List δ} {outcome : Except (RetryFailure ε φ) α}

/-! ## Outcomes and waits -/

lemma not_isFinal_iff {outcome : Except ε α} :
    ¬policy.IsFinal outcome ↔ ∃ e, outcome = .error e ∧ policy.isPassing e = true := by
  simp [IsFinal]

lemma isPassing_of_not_isFinal {e : ε} {outcome : Except ε α} (h : ¬policy.IsFinal outcome)
    (he : outcome = .error e) : policy.isPassing e = true := by
  obtain ⟨e', he', hpass⟩ := not_isFinal_iff.mp h
  rwa [Except.error.inj (he.symm.trans he')]

lemma hasDelays_zero : policy.HasDelays 0 [] := rfl

lemma HasDelays.of_succ (h : policy.HasDelays (n + 1) delays) :
    ∃ before d, delays = before ++ [d] ∧ policy.HasDelays n before ∧
      policy.delay (n + 1) = .ok d := by
  unfold HasDelays at h
  rw [List.range'_1_concat, List.map_append, List.map_singleton, eq_comm,
    List.map_eq_append_iff] at h
  obtain ⟨before, last, rfl, hbefore, hlast⟩ := h
  obtain ⟨d, rfl, hd⟩ := List.map_eq_singleton_iff.mp hlast
  exact ⟨before, d, rfl, hbefore.symm, by rw [hd, Nat.add_comm]⟩

lemma HasDelays.append (h : policy.HasDelays n delays) {d : δ} (hd : policy.delay (n + 1) = .ok d) :
    policy.HasDelays (n + 1) (delays ++ [d]) := by
  unfold HasDelays at h ⊢
  rw [List.range'_1_concat, List.map_append, h, List.map_append, List.map_singleton,
    List.map_singleton, Nat.add_comm 1 n, hd]

/-- A wait that is among the first ones has a value. -/
lemma HasDelays.exists_delay (h : policy.HasDelays n delays) {i : Nat} (hpos : 1 ≤ i)
    (hle : i ≤ n) :
    ∃ d, policy.delay i = .ok d := by
  have hmem : policy.delay i ∈ (List.range' 1 n).map policy.delay :=
    List.mem_map_of_mem (List.mem_range'_1.mpr (by omega))
  rw [h] at hmem
  obtain ⟨d, -, hd⟩ := List.mem_map.mp hmem
  exact ⟨d, hd.symm⟩

/-- Either all these waits have values, or one of them is the first that has none. -/
lemma hasDelays_or_fault (n : Nat) :
    (∃ delays, policy.HasDelays n delays) ∨
      ∃ j delays fault, j < n ∧ policy.HasDelays j delays ∧
        policy.delay (j + 1) = .error fault := by
  induction n with
  | zero => exact .inl ⟨[], hasDelays_zero⟩
  | succ n ih =>
    rcases ih with ⟨delays, hdelays⟩ | ⟨j, delays, fault, hj, hdelays, hfault⟩
    · cases hd : policy.delay (n + 1) with
      | ok d => exact .inl ⟨_, hdelays.append hd⟩
      | error fault => exact .inr ⟨n, delays, fault, Nat.lt_succ_self n, hdelays, hd⟩
    · exact .inr ⟨j, delays, fault, by omega, hdelays, hfault⟩

/-! ## The promise -/

namespace Promises

/-- Something is promised of every call. -/
lemma exists_promise (policy : RetryPolicy ε φ δ) (outcomes : Nat → Except ε α) :
    ∃ n outcome, policy.Promises outcomes n outcome := by
  classical
  by_cases hmax : policy.maxAttempts < 1
  · exact ⟨0, _, .notAttempted hmax⟩
  obtain ⟨n, hn⟩ : ∃ n : Nat, policy.maxAttempts = n := ⟨policy.maxAttempts.toNat, by omega⟩
  by_cases hfinal : ∃ k : Nat, 1 ≤ k ∧ k ≤ n ∧ policy.IsFinal (outcomes k)
  · -- the first of these outcomes ends the call
    obtain ⟨hpos, hallowed, hlast⟩ := Nat.find_spec hfinal
    refine ⟨_, _, .final hpos (by omega) (fun i hi hlt hfirst => ?_) hlast⟩
    exact Nat.find_min hfinal hlt ⟨hi, by omega, hfirst⟩
  · have hnone : ∀ i, 1 ≤ i → i ≤ n → ¬policy.IsFinal (outcomes i) := fun i hi hle hfirst =>
      hfinal ⟨i, hi, hle, hfirst⟩
    obtain ⟨e, he, -⟩ := not_isFinal_iff.mp (hnone n (by omega) n.le_refl)
    exact ⟨n, _, .exhausted (by omega) hn hnone he⟩

variable (h : policy.Promises outcomes n outcome)
include h

lemma le_maxAttempts : n ≤ policy.maxAttempts.toNat := by
  cases h <;> omega

/-- The outcomes before the promised end are not final. -/
lemma not_isFinal {i : Nat} (hpos : 1 ≤ i) (hlt : i < n) : ¬policy.IsFinal (outcomes i) := by
  cases h with
  | final _ _ hbefore _ => exact hbefore i hpos hlt
  | exhausted _ _ hnone _ => exact hnone i hpos (Nat.le_of_lt hlt)
  | notAttempted => omega

/-- A fault is never promised. -/
lemma ne_noDelay (fault : φ) : outcome ≠ .error (.noDelay fault) := by
  cases h with
  | final =>
    cases outcomes n with
    | ok a => nofun
    | error e => nofun
  | exhausted => nofun
  | notAttempted => nofun

variable {n' : Nat} {outcome' : Except (RetryFailure ε φ) α}
  (h' : policy.Promises outcomes n' outcome')
include h'

/-- No two promises go on for different times. -/
lemma calls_le : n' ≤ n := by
  refine Nat.le_of_not_lt fun hlt => ?_
  have hle := h'.le_maxAttempts
  cases h with
  | final hpos _ _ hfinal => exact h'.not_isFinal hpos hlt hfinal
  | exhausted _ hmax _ _ => omega
  | notAttempted hmax => omega

/-- Only one thing is promised of a call. -/
lemma unique : n' = n ∧ outcome' = outcome := by
  obtain rfl := Nat.le_antisymm (h.calls_le h') (h'.calls_le h)
  refine ⟨rfl, ?_⟩
  cases h with
  | final hpos _ _ hfinal =>
    cases h' with
    | final => rfl
    | exhausted _ _ hnone _ => exact absurd hfinal (hnone _ hpos n'.le_refl)
    | notAttempted => omega
  | @exhausted _ _ hpos _ hnone hlast =>
    cases h' with
    | final _ _ _ hfinal => exact absurd hfinal (hnone _ hpos n'.le_refl)
    | exhausted _ _ _ hlast' => rw [Except.error.inj (hlast.symm.trans hlast')]
    | notAttempted => omega
  | notAttempted =>
    cases h' with
    | final hpos => omega
    | exhausted hpos => omega
    | notAttempted => rfl

end Promises

/-! ## Runs -/

/-- Where the first outcomes are not final and the waits have values, the next attempt is due. -/
lemma due_scriptedCall (hdelays : policy.HasDelays n delays)
    (hpassing : ∀ i, 1 ≤ i → i ≤ n → ¬policy.IsFinal (outcomes i)) :
    policy.Due noteDelay (scriptedCall outcomes) ⟨0, []⟩ n ⟨n, delays⟩ := by
  induction n generalizing delays with
  | zero =>
    obtain rfl : delays = [] := by simpa [HasDelays] using hdelays
    exact .first
  | succ n ih =>
    obtain ⟨before, d, rfl, hbefore, hd⟩ := hdelays.of_succ
    obtain ⟨e, he, hpass⟩ := not_isFinal_iff.mp (hpassing (n + 1) (by omega) (by omega))
    have hcall :
        (scriptedCall outcomes).run ⟨n, before⟩ = (.error e, (⟨n + 1, before⟩ : Attempts δ)) :=
      congrArg (·, (⟨n + 1, before⟩ : Attempts δ)) he
    exact .again (ih hbefore fun i hpos hle => hpassing i hpos (by omega)) hcall hpass hd

namespace Promises

variable (h : policy.Promises outcomes n outcome)
include h

/-- A promise is kept if each wait before its end has a value. -/
lemma attempts_eq (hdelays : policy.HasDelays (n - 1) delays) :
    policy.attempts outcomes = (outcome, ⟨n, delays⟩) := by
  refine run_retry_eq_iff.mpr ?_
  cases n with
  | zero =>
    -- no call is promised only where no attempt is allowed
    cases h with
    | final hpos => omega
    | exhausted hpos => omega
    | notAttempted hmax =>
      obtain rfl : delays = [] := by simpa [HasDelays] using hdelays
      exact .inl ⟨by omega, rfl⟩
  | succ n =>
    have hdue :=
      due_scriptedCall hdelays fun i hpos hle => h.not_isFinal hpos (Nat.lt_succ_of_le hle)
    refine .inr ⟨n, policy.maxAttempts.toNat - (n + 1), _, ?_, hdue, ?_⟩
    · have := h.le_maxAttempts
      omega
    · cases h with
      | final _ _ _ hfinal =>
        cases hresult : outcomes (n + 1) with
        | ok a => exact .success (congrArg (·, _) hresult)
        | error e => exact .permanent (congrArg (·, _) hresult) (hfinal e hresult)
      | exhausted hpos hmax hnone hlast =>
        have hpass := isPassing_of_not_isFinal (hnone _ hpos (n + 1).le_refl) hlast
        exact .exhausted (congrArg (·, _) hlast) hpass (by omega)

/-- At the first wait without a value the call leaves with the fault. -/
lemma attempts_of_fault {j : Nat} {fault : φ} (hj : j + 1 < n)
    (hdelays : policy.HasDelays j delays) (hfault : policy.delay (j + 1) = .error fault) :
    policy.attempts outcomes = (.error (.noDelay fault), ⟨j + 1, delays⟩) := by
  have hmax := h.le_maxAttempts
  have hdue := due_scriptedCall hdelays fun i hpos hle => h.not_isFinal hpos (by omega)
  obtain ⟨e, he, hpass⟩ := not_isFinal_iff.mp (h.not_isFinal (Nat.succ_pos j) hj)
  refine run_retry_eq_iff.mpr (.inr ⟨j, policy.maxAttempts.toNat - (j + 1), _, ?_, hdue, ?_⟩)
  · omega
  · exact .noDelay (congrArg (·, _) he) hpass (by omega) hfault

/-- A promise is kept exactly if each wait before its end has a value. -/
lemma kept_iff : (∃ delays, policy.attempts outcomes = (outcome, ⟨n, delays⟩)) ↔
    ∀ i, 1 ≤ i → i < n → ∃ d, policy.delay i = .ok d := by
  rcases policy.hasDelays_or_fault (n - 1) with
    ⟨delays, hdelays⟩ | ⟨j, before, fault, hj, hbefore, hfault⟩
  · exact iff_of_true ⟨delays, h.attempts_eq hdelays⟩ fun i hpos hlt =>
      hdelays.exists_delay hpos (by omega)
  · refine iff_of_false ?_ fun hvalues => ?_
    · rintro ⟨delays, hkept⟩
      have hleft := h.attempts_of_fault (by omega) hbefore hfault
      exact h.ne_noDelay fault (congrArg Prod.fst (hkept.symm.trans hleft))
    · obtain ⟨d, hd⟩ := hvalues (j + 1) (by omega) (by omega)
      exact nomatch hd.symm.trans hfault

end Promises

end RetryPolicy

/-- **The promise of trying again.**  For every policy and all outcomes exactly one thing is
promised, and it is kept as far as the waits go:

* if each wait before the promised end has a value, the call is made as often as promised and has
  the promised outcome, with just these waits;
* at the first wait that has none the call leaves with the fault.

So the promise is kept exactly if each of these waits has a value. -/
theorem promise_kept_iff_delays (policy : RetryPolicy ε φ δ) (outcomes : Nat → Except ε α) :
    ∃ n outcome, policy.Promises outcomes n outcome ∧
      (∀ n' outcome', policy.Promises outcomes n' outcome' → n' = n ∧ outcome' = outcome) ∧
      (∀ delays, policy.HasDelays (n - 1) delays →
        policy.attempts outcomes = (outcome, ⟨n, delays⟩)) ∧
      (∀ j delays fault, j + 1 < n → policy.HasDelays j delays →
        policy.delay (j + 1) = .error fault →
        policy.attempts outcomes = (.error (.noDelay fault), ⟨j + 1, delays⟩)) ∧
      ((∃ delays, policy.attempts outcomes = (outcome, ⟨n, delays⟩)) ↔
        ∀ i, 1 ≤ i → i < n → ∃ d, policy.delay i = .ok d) := by
  obtain ⟨n, outcome, h⟩ := RetryPolicy.Promises.exists_promise policy outcomes
  exact ⟨n, outcome, h, fun _ _ => h.unique, fun _ => h.attempts_eq,
    fun _ _ _ => h.attempts_of_fault, h.kept_iff⟩

/-! ## The default settings -/

/-- A policy with the default settings of the wait, spread at this place. -/
def defaultPolicy (maxAttempts : Int) (isPassing : ε → Bool) (u : Float) :
    RetryPolicy ε PowerFault Float where
  maxAttempts := maxAttempts
  isPassing := isPassing
  delay attempt := ({} : Backoff).delay u attempt

section

variable {maxAttempts : Int} {isPassing : ε → Bool} {u : Float} {outcomes : Nat → Except ε α}
  {n : Nat} {outcome : Except (RetryFailure ε PowerFault) α}

lemma exists_hasDelays_default (hle : n ≤ 1024) :
    ∃ delays, (defaultPolicy maxAttempts isPassing u).HasDelays n delays := by
  rcases (defaultPolicy maxAttempts isPassing u).hasDelays_or_fault n with
    hdelays | ⟨j, _, fault, hj, -, hfault⟩
  · exact hdelays
  · obtain ⟨d, hd⟩ := Backoff.exists_delay_default u (Nat.succ_pos j) (by omega)
    exact nomatch hd.symm.trans hfault

/-- With the default settings a promise of up to 1025 attempts is kept.  Where more are promised,
the call leaves after 1025 of them, since the wait that comes then is too long to be computed. -/
theorem attempts_default
    (h : (defaultPolicy maxAttempts isPassing u).Promises outcomes n outcome) :
    (n ≤ 1025 → ∃ delays, (defaultPolicy maxAttempts isPassing u).HasDelays (n - 1) delays ∧
      (defaultPolicy maxAttempts isPassing u).attempts outcomes = (outcome, ⟨n, delays⟩)) ∧
    (1025 < n → ∃ delays, (defaultPolicy maxAttempts isPassing u).HasDelays 1024 delays ∧
      (defaultPolicy maxAttempts isPassing u).attempts outcomes =
        (.error (.noDelay .overflow), ⟨1025, delays⟩)) := by
  refine ⟨fun hle => ?_, fun hlt => ?_⟩
  · obtain ⟨delays, hdelays⟩ := exists_hasDelays_default (by omega : n - 1 ≤ 1024)
    exact ⟨delays, hdelays, h.attempts_eq hdelays⟩
  · obtain ⟨delays, hdelays⟩ := exists_hasDelays_default (Nat.le_refl 1024)
    have hfault := Backoff.delay_default_of_lt u (Nat.lt_succ_self 1024)
    exact ⟨delays, hdelays, h.attempts_of_fault hlt hdelays hfault⟩

end

/-- Promised to a call that fails 1025 times is the success that comes then.  But the call is not
made again: it leaves with the fault, though the wait would have been capped. -/
theorem success_after_1025_failures_lost :
    let policy := defaultPolicy 1026 (fun _ : Unit => true) 0.5
    let outcomes : Nat → Except Unit String := fun i => if i ≤ 1025 then .error () else .ok "done"
    policy.Promises outcomes 1026 (.ok "done") ∧
      (∃ delays, policy.attempts outcomes = (.error (.noDelay .overflow), ⟨1025, delays⟩)) ∧
      ¬∃ delays, policy.attempts outcomes = (.ok "done", ⟨1026, delays⟩) := by
  intro policy outcomes
  have hpromise : policy.Promises outcomes 1026 (.ok "done") := by
    refine .final (by decide) (Int.le_refl _) (fun i _ hlt hfinal => ?_) (fun e he => nomatch he)
    exact nomatch hfinal () (if_pos (Nat.le_of_lt_succ hlt))
  obtain ⟨delays, -, hrun⟩ := (attempts_default hpromise).2 (by decide)
  refine ⟨hpromise, ⟨delays, hrun⟩, ?_⟩
  rintro ⟨_, hkept⟩
  exact nomatch congrArg Prod.fst (hrun.symm.trans hkept)

end Cascade
