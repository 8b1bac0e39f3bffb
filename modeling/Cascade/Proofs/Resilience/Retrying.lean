import Mathlib.Tactic.Lemma
import Cascade.Resilience.Retry

/-!
# How trying again goes

An attempt is due after others that have failed for passing reasons, each of them followed by its
wait (`RetryPolicy.Due`).  There the call is made once more, and either that is the end of it
(`RetryPolicy.Ends`) or the next attempt is due.  The step lemmas `Ends.run` and `Due.run` say that the
attempts do so, and `due_or_ends` that nothing else can happen.  The main result
`run_retry_eq_iff` tells the outcome of a whole call from that.
-/

namespace Cascade

variable {σ ε φ δ α β : Type}

/-- What comes after a step whose run is known. -/
lemma run_bind_of_run {x : StateM σ α} {f : α → StateM σ β} {a : α} {s s' : σ}
    (h : x.run s = (a, s')) : (x >>= f).run s = (f a).run s' := by
  rw [StateT.run_bind, h]
  rfl

namespace RetryPolicy

variable (policy : RetryPolicy ε φ δ) (sleep : δ → StateM σ Unit) (call : StateM σ (Except ε α))

/-- A state in which as many attempts as this have failed for passing reasons, and each has been
followed by its wait, so that the next attempt is due. -/
inductive Due (start : σ) : Nat → σ → Prop
  | first : Due start 0 start
  | again {n : Nat} {s s' : σ} {e : ε} {d : δ} (hdue : Due start n s)
    (hcall : call.run s = (.error e, s')) (hpassing : policy.isPassing e = true)
    (hdelay : policy.delay (n + 1) = .ok d) : Due start (n + 1) ((sleep d).run s').2

/-- An attempt, the one with this number, is the last one, though `left` more are allowed. -/
inductive Ends (left attempt : Nat) (s : σ) : Except (RetryFailure ε φ) α × σ → Prop
  | success {a : α} {s' : σ} (hcall : call.run s = (.ok a, s')) : Ends left attempt s (.ok a, s')
  | permanent {e : ε} {s' : σ} (hcall : call.run s = (.error e, s'))
    (hpassing : policy.isPassing e = false) : Ends left attempt s (.error (.permanent e), s')
  | exhausted {e : ε} {s' : σ} (hcall : call.run s = (.error e, s'))
    (hpassing : policy.isPassing e = true) (hleft : left = 0) :
    Ends left attempt s (.error (.exhausted attempt e), s')
  | noDelay {e : ε} {s' : σ} {f : φ} (hcall : call.run s = (.error e, s'))
    (hpassing : policy.isPassing e = true) (hleft : left ≠ 0)
    (hdelay : policy.delay attempt = .error f) : Ends left attempt s (.error (.noDelay f), s')

variable {policy sleep call} {left n attempt : Nat} {start s s' : σ}
  {out : Except (RetryFailure ε φ) α × σ}

/-! ## One attempt -/

lemma run_retryFrom_succ_of_ok {a : α} (hcall : call.run s = (.ok a, s')) :
    (retryFrom policy sleep call (left + 1) attempt).run s = (.ok a, s') := by
  rw [retryFrom, run_bind_of_run hcall]
  rfl

lemma run_retryFrom_succ_of_error {e : ε} (hcall : call.run s = (.error e, s')) :
    (retryFrom policy sleep call (left + 1) attempt).run s =
      if policy.isPassing e = false then (.error (.permanent e), s')
      else if left = 0 then (.error (.exhausted attempt e), s')
      else
        match policy.delay attempt with
        | .error f => (.error (.noDelay f), s')
        | .ok d =>
          (retryFrom policy sleep call left (attempt + 1)).run ((sleep d).run s').2 := by
  rw [retryFrom, run_bind_of_run hcall]
  dsimp only
  cases policy.isPassing e with
  | false => rfl
  | true =>
    by_cases hleft : left = 0
    · subst hleft
      rfl
    · simp only [Bool.not_true, Bool.true_eq_false, Bool.false_eq_true, if_false, if_neg hleft]
      cases policy.delay attempt <;> rfl

/-- An attempt that is the last one gives the outcome. -/
lemma Ends.run (h : policy.Ends call left attempt s out) :
    (retryFrom policy sleep call (left + 1) attempt).run s = out := by
  cases h with
  | success hcall => exact run_retryFrom_succ_of_ok hcall
  | permanent hcall hpassing => rw [run_retryFrom_succ_of_error hcall, if_pos hpassing]
  | exhausted hcall hpassing hleft =>
    rw [run_retryFrom_succ_of_error hcall, if_neg (by simp [hpassing]), if_pos hleft]
  | noDelay hcall hpassing hleft hdelay =>
    rw [run_retryFrom_succ_of_error hcall, if_neg (by simp [hpassing]), if_neg hleft, hdelay]

/-- The last attempt makes the call once more, and succeeds exactly if that does.  Where it fails
for a passing reason no attempt is left, or there is no wait before the next one. -/
lemma Ends.exists_run {outcome : Except (RetryFailure ε φ) α}
    (h : policy.Ends call left attempt s (outcome, s')) :
    ∃ result, call.run s = (result, s') ∧ (∀ a, outcome = .ok a ↔ result = .ok a) ∧
      ∀ e, result = .error e → policy.isPassing e = true →
        left = 0 ∨ ∃ f, policy.delay attempt = .error f := by
  cases h with
  | success hcall => exact ⟨_, hcall, by simp, nofun⟩
  | permanent hcall hpassing =>
    refine ⟨_, hcall, by simp, fun e he htrue => ?_⟩
    obtain rfl := Except.error.inj he
    exact nomatch hpassing.symm.trans htrue
  | exhausted hcall _ hleft => exact ⟨_, hcall, by simp, fun _ _ _ => .inl hleft⟩
  | noDelay hcall _ _ hdelay => exact ⟨_, hcall, by simp, fun _ _ _ => .inr ⟨_, hdelay⟩⟩

/-! ## Attempts in a row -/

/-- Where an attempt is due the call goes on with it. -/
lemma Due.run (h : policy.Due sleep call start n s) (left : Nat) :
    (retryFrom policy sleep call (n + (left + 1)) 1).run start =
      (retryFrom policy sleep call (left + 1) (n + 1)).run s := by
  induction h generalizing left with
  | first => rw [Nat.zero_add]
  | again hdue hcall hpassing hdelay ih =>
    have hcount : ∀ k, k + 1 + (left + 1) = k + (left + 1 + 1) := fun k => by omega
    rw [hcount, ih, run_retryFrom_succ_of_error hcall, if_neg (by simp [hpassing]),
      if_neg (Nat.succ_ne_zero left), hdelay]

/-- At an attempt the call ends, or the next attempt is due. -/
lemma due_or_ends (left : Nat) (hdue : policy.Due sleep call start n s) :
    (∃ out, policy.Ends call left (n + 1) s out) ∨
      left ≠ 0 ∧ ∃ s', policy.Due sleep call start (n + 1) s' := by
  obtain ⟨outcome, s', hcall⟩ : ∃ outcome s', call.run s = (outcome, s') := ⟨_, _, rfl⟩
  cases outcome with
  | ok a => exact .inl ⟨_, .success hcall⟩
  | error e =>
    cases hpassing : policy.isPassing e with
    | false => exact .inl ⟨_, .permanent hcall hpassing⟩
    | true =>
      by_cases hleft : left = 0
      · exact .inl ⟨_, .exhausted hcall hpassing hleft⟩
      · cases hdelay : policy.delay (n + 1) with
        | error f => exact .inl ⟨_, .noDelay hcall hpassing hleft hdelay⟩
        | ok d => exact .inr ⟨hleft, _, .again hdue hcall hpassing hdelay⟩

/-- From an attempt that is due on, the call comes to an end at one of the attempts that are
left. -/
lemma exists_end (left : Nat) (hdue : policy.Due sleep call start n s) :
    ∃ n' left' s' out, n' + left' = n + left ∧ policy.Due sleep call start n' s' ∧
      policy.Ends call left' (n' + 1) s' out := by
  induction left generalizing n s with
  | zero =>
    rcases due_or_ends 0 hdue with ⟨out, hends⟩ | ⟨hleft, -⟩
    · exact ⟨n, 0, s, out, rfl, hdue, hends⟩
    · exact absurd rfl hleft
  | succ left ih =>
    rcases due_or_ends (left + 1) hdue with ⟨out, hends⟩ | ⟨-, s', hnext⟩
    · exact ⟨n, left + 1, s, out, rfl, hdue, hends⟩
    · obtain ⟨n', left', s'', out, hcount, hdue', hends⟩ := ih hnext
      exact ⟨n', left', s'', out, by omega, hdue', hends⟩

end RetryPolicy

/-- **The outcome of a call that is tried again.**  If no attempt is allowed the call is not made.
Otherwise the outcome is that of the attempt at which the attempts end, after others that were
lost. -/
theorem run_retry_eq_iff {policy : RetryPolicy ε φ δ} {sleep : δ → StateM σ Unit}
    {call : StateM σ (Except ε α)} {start : σ} {out : Except (RetryFailure ε φ) α × σ} :
    (retry policy sleep call).run start = out ↔
      policy.maxAttempts.toNat = 0 ∧ out = (.error .notAttempted, start) ∨
      ∃ n left s, policy.maxAttempts.toNat = n + (left + 1) ∧
        policy.Due sleep call start n s ∧ policy.Ends call left (n + 1) s out := by
  unfold retry
  constructor
  · rintro rfl
    cases hmax : policy.maxAttempts.toNat with
    | zero => exact .inl ⟨rfl, rfl⟩
    | succ k =>
      obtain ⟨n, left, s, out, hcount, hdue, hends⟩ :=
        RetryPolicy.exists_end k (.first : policy.Due sleep call start 0 start)
      have hk : k + 1 = n + (left + 1) := by omega
      refine .inr ⟨n, left, s, hk, hdue, ?_⟩
      rw [hk, hdue.run, hends.run]
      exact hends
  · rintro (⟨hmax, rfl⟩ | ⟨n, left, s, hmax, hdue, hends⟩)
    · rw [hmax]
      rfl
    · rw [hmax, hdue.run, hends.run]

end Cascade
