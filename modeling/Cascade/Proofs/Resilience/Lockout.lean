import Mathlib.Algebra.Order.Group.Int
import Mathlib.Algebra.Order.Group.Defs
import Cascade.Proofs.Resilience.SharedBreaker

/-!
# How long an open breaker stays shut

A breaker that a failure has opened is to refuse calls until its timeout has passed.  Calls that
were let through before it opened may still be under way then.  Their failures only put the end of
the timeout off, but a success closes the breaker at once, whenever it comes.

Before the timeout the breaker is therefore never half open (`HeldShut`, kept by every step but a
reset: `heldShut_step`), and whether it is open or closed is a matter of the failures since the last
success.  The main result `admitted_before_timeout_iff` says exactly when a call is let through too
early: when a call has ended well since, and not enough have failed after it.
-/

namespace Cascade

/-- The time at which a step reads the clock, if it does. -/
def BreakerStep.time? {τ : Type} : BreakerStep τ → Option τ
  | .ask _ now => some now
  | .fail _ now => some now
  | _ => none

variable {τ : Type} [AddCommGroup τ] [LinearOrder τ]

/-- A breaker that is not half open and whose last failure was not before a time. -/
structure HeldShut (timeout since : τ) (b : Breaker τ) : Prop where
  timeout_eq : b.timeout = timeout
  ne_halfOpen : b.state ≠ .halfOpen
  lastFailure : ∃ time, b.lastFailure = some time ∧ since ≤ time

section

variable {timeout since now : τ} {b : Breaker τ} {s s' : SharedBreaker τ}

/-- Before the timeout has passed, such a breaker lets a call through only while it is closed, and
stays as it is. -/
lemma HeldShut.permit_eq [IsOrderedAddMonoid τ] (h : HeldShut timeout since b)
    (hnow : now < since + timeout) :
    b.permit now = if b.state = .opened then none else some b := by
  obtain ⟨time, hlast, hsince⟩ := h.lastFailure
  have hearly : now - time < timeout := by
    have hend : since + timeout ≤ timeout + time := by
      rw [add_comm timeout time]
      exact add_le_add_left hsince timeout
    exact sub_lt_iff_lt_add.mpr (hnow.trans_le hend)
  have hdue : b.isDue now = false := by
    simp only [Breaker.isDue, hlast, h.timeout_eq, decide_eq_false_iff_not, not_le]
    exact hearly
  unfold Breaker.permit Breaker.isOpen
  rw [hdue]
  by_cases hopen : b.state = .opened
  · simp [hopen]
  · simp [hopen]

/-- As it is not half open, it lets a call through exactly while it is closed. -/
lemma HeldShut.permit_ne_none_iff [IsOrderedAddMonoid τ] (h : HeldShut timeout since b)
    (hnow : now < since + timeout) : b.permit now ≠ none ↔ b.state = .closed := by
  rw [h.permit_eq hnow]
  have hhalf := h.ne_halfOpen
  cases hstate : b.state with
  | closed => simp
  | opened => simp
  | halfOpen => exact absurd hstate hhalf

/-- Nothing but a reset opens the way before the timeout has passed. -/
lemma heldShut_step [IsOrderedAddMonoid τ] {e : BreakerStep τ}
    (h : HeldShut timeout since s.breaker) (hstep : s.step e = some s') (hreset : e ≠ .reset)
    (htime : ∀ time ∈ e.time?, since ≤ time ∧ time < since + timeout) :
    HeldShut timeout since s'.breaker := by
  cases e with
  | ask call now =>
    obtain ⟨-, hnow⟩ := htime now rfl
    rcases SharedBreaker.step_ask_eq_some hstep with ⟨admitted, hadmitted, rfl⟩ | ⟨-, rfl⟩
    · rw [h.permit_eq hnow] at hadmitted
      split at hadmitted
      · cases hadmitted
      · exact Option.some.inj hadmitted ▸ h
    · exact h
  | succeed call =>
    obtain ⟨-, rfl⟩ := SharedBreaker.finish_eq_some hstep
    exact ⟨h.timeout_eq, nofun, h.lastFailure⟩
  | fail call now =>
    obtain ⟨-, rfl⟩ := SharedBreaker.finish_eq_some hstep
    refine ⟨h.timeout_eq, ?_, now, rfl, (htime now rfl).1⟩
    unfold Breaker.fail
    dsimp only
    split
    · exact nofun
    · exact h.ne_halfOpen
  | cancel call =>
    obtain ⟨-, rfl⟩ := SharedBreaker.finish_eq_some hstep
    exact h
  | reset => exact absurd rfl hreset

lemma heldShut_run [IsOrderedAddMonoid τ] {steps : List (BreakerStep τ)}
    (h : HeldShut timeout since s.breaker) (hrun : s.run steps = some s')
    (hreset : .reset ∉ steps)
    (htime : ∀ time ∈ steps.filterMap BreakerStep.time?, since ≤ time ∧ time < since + timeout) :
    HeldShut timeout since s'.breaker := by
  induction steps using List.reverseRecOn generalizing s' with
  | nil => exact Option.some.inj hrun ▸ h
  | append_singleton steps e ih =>
    rw [SharedBreaker.run_concat] at hrun
    obtain ⟨s₁, hrun, hstep⟩ := Option.bind_eq_some_iff.mp hrun
    rw [List.mem_append, not_or] at hreset
    have hbefore := ih hrun hreset.1 fun time hmem => htime time (by
      rw [List.filterMap_append]
      exact List.mem_append_left _ hmem)
    refine heldShut_step hbefore hstep (fun he => hreset.2 (by simp [he])) fun time hmem => ?_
    exact htime time (List.mem_filterMap.mpr ⟨e, by simp, hmem⟩)

end

open SharedBreaker (fresh)

/-- The failure that has opened a breaker holds it shut. -/
lemma heldShut_of_fail {name : String} {threshold : Int} {timeout since : τ} {call : Nat}
    {before : List (BreakerStep τ)} {s : SharedBreaker τ}
    (hfail : (fresh name threshold timeout).run (before ++ [.fail call since]) = some s)
    (hopen : s.breaker.state = .opened) : HeldShut timeout since s.breaker := by
  have hopened := SharedBreaker.tracks_run hfail
  rw [SharedBreaker.run_concat] at hfail
  obtain ⟨s₁, -, hstep⟩ := Option.bind_eq_some_iff.mp hfail
  obtain ⟨-, rfl⟩ := SharedBreaker.finish_eq_some hstep
  have hhalf : (s₁.breaker.fail since).state ≠ .halfOpen := by
    rw [hopen]
    exact nofun
  exact ⟨hopened.timeout_eq, hhalf, since, rfl, le_rfl⟩

/-- **When an open breaker lets a call through too early.**  A failure at time `since` has opened
the breaker, and from then on the clock never goes back and nobody resets the breaker, while calls
of any number of callers ask and end.  At a time before the timeout has passed, a new call is let
through exactly if a call has ended well in between and fewer calls have failed after that one than
open the breaker.  So the breaker stays shut until the timeout unless a call that was let through
before it opened ends well. -/
theorem admitted_before_timeout_iff [IsOrderedAddMonoid τ] {name : String} {threshold : Int}
    {timeout since now : τ} {call : Nat} {before between : List (BreakerStep τ)}
    {s s' : SharedBreaker τ}
    (hfail : (fresh name threshold timeout).run (before ++ [.fail call since]) = some s)
    (hopen : s.breaker.state = .opened) (hrun : s.run between = some s')
    (hclock : (since :: between.filterMap BreakerStep.time? ++ [now]).Pairwise (· ≤ ·))
    (hreset : .reset ∉ between) (hnow : now < since + timeout) :
    s'.breaker.permit now ≠ none ↔
      (∃ ended, .succeed ended ∈ between) ∧ (failuresInRow between : Int) < max 1 threshold := by
  have hopened := SharedBreaker.tracks_run hfail
  have hall : (fresh name threshold timeout).run (before ++ [.fail call since] ++ between) =
      some s' := by
    rw [SharedBreaker.run_append, hfail]
    exact hrun
  have htracks := SharedBreaker.tracks_run hall
  have hheld : HeldShut timeout since s'.breaker := by
    refine heldShut_run (heldShut_of_fail hfail hopen) hrun hreset ?_
    intro time hmem
    rw [List.cons_append, List.pairwise_cons] at hclock
    obtain ⟨hsince, hlater⟩ := hclock
    have hle : time ≤ now := (List.pairwise_append.mp hlater).2.2 time hmem now (by simp)
    exact ⟨hsince time (List.mem_append_left _ hmem), hle.trans_lt hnow⟩
  rw [hheld.permit_ne_none_iff hnow, htracks.closed_iff, htracks.failures_eq]
  by_cases hended : ∃ ended, .succeed ended ∈ between
  · obtain ⟨ended, hmem⟩ := hended
    rw [failuresInRow_append_of_endsRow ⟨_, hmem, rfl⟩]
    exact ⟨fun hfew => ⟨⟨ended, hmem⟩, hfew⟩, fun h => h.2⟩
  · -- no row ends, so the failures that have opened the breaker still count
    have hmany : max 1 threshold ≤ (failuresInRow (before ++ [.fail call since]) : Int) := by
      have hclosed := hopened.closed_iff
      rw [hopened.failures_eq, hopen] at hclosed
      exact not_lt.mp fun hfew => nomatch hclosed.mpr hfew
    have hrow : failuresInRow (before ++ [.fail call since]) ≤
        failuresInRow (before ++ [.fail call since] ++ between) :=
      failuresInRow_le_append (endsRow_eq_false hended hreset)
    constructor
    · intro hfew
      omega
    · intro h
      exact absurd h.1 hended

/-- Two calls are let through before the first of them fails and opens the breaker for a minute.
When the second ends well, one time unit later, a third call is let through at once. -/
theorem late_success_readmits :
    let opened : SharedBreaker Int := ⟨⟨"shared", 1, 60, .opened, 1, some 1⟩, [1]⟩
    let closed : SharedBreaker Int := ⟨⟨"shared", 1, 60, .closed, 0, some 1⟩, []⟩
    (fresh "shared" 1 60).run ([.ask 0 0, .ask 1 0] ++ [.fail 0 1]) = some opened ∧
    opened.run [.succeed 1] = some closed ∧ (2 : Int) < 1 + 60 ∧
    opened.breaker.permit 2 = none ∧ closed.breaker.permit 2 ≠ none := by
  intro opened closed
  have hfail : (fresh "shared" 1 60).run ([.ask 0 0, .ask 1 0] ++ [.fail 0 1]) = some opened := by
    decide
  have hrun : opened.run [.succeed 1] = some closed := by decide
  have hidle : opened.run [] = some opened := rfl
  refine ⟨hfail, hrun, by decide, ?_, ?_⟩
  · by_contra hadmitted
    have hearly := (admitted_before_timeout_iff hfail rfl hidle (by decide) (by decide)
      (by decide : (2 : Int) < 1 + 60)).mp hadmitted
    simp at hearly
  · exact (admitted_before_timeout_iff hfail rfl hrun (by decide) (by decide)
      (by decide : (2 : Int) < 1 + 60)).mpr ⟨⟨1, by decide⟩, by decide⟩

end Cascade
