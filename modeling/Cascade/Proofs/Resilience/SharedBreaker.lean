import Mathlib.Data.List.DropRight
import Mathlib.Tactic.Lemma
import Cascade.Resilience.Breaker

/-!
# A breaker that callers share

Callers share one breaker and their calls overlap: while some are under way others ask to be let
through, and they end in any order.  A `BreakerStep` is one thing that happens to the breaker, a
`SharedBreaker` is the breaker together with the calls under way, and `SharedBreaker.run` takes it
through a list of steps, in which only calls under way may end.

What a run has led to is read off its history: the failures since the last success or reset
(`failuresInRow`) and the time of the last failure (`lastFailureIn?`).  `Tracks` is the invariant
that ties a breaker to the history behind it.  It is kept by what each step does to the breaker, so
every step keeps it (`tracks_step`) and every run does (`tracks_run`); the main result
`breaker_over_every_run` is read off it.
-/

namespace Cascade

variable {τ : Type}

/-- What happens to a breaker that callers share.  Calls go by numbers. -/
inductive BreakerStep (τ : Type) where
  /-- A new call asks to be let through. -/
  | ask (call : Nat) (now : τ)
  /-- A call ends well. -/
  | succeed (call : Nat)
  /-- A call ends with a failure. -/
  | fail (call : Nat) (now : τ)
  /-- A call is given up before it ends; nothing is recorded of it. -/
  | cancel (call : Nat)
  | reset
  deriving Repr, DecidableEq

namespace BreakerStep

/-- Whether a step ends a row of failures. -/
def endsRow : BreakerStep τ → Bool
  | .succeed _ => true
  | .reset => true
  | _ => false

/-- The time of the failure that a step records. -/
def failure? : BreakerStep τ → Option τ
  | .fail _ now => some now
  | _ => none

end BreakerStep

/-- The failures since the last success or reset. -/
def failuresInRow (steps : List (BreakerStep τ)) : Nat :=
  (steps.rtakeWhile fun step => !step.endsRow).countP fun step => step.failure?.isSome

/-- The time of the last failure of all. -/
def lastFailureIn? (steps : List (BreakerStep τ)) : Option τ :=
  (steps.filterMap BreakerStep.failure?).getLast?

/-- A breaker with the calls that it has let through and that have not ended. -/
structure SharedBreaker (τ : Type) where
  breaker : Breaker τ
  running : List Nat := []
  deriving DecidableEq

namespace SharedBreaker

/-- A breaker to which nothing has happened. -/
def fresh (name : String) (threshold : Int) (timeout : τ) : SharedBreaker τ :=
  ⟨{ name, threshold, timeout }, []⟩

/-- The end of a call, which must be under way, with the breaker that it leaves. -/
def finish (s : SharedBreaker τ) (call : Nat) (b : Breaker τ) : Option (SharedBreaker τ) :=
  if call ∈ s.running then some ⟨b, s.running.erase call⟩ else none

variable [Sub τ] [LE τ] [DecidableLE τ]

/-- One step; `none` if it cannot happen. -/
def step (s : SharedBreaker τ) : BreakerStep τ → Option (SharedBreaker τ)
  | .ask call now =>
    if call ∈ s.running then none
    else
      match s.breaker.permit now with
      | some admitted => some ⟨admitted, call :: s.running⟩
      | none => some s
  | .succeed call => s.finish call s.breaker.succeed
  | .fail call now => s.finish call (s.breaker.fail now)
  | .cancel call => s.finish call s.breaker
  | .reset => some { s with breaker := s.breaker.reset }

/-- Steps one after another; `none` if one of them cannot happen. -/
def run (s : SharedBreaker τ) (steps : List (BreakerStep τ)) : Option (SharedBreaker τ) :=
  steps.foldlM step s

end SharedBreaker

/-! ## Histories -/

section

variable {steps more : List (BreakerStep τ)} {e : BreakerStep τ}

lemma failuresInRow_concat : failuresInRow (steps ++ [e]) =
    if e.endsRow then 0 else failuresInRow steps + if e.failure?.isSome then 1 else 0 := by
  unfold failuresInRow
  cases he : e.endsRow with
  | true => rw [List.rtakeWhile_concat_neg _ _ _ (by simp [he])]; rfl
  | false =>
    rw [List.rtakeWhile_concat_pos _ _ _ (by simp [he]), List.countP_append, List.countP_singleton]
    rfl

lemma lastFailureIn?_concat :
    lastFailureIn? (steps ++ [e]) = e.failure?.or (lastFailureIn? steps) := by
  unfold lastFailureIn?
  rw [List.filterMap_append]
  cases he : e.failure? with
  | none => simp [he]
  | some time => simp [he]

/-- A row of failures goes on as long as no call ends well and nobody resets the breaker. -/
lemma endsRow_eq_false (hended : ¬ ∃ ended, .succeed ended ∈ steps) (hreset : .reset ∉ steps) :
    ∀ e ∈ steps, e.endsRow = false := by
  intro e hmem
  cases e with
  | succeed ended => exact absurd ⟨ended, hmem⟩ hended
  | reset => exact absurd hmem hreset
  | ask call now => rfl
  | fail call now => rfl
  | cancel call => rfl

/-- As long as no row ends, failures only become more. -/
lemma failuresInRow_le_append (h : ∀ e ∈ more, e.endsRow = false) :
    failuresInRow steps ≤ failuresInRow (steps ++ more) := by
  induction more using List.reverseRecOn with
  | nil => rw [List.append_nil]
  | append_singleton more e ih =>
    have hmore := ih fun e' he' => h e' (List.mem_append_left _ he')
    rw [← List.append_assoc, failuresInRow_concat, h e (by simp)]
    exact hmore.trans (Nat.le_add_right _ _)

/-- Behind the end of a row, what was before does not count. -/
lemma failuresInRow_append_of_endsRow (h : ∃ e ∈ more, e.endsRow = true) :
    failuresInRow (steps ++ more) = failuresInRow more := by
  induction more using List.reverseRecOn with
  | nil => simp at h
  | append_singleton more e ih =>
    rw [← List.append_assoc, failuresInRow_concat, failuresInRow_concat]
    cases he : e.endsRow with
    | true => rfl
    | false =>
      obtain ⟨e', hmem, he'⟩ := h
      rcases List.mem_append.mp hmem with hmem | hmem
      · rw [ih ⟨e', hmem, he'⟩]
      · rw [List.mem_singleton.mp hmem, he] at he'
        cases he'

end

/-! ## What the steps do to a breaker -/

variable [Sub τ] [LE τ] [DecidableLE τ]

/-- A breaker that lets a call through is as it was, unless it was open: then it is half open. -/
lemma Breaker.permit_eq_some {b c : Breaker τ} {now : τ} (h : b.permit now = some c) :
    (b.state ≠ .opened ∧ c = b) ∨
      (b.state = .opened ∧ b.isDue now = true ∧ c = { b with state := .halfOpen }) := by
  unfold Breaker.permit at h
  by_cases hopen : b.isOpen = true
  · rw [if_pos hopen] at h
    by_cases hdue : b.isDue now = true
    · rw [if_pos hdue] at h
      exact .inr ⟨beq_iff_eq.mp hopen, hdue, (Option.some.inj h).symm⟩
    · rw [if_neg hdue] at h
      cases h
  · rw [if_neg hopen] at h
    exact .inl ⟨fun hstate => hopen (beq_iff_eq.mpr hstate), (Option.some.inj h).symm⟩

/-- The state of a breaker fits the history behind it. -/
structure Tracks (threshold : Int) (timeout : τ) (steps : List (BreakerStep τ)) (b : Breaker τ) :
    Prop where
  threshold_eq : b.threshold = threshold
  timeout_eq : b.timeout = timeout
  failures_eq : b.failures = failuresInRow steps
  /-- The breaker is closed as long as there are fewer failures in a row than open it; a threshold
  below one counts as one. -/
  closed_iff : b.state = .closed ↔ (b.failures : Int) < max 1 threshold
  /-- Since the row began there has been no reset, so the time of its last failure is known. -/
  lastFailure_eq : 0 < b.failures →
    ∃ time, b.lastFailure = some time ∧ lastFailureIn? steps = some time

namespace Tracks

variable {threshold : Int} {timeout : τ} {steps : List (BreakerStep τ)} {b c : Breaker τ}

omit [Sub τ] [LE τ] [DecidableLE τ] in
/-- A step that records nothing keeps the invariant. -/
lemma silent {e : BreakerStep τ} (h : Tracks threshold timeout steps b) (hrow : e.endsRow = false)
    (hfailure : e.failure? = none) : Tracks threshold timeout (steps ++ [e]) b where
  threshold_eq := h.threshold_eq
  timeout_eq := h.timeout_eq
  failures_eq := by rw [h.failures_eq, failuresInRow_concat, hrow, hfailure]; rfl
  closed_iff := h.closed_iff
  lastFailure_eq hpos := by
    rw [lastFailureIn?_concat, hfailure]
    exact h.lastFailure_eq hpos

omit [Sub τ] [LE τ] [DecidableLE τ] in
/-- It takes failures in a row to open a breaker, at least one. -/
lemma not_lt_of_opened (h : Tracks threshold timeout steps b) (hopen : b.state = .opened) :
    ¬ (b.failures : Int) < max 1 threshold := by
  rw [← h.closed_iff, hopen]
  exact nofun

/-- So it takes them to refuse a call. -/
lemma le_failuresInRow_of_refused {now : τ} (h : Tracks threshold timeout steps b)
    (hrefused : b.permit now = none) : max 1 threshold ≤ failuresInRow steps := by
  have hopen := ((Breaker.permit_eq_none_iff b now).mp hrefused).1
  have hmany := h.not_lt_of_opened (beq_iff_eq.mp hopen)
  rw [h.failures_eq] at hmany
  exact Int.not_lt.mp hmany

lemma permit {now : τ} (h : Tracks threshold timeout steps b) (hc : b.permit now = some c) :
    Tracks threshold timeout steps c := by
  rcases Breaker.permit_eq_some hc with ⟨-, rfl⟩ | ⟨hopen, -, rfl⟩
  · exact h
  · refine ⟨h.threshold_eq, h.timeout_eq, h.failures_eq, ?_, h.lastFailure_eq⟩
    -- neither the open breaker nor the half open one is closed
    exact ⟨nofun, fun hfew => absurd hfew (h.not_lt_of_opened hopen)⟩

omit [Sub τ] [LE τ] [DecidableLE τ] in
/-- A step that ends the row leaves a closed breaker without failures. -/
lemma closed {e : BreakerStep τ} (h : Tracks threshold timeout steps b) (hrow : e.endsRow = true)
    {last : Option τ} : Tracks threshold timeout (steps ++ [e])
      { b with state := .closed, failures := 0, lastFailure := last } where
  threshold_eq := h.threshold_eq
  timeout_eq := h.timeout_eq
  failures_eq := by rw [failuresInRow_concat, hrow]; rfl
  closed_iff := by simp only [true_iff]; omega
  lastFailure_eq hpos := absurd hpos (Nat.lt_irrefl 0)

omit [Sub τ] [LE τ] [DecidableLE τ] in
/-- A failure opens the breaker or leaves it closed; whatever it was before, it is not half open. -/
lemma state_fail (h : Tracks threshold timeout steps b) (now : τ) :
    (b.fail now).state =
      if (b.failures + 1 : Int) < max 1 threshold then .closed else .opened := by
  have hfail : (b.fail now).state =
      if threshold ≤ (b.failures + 1 : Nat) then .opened else b.state := by
    rw [← h.threshold_eq]
    rfl
  rw [hfail]
  by_cases hfew : (b.failures + 1 : Int) < max 1 threshold
  · have hclosed : b.state = .closed := h.closed_iff.mpr (by omega)
    rw [if_pos hfew, if_neg (by omega), hclosed]
  · rw [if_neg hfew, if_pos (by omega)]

omit [Sub τ] [LE τ] [DecidableLE τ] in
lemma fail (h : Tracks threshold timeout steps b) (call : Nat) (now : τ) :
    Tracks threshold timeout (steps ++ [.fail call now]) (b.fail now) where
  threshold_eq := h.threshold_eq
  timeout_eq := h.timeout_eq
  failures_eq := by
    rw [Breaker.failures_fail, h.failures_eq, failuresInRow_concat]
    rfl
  closed_iff := by
    rw [h.state_fail, Breaker.failures_fail]
    push_cast
    split <;> simp [*]
  lastFailure_eq _ := ⟨now, rfl, by rw [lastFailureIn?_concat]; rfl⟩

end Tracks

/-! ## Steps and runs -/

namespace SharedBreaker

variable {s s' : SharedBreaker τ} {threshold : Int} {timeout : τ} {steps : List (BreakerStep τ)}

omit [Sub τ] [LE τ] [DecidableLE τ] in
lemma finish_eq_some {call : Nat} {b : Breaker τ} (h : s.finish call b = some s') :
    call ∈ s.running ∧ s' = ⟨b, s.running.erase call⟩ := by
  unfold finish at h
  split at h
  · next hmem => exact ⟨hmem, (Option.some.inj h).symm⟩
  · cases h

/-- A call that asks is let through, or refused with nothing changed. -/
lemma step_ask_eq_some {call : Nat} {now : τ} (h : s.step (.ask call now) = some s') :
    (∃ admitted, s.breaker.permit now = some admitted ∧ s' = ⟨admitted, call :: s.running⟩) ∨
      (s.breaker.permit now = none ∧ s' = s) := by
  simp only [step] at h
  split at h
  · cases h
  · split at h
    · next admitted hadmitted => exact .inl ⟨admitted, hadmitted, (Option.some.inj h).symm⟩
    · next hrefused => exact .inr ⟨hrefused, (Option.some.inj h).symm⟩

lemma run_concat {e : BreakerStep τ} :
    s.run (steps ++ [e]) = (s.run steps).bind fun s' => s'.step e := by
  simp [run]

lemma run_append {more : List (BreakerStep τ)} :
    s.run (steps ++ more) = (s.run steps).bind fun s' => s'.run more := by
  simp [run]

lemma tracks_step {e : BreakerStep τ} (h : Tracks threshold timeout steps s.breaker)
    (hstep : s.step e = some s') : Tracks threshold timeout (steps ++ [e]) s'.breaker := by
  cases e with
  | ask call now =>
    rcases step_ask_eq_some hstep with ⟨admitted, hadmitted, rfl⟩ | ⟨-, rfl⟩
    · exact (h.permit hadmitted).silent rfl rfl
    · exact h.silent rfl rfl
  | succeed call =>
    obtain ⟨-, rfl⟩ := finish_eq_some hstep
    exact h.closed rfl
  | fail call now =>
    obtain ⟨-, rfl⟩ := finish_eq_some hstep
    exact h.fail call now
  | cancel call =>
    obtain ⟨-, rfl⟩ := finish_eq_some hstep
    exact h.silent rfl rfl
  | reset =>
    obtain rfl := Option.some.inj hstep
    exact h.closed rfl

/-- After every run the breaker fits its history. -/
lemma tracks_run {name : String} (h : (fresh name threshold timeout).run steps = some s) :
    Tracks threshold timeout steps s.breaker := by
  induction steps using List.reverseRecOn generalizing s with
  | nil =>
    obtain rfl := Option.some.inj h
    exact ⟨rfl, rfl, rfl, by simp only [fresh, true_iff]; omega,
      fun hpos => absurd hpos (Nat.lt_irrefl 0)⟩
  | append_singleton steps e ih =>
    rw [run_concat] at h
    obtain ⟨s₁, hrun, hstep⟩ := Option.bind_eq_some_iff.mp h
    exact tracks_step (ih hrun) hstep

/-- A half open breaker has a call under way, unless that call was given up. -/
lemma not_halfOpen_of_run {name : String} (h : (fresh name threshold timeout).run steps = some s)
    (hcancel : ∀ call, .cancel call ∉ steps) (hidle : s.running = []) :
    s.breaker.state ≠ .halfOpen := by
  induction steps using List.reverseRecOn generalizing s with
  | nil =>
    obtain rfl := Option.some.inj h
    exact nofun
  | append_singleton steps e ih =>
    rw [run_concat] at h
    obtain ⟨s₁, hrun, hstep⟩ := Option.bind_eq_some_iff.mp h
    cases e with
    | ask call now =>
      rcases step_ask_eq_some hstep with ⟨admitted, -, rfl⟩ | ⟨hrefused, rfl⟩
      · cases hidle
      · have hopen := ((Breaker.permit_eq_none_iff _ now).mp hrefused).1
        rw [beq_iff_eq.mp hopen]
        exact nofun
    | succeed call =>
      obtain ⟨-, rfl⟩ := finish_eq_some hstep
      exact nofun
    | fail call now =>
      obtain ⟨-, rfl⟩ := finish_eq_some hstep
      rw [(tracks_run hrun).state_fail]
      split <;> exact nofun
    | cancel call => exact absurd (List.mem_append_right _ (by simp)) (hcancel call)
    | reset =>
      obtain rfl := Option.some.inj hstep
      exact nofun

end SharedBreaker

/-! ## The main result -/

open SharedBreaker (fresh)

/-- **The breaker over every run.**  Whatever calls of whatever callers ask, end, are given up or
overlap, and whenever the breaker is reset: it counts the failures since the last success or reset;
it is closed exactly as long as they are fewer than its threshold, which counts as one if it is
less; it refuses a call exactly when it is open and its timeout has not passed since the last
failure; and a refusal changes nothing.  Unless calls are given up, the breaker is never half open
when none is under way, so in particular never between calls that do not overlap. -/
theorem breaker_over_every_run {name : String} {threshold : Int} {timeout : τ}
    {steps : List (BreakerStep τ)} {s : SharedBreaker τ}
    (h : (fresh name threshold timeout).run steps = some s) :
    s.breaker.failures = failuresInRow steps ∧
    (s.breaker.state = .closed ↔ (failuresInRow steps : Int) < max 1 threshold) ∧
    (∀ now, s.breaker.permit now = none ↔ s.breaker.state = .opened ∧
      ∃ time, lastFailureIn? steps = some time ∧ ¬ timeout ≤ now - time) ∧
    (∀ call now, call ∉ s.running → s.breaker.permit now = none →
      s.step (.ask call now) = some s) ∧
    ((∀ call, .cancel call ∉ steps) → s.running = [] → s.breaker.state ≠ .halfOpen) := by
  have htracks := SharedBreaker.tracks_run h
  have hclosed := htracks.closed_iff
  rw [htracks.failures_eq] at hclosed
  refine ⟨htracks.failures_eq, hclosed, fun now => ?_, fun call now hnew hrefused => ?_,
    SharedBreaker.not_halfOpen_of_run h⟩
  · rw [Breaker.permit_eq_none_iff, Breaker.isOpen, beq_iff_eq]
    refine and_congr_right fun hopen => ?_
    -- an open breaker has failed, so it knows when it did so last
    have hpos : 0 < s.breaker.failures := by
      have hmany : ¬ (s.breaker.failures : Int) < max 1 threshold := by
        rw [← htracks.closed_iff, hopen]
        exact nofun
      omega
    obtain ⟨time, hbreaker, hhistory⟩ := htracks.lastFailure_eq hpos
    simp [Breaker.isDue, hbreaker, hhistory, htracks.timeout_eq]
  · simp only [SharedBreaker.step, if_neg hnew, hrefused]

/-- Two calls that overlap fail and open the breaker; a third is refused, a fourth is let through
after the timeout and fails. -/
def overlappingFailures : List (BreakerStep Int) :=
  [.ask 0 0, .ask 1 0, .fail 0 1, .fail 1 2, .ask 2 5, .ask 3 12, .fail 3 13]

/-- The breaker with threshold two after that: three failures in a row, the last one at time
thirteen. -/
theorem breaker_after_overlapping_failures :
    let s : SharedBreaker Int := ⟨⟨"shared", 2, 10, .opened, 3, some 13⟩, []⟩
    (fresh "shared" 2 10).run overlappingFailures = some s ∧
    s.breaker.failures = failuresInRow overlappingFailures ∧ s.breaker.state ≠ .closed ∧
    s.breaker.permit 22 = none ∧ s.breaker.permit 23 ≠ none ∧
    s.step (.ask 4 22) = some s ∧ s.breaker.state ≠ .halfOpen := by
  intro s
  have hrun : (fresh "shared" 2 10).run overlappingFailures = some s := by decide
  obtain ⟨hfailures, hclosed, hrefused, hkept, hsettled⟩ := breaker_over_every_run hrun
  have hlast : lastFailureIn? overlappingFailures = some 13 := by decide
  have hearly : s.breaker.permit 22 = none := (hrefused 22).mpr ⟨rfl, 13, hlast, by decide⟩
  refine ⟨hrun, hfailures, fun hstate => ?_, hearly, fun hnone => ?_, ?_, ?_⟩
  · exact absurd (hclosed.mp hstate) (by decide)
  · obtain ⟨-, time, htime, hlate⟩ := (hrefused 23).mp hnone
    obtain rfl : 13 = time := Option.some.inj (hlast.symm.trans htime)
    exact hlate (by decide)
  · exact hkept 4 22 (by decide) hearly
  · exact hsettled (fun call => by simp [overlappingFailures]) rfl

end Cascade
