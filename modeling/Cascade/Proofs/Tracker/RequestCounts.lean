import Cascade.Proofs.Resilience.SharedBreaker
import Cascade.Proofs.Tracker.Escapes

/-!
# How many requests calls make

The attempts of a call lie between the two things its breaker does: letting the call through before
the first request, and counting one success or one failure after the last.  So the number of
requests is a matter of the attempts alone, and what the breaker counts a matter of the outcome
alone.  `CallAccount` is the account of a call that was let through (`exists_callAccount`); a
refused call changes nothing (`run_call_of_refused`).

`Calling` is any sequence of calls, with anything but requests happening in between.  What a call
can add to the requests bounds what a sequence can (`Calling.length_requests_le`).  The main result
is `requests_accounted`.
-/

namespace Cascade

variable {τ : Type}

/-! ## The breaker of the tracker -/

lemma Registry.name_getOr (registry : Registry τ) (fresh : Breaker τ) :
    (registry.getOr fresh).name = fresh.name := by
  unfold Registry.getOr
  cases hget : registry.get? fresh.name with
  | none => rfl
  | some b =>
    have hname := List.find?_some hget
    exact of_decide_eq_true hname

lemma Registry.getOr_put {registry : Registry τ} {b fresh : Breaker τ} (h : b.name = fresh.name) :
    (registry.put b).getOr fresh = b := by
  rw [Registry.getOr, ← h, Registry.get?_put_self]
  rfl

lemma Breaker.name_of_permit [Sub τ] [LE τ] [DecidableLE τ] {b admitted : Breaker τ} {now : τ}
    (h : b.permit now = some admitted) : admitted.name = b.name := by
  rcases Breaker.permit_eq_some h with ⟨-, rfl⟩ | ⟨-, -, rfl⟩
  · rfl
  · rfl

namespace Tracker

variable {settings : CallSettings} {around : Surroundings} {before after session start s : Session}
  {r : Request} {outcome : Except CallFailure Response} {n k : Nat}

/-- The breaker of the tracker, as a session has it. -/
def CallSettings.breakerIn (settings : CallSettings) (session : Session) : Breaker Float :=
  session.breakers.getOr settings.breaker

/-! ## One call -/

/-- What becomes of a call that is let through and makes `n` requests. -/
structure CallAccount (settings : CallSettings) (around : Surroundings) (r : Request)
    (before : Session) (outcome : Except CallFailure Response) (after : Session) (n : Nat) :
    Prop where
  requests : after.requests = before.requests ++ List.replicate n r
  /-- No more requests than attempts are allowed; none if their number is not positive. -/
  atMost : n ≤ settings.maxAttempts.toNat
  /-- A request that is followed by another one was lost. -/
  lost : ∀ k, k + 1 < n → ∃ message, replyAfter around before r k = .disconnected message
  /-- If more were allowed, the last request was not lost, or no wait could be computed. -/
  last : n < settings.maxAttempts.toNat →
    ∃ k, n = k + 1 ∧ ((∀ message, replyAfter around before r k ≠ .disconnected message) ∨
      ∃ fault, settings.backoff.delay around.spread n = .error fault)
  /-- The call gives what answers its last request, if that is a success, and fails otherwise. -/
  answered : ∀ response, outcome = .ok response ↔
    ∃ k, n = k + 1 ∧ replyAfter around before r k = .answered response ∧
      response.isSuccess = true
  succeeded : ∀ response, outcome = .ok response →
    (settings.breakerIn after).failures = 0 ∧ (settings.breakerIn after).state = .closed
  failed : ∀ failure, outcome = .error failure →
    (settings.breakerIn after).failures = (settings.breakerIn before).failures + 1

lemma Reply.outcome_eq_ok_iff {reply : Reply} {response : Response} :
    reply.outcome = .ok response ↔ reply = .answered response ∧ response.isSuccess = true := by
  cases reply with
  | answered response' =>
    rw [Reply.outcome, Reply.answered.injEq]
    split
    · next hsuccess =>
      refine ⟨fun h => ?_, fun h => congrArg _ h.1⟩
      obtain rfl := Except.ok.inj h
      exact ⟨rfl, hsuccess⟩
    · next hsuccess =>
      constructor
      · intro h
        cases h
      · rintro ⟨rfl, h⟩
        exact absurd h hsuccess
  | disconnected message => simp [Reply.outcome]
  | broken mishap => simp [Reply.outcome]

lemma mapError_eq_ok {ε ε' α : Type} {f : ε → ε'} {outcome : Except ε α} {a : α} :
    outcome.mapError f = .ok a ↔ outcome = .ok a := by
  cases outcome with
  | ok b =>
    have hleft : (Except.ok b : Except ε α).mapError f = .ok b := rfl
    rw [hleft, Except.ok.injEq, Except.ok.injEq]
  | error e =>
    have hleft : (Except.error e : Except ε α).mapError f = .error (f e) := rfl
    rw [hleft]
    simp only [reduceCtorEq]

/-- A call that was let through leaves the breaker that it settles. -/
lemma breakerIn_put_settle {ε : Type} {admitted : Breaker Float}
    (h : (settings.breakerIn before).permit before.clock = some admitted) (after : Session)
    (outcome : Except ε Response) :
    settings.breakerIn
        { after with breakers := after.breakers.put (settle admitted after.clock outcome) } =
      settle admitted after.clock outcome := by
  have hname : (settle admitted after.clock outcome).name = settings.breaker.name := by
    have hadmitted := (Breaker.name_of_permit h).trans (Registry.name_getOr _ _)
    cases outcome <;> exact hadmitted
  exact Registry.getOr_put hname

/-- What is counted of a call is one success or one failure. -/
lemma breakerIn_settle {ε : Type} {admitted : Breaker Float}
    (h : (settings.breakerIn before).permit before.clock = some admitted) (after : Session)
    (outcome : Except ε Response) :
    let breaker := settings.breakerIn
      { after with breakers := after.breakers.put (settle admitted after.clock outcome) }
    (∀ response, outcome = .ok response → breaker.failures = 0 ∧ breaker.state = .closed) ∧
      ∀ e, outcome = .error e → breaker.failures = (settings.breakerIn before).failures + 1 := by
  intro breaker
  have hbreaker : breaker = settle admitted after.clock outcome :=
    breakerIn_put_settle h after outcome
  rw [hbreaker]
  refine ⟨fun response hok => ?_, fun e herror => ?_⟩
  · rw [hok]
    exact ⟨Breaker.failures_succeed _, Breaker.state_succeed _⟩
  · rw [herror]
    exact (Breaker.failures_fail _ _).trans (congrArg (· + 1) (Breaker.failures_of_permit h))

/-- The attempts of a call end at the one behind `n` requests that were lost. -/
lemma callAccount_of_ends {left : Nat} {kept : Session}
    {e : Except (RetryFailure RequestFailure PowerFault) Response}
    (hmax : settings.maxAttempts.toNat = n + (left + 1))
    (hrequests : s.requests = before.requests ++ List.replicate n r)
    (hlost : Loses settings around before r n)
    (hends : (settings.policy around).Ends (makeRequest around r) left (n + 1) s (e, kept))
    (hafter : after.requests = kept.requests)
    (hsucceeded : ∀ response, e = .ok response →
      (settings.breakerIn after).failures = 0 ∧ (settings.breakerIn after).state = .closed)
    (hfailed : ∀ failure, e = .error failure →
      (settings.breakerIn after).failures = (settings.breakerIn before).failures + 1) :
    CallAccount settings around r before (e.mapError (callFailure r)) after (n + 1) := by
  obtain ⟨result, hcall, hok, hstop⟩ := hends.exists_run
  rw [run_makeRequest_of_reply hrequests rfl] at hcall
  obtain ⟨rfl, rfl⟩ := Prod.mk.inj hcall
  -- if another request were allowed, the last one was not lost or could not be followed
  have hlast (hmore : left ≠ 0) :
      (∀ message, replyAfter around before r n ≠ .disconnected message) ∨
        ∃ fault, settings.backoff.delay around.spread (n + 1 : Nat) = .error fault := by
    by_cases hreply : ∃ message, replyAfter around before r n = .disconnected message
    · obtain ⟨message, hreply⟩ := hreply
      have hdisconnected :
          (replyAfter around before r n).outcome = .error (.disconnected message) :=
        (Reply.outcome_eq_error_iff rfl).mpr hreply
      exact .inr ((hstop _ hdisconnected rfl).resolve_left hmore)
    · exact .inl fun message h => hreply ⟨message, h⟩
  have hanswered (response : Response) : e.mapError (callFailure r) = .ok response ↔
      replyAfter around before r n = .answered response ∧ response.isSuccess = true := by
    rw [mapError_eq_ok, hok, Reply.outcome_eq_ok_iff]
  exact {
    requests := by rw [hafter, List.replicate_succ', ← List.append_assoc, ← hrequests]
    atMost := by omega
    lost := fun k hk => (hlost k (by omega)).1
    last := fun hmore => ⟨n, rfl, hlast (by omega)⟩
    answered := fun response => (hanswered response).trans
      ⟨fun h => ⟨n, rfl, h⟩, fun ⟨k, hk, h⟩ => Nat.succ.inj hk ▸ h⟩
    succeeded := fun response h => hsucceeded response (mapError_eq_ok.mp h)
    failed := fun failure h => by
      cases e with
      | ok response => cases h
      | error failure' => exact hfailed failure' rfl }

/-- A call that is let through has an account. -/
lemma exists_callAccount (around : Surroundings) (r : Request) (hadmits : Admits settings before) :
    ∃ n, CallAccount settings around r before ((call settings around r).run before).1
      ((call settings around r).run before).2 n := by
  obtain ⟨admitted, hpermit⟩ := Option.ne_none_iff_exists'.mp hadmits
  generalize hretry : (retry (settings.policy around) (wait around) (makeRequest around r)).run
    { before with breakers := before.breakers.put admitted } = out
  obtain ⟨e, kept⟩ := out
  rw [run_call_of_admitted hpermit hretry]
  obtain ⟨hsucceeded, hfailed⟩ := breakerIn_settle hpermit kept e
  rcases run_retry_eq_iff.mp hretry with ⟨hmax, hnone⟩ | ⟨n, left, s, hmax, hdue, hends⟩
  · obtain ⟨rfl, rfl⟩ := Prod.mk.inj hnone
    replace hmax : settings.maxAttempts.toNat = 0 := hmax
    exact ⟨0, {
      requests := by simp
      atMost := Nat.zero_le _
      lost := nofun
      last := fun hmore => absurd hmore (by omega)
      answered := fun response => ⟨nofun, fun ⟨k, hk, _⟩ => nomatch hk⟩
      succeeded := nofun
      failed := fun _ _ => hfailed _ rfl }⟩
  · obtain ⟨hrequests, hlost⟩ := loses_of_due hdue
    exact ⟨n + 1, callAccount_of_ends hmax hrequests hlost hends rfl hsucceeded hfailed⟩

/-! ## Sequences of calls -/

/-- A sequence of calls has led from one session to another, and `k` of them have been let through.
Between calls time may pass and others may use the breaker; requests are made by calls only. -/
inductive Calling (settings : CallSettings) (start : Session) : Nat → Session → Prop
  | start : Calling settings start 0 start
  | admitted {k : Nat} {s : Session} (around : Surroundings) (r : Request)
    (h : Calling settings start k s) (hadmits : Admits settings s) :
    Calling settings start (k + 1) ((call settings around r).run s).2
  | refused {k : Nat} {s : Session} (around : Surroundings) (r : Request)
    (h : Calling settings start k s) (hadmits : ¬ Admits settings s) :
    Calling settings start k ((call settings around r).run s).2
  | meanwhile {k : Nat} {s s' : Session} (h : Calling settings start k s)
    (hrequests : s'.requests = s.requests) : Calling settings start k s'

lemma run_call_of_not_admits (h : ¬ Admits settings before) :
    (call settings around r).run before =
      (.error (failure (settings.breakerIn before).refusal [("url", .str r.url)]), before) :=
  run_call_of_refused (Classical.not_not.mp h)

/-- A sequence of calls makes no more requests than as many calls may make. -/
lemma Calling.length_requests_le (h : Calling settings start k s) :
    s.requests.length ≤ start.requests.length + settings.maxAttempts.toNat * k := by
  induction h with
  | start => exact Nat.le_refl _
  | @admitted k s around r h hadmits ih =>
    obtain ⟨n, haccount⟩ := exists_callAccount around r hadmits
    have hcount := haccount.atMost
    rw [haccount.requests, List.length_append, List.length_replicate, Nat.mul_succ]
    omega
  | refused around r h hadmits ih =>
    rw [run_call_of_not_admits hadmits]
    exact ih
  | meanwhile h hrequests ih => rwa [hrequests]

/-- **The requests of calls are accounted for.**  Whatever the settings, the breaker and the
replies: a call that the breaker refuses makes no request and leaves everything as it was.  A call
that is let through makes at most as many requests as attempts are allowed, and a further one only
directly after one that was lost; a response or any other failure ends it.  However many requests it
made, the breaker counts one failure if it fails; if it succeeds the breaker is closed and counts
none.  So a sequence of calls makes at most that many requests for each call that is let through. -/
theorem requests_accounted (settings : CallSettings) :
    (∀ (around : Surroundings) (r : Request) (before : Session),
      let result := (call settings around r).run before
      (¬ Admits settings before →
        result = (.error (failure (settings.breakerIn before).refusal [("url", .str r.url)]),
          before)) ∧
      (Admits settings before → ∃ n, CallAccount settings around r before result.1 result.2 n)) ∧
    ∀ (start s : Session) (k : Nat), Calling settings start k s →
      s.requests.length ≤ start.requests.length + settings.maxAttempts.toNat * k :=
  ⟨fun around r _ => ⟨run_call_of_not_admits, exists_callAccount around r⟩,
    fun _ _ _ => Calling.length_requests_le⟩

/-- Two attempts are allowed.  The first request of a call is lost and the second one answered;
after that the breaker is opened by others, and one more call is refused: there are two requests for
the one call that was let through. -/
theorem two_requests_for_one_call :
    let settings : CallSettings := { maxAttempts := 2, backoff := { growth := .constant } }
    let reply (seen : List Request) (_ : Request) : Reply :=
      if seen.isEmpty then .disconnected "reset" else .answered ⟨200, []⟩
    let around : Surroundings := { transport := reply }
    let r : Request := { verb := .get, url := "u" }
    let start : Session := { clock := 5.0 }
    let after := ((call settings around r).run start).2
    let opened : Breaker Float :=
      { settings.breaker with state := .opened, failures := 5, lastFailure := some 4.0 }
    let s : Session := { after with breakers := [opened] }
    let last := ((call settings around r).run s).2
    (Admits settings start ∧ ∃ n, CallAccount settings around r start (.ok ⟨200, []⟩) after n) ∧
      (¬ Admits settings s ∧ last = s) ∧
      last.requests.length = 2 ∧ last.requests.length ≤ start.requests.length + 2 * 1 := by
  intro settings reply around r start after opened s last
  have hadmits : Admits settings start := Option.some_ne_none _
  have houtcome : ((call settings around r).run start).1 = .ok ⟨200, []⟩ := rfl
  have hrefused : ¬ Admits settings s := fun h => h (by decide +kernel)
  have hcalling : Calling settings start 1 last :=
    .refused around r (.meanwhile (.admitted around r .start hadmits) rfl) hrefused
  obtain ⟨hcalls, hsequences⟩ := requests_accounted settings
  have haccount := (hcalls around r start).2 hadmits
  have hsame : last = s := congrArg Prod.snd ((hcalls around r s).1 hrefused)
  rw [houtcome] at haccount
  have hcount : last.requests.length = 2 := hsame ▸ rfl
  exact ⟨⟨hadmits, haccount⟩, ⟨hrefused, hsame⟩, hcount, hsequences start last 1 hcalling⟩

end Tracker

end Cascade
