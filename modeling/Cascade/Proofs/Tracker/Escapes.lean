import Cascade.Proofs.Resilience.Retrying
import Cascade.Proofs.Tracker.Requests

/-!
# Failures that calls leave as they are

A call is prepared for responses, lost requests and an open breaker.  What it is not prepared for is
a request that breaks off, and a wait that cannot be computed: `Escapes` says when a call gets
there, in terms of what becomes of its requests one after another (`replyAfter`) and not of the
call.

The requests of a call are lost as long as attempts are due (`loses_of_due`, `exists_due_of_loses`).
With the way attempts end this tells when a failure leaves the call as it is (`call_escapes_iff`);
in all other cases there is a response, or the tracker is reported (`call_surfaces_iff`).  Reading a
work item copes with failures of one more kind (`exists_readItem_eq_ok_iff`).
-/

namespace Cascade.Tracker

variable {settings : CallSettings} {around : Surroundings} {session start s : Session} {r : Request}
  {n : Nat} {x : Escape}

/-! ## What calls are not prepared for -/

/-- What becomes of a request that has been made `n` times. -/
def replyAfter (around : Surroundings) (session : Session) (r : Request) (n : Nat) : Reply :=
  around.transport (session.requests ++ List.replicate n r) r

/-- The request is lost as often as this, and after each time the wait can be computed. -/
def Loses (settings : CallSettings) (around : Surroundings) (session : Session) (r : Request)
    (n : Nat) : Prop :=
  ∀ k < n, (∃ message, replyAfter around session r k = .disconnected message) ∧
    ∃ seconds, settings.backoff.delay around.spread (k + 1 : Nat) = .ok seconds

/-- The breaker lets a call through. -/
def Admits (settings : CallSettings) (session : Session) : Prop :=
  (session.breakers.getOr settings.breaker).permit session.clock ≠ none

/-- A call gets to a failure that it is not prepared for. -/
inductive Escapes (settings : CallSettings) (around : Surroundings) (session : Session)
    (r : Request) : Escape → Prop
  /-- A request breaks off, after others that were lost. -/
  | mishap {n : Nat} {mishap : Mishap} (hadmits : Admits settings session)
    (hattempts : n < settings.maxAttempts.toNat) (hlost : Loses settings around session r n)
    (hreply : replyAfter around session r n = .broken mishap) :
    Escapes settings around session r (.mishap mishap)
  /-- A request is lost that would be made again, but the wait cannot be computed. -/
  | noDelay {n : Nat} {message : String} {fault : PowerFault} (hadmits : Admits settings session)
    (hattempts : n + 1 < settings.maxAttempts.toNat) (hlost : Loses settings around session r n)
    (hreply : replyAfter around session r n = .disconnected message)
    (hdelay : settings.backoff.delay around.spread (n + 1 : Nat) = .error fault) :
    Escapes settings around session r (.noDelay fault)

/-- An outcome of a call that is a response, or else a failure of the tracker that is reported. -/
def Surfaces {α : Type} (outcome : Except CallFailure α) : Prop :=
  (∃ a, outcome = .ok a) ∨
    ∃ fault, outcome = .error (.reported fault) ∧ fault.kind = .externalService

/-! ## The requests of a call -/

/-- What a reply is to the call. -/
def Reply.outcome : Reply → Except RequestFailure Response
  | .answered response =>
    if response.isSuccess then .ok response else .error (.status response.status)
  | .disconnected message => .error (.disconnected message)
  | .broken mishap => .error (.broken mishap)

lemma run_makeRequest : (makeRequest around r).run session =
    ((around.transport session.requests r).outcome, { session with
      clock := session.clock + around.requestTime session.requests r
      requests := session.requests ++ [r] }) := by
  unfold makeRequest
  simp only [StateT.run_bind, StateT.run_get, StateT.run_set, pure_bind]
  cases around.transport session.requests r <;> rfl

/-- After requests that were lost, what becomes of the next one. -/
lemma run_makeRequest_of_reply {outcome : Except RequestFailure Response}
    (hrequests : s.requests = session.requests ++ List.replicate n r)
    (hreply : (replyAfter around session r n).outcome = outcome) :
    (makeRequest around r).run s = (outcome, { s with
      clock := s.clock + around.requestTime s.requests r, requests := s.requests ++ [r] }) := by
  rw [run_makeRequest, ← hreply, replyAfter, ← hrequests]

/-- The reply that fails in this way, if it is none with a response. -/
def RequestFailure.reply? : RequestFailure → Option Reply
  | .status _ => none
  | .disconnected message => some (.disconnected message)
  | .broken mishap => some (.broken mishap)

/-- A failure without a response tells the reply. -/
lemma Reply.outcome_eq_error_iff {reply lost : Reply} {e : RequestFailure}
    (h : e.reply? = some lost) : reply.outcome = .error e ↔ reply = lost := by
  cases e with
  | status code => cases h
  | disconnected | broken =>
    obtain rfl := Option.some.inj h
    cases reply with
    | answered response =>
      simp only [Reply.outcome, reduceCtorEq, iff_false]
      split <;> simp
    | disconnected | broken => simp [Reply.outcome]

lemma isPassing_eq_true_iff {e : RequestFailure} :
    e.isPassing = true ↔ ∃ message, e = .disconnected message := by
  cases e <;> simp [RequestFailure.isPassing]

/-- An attempt is due after requests that were lost. -/
lemma loses_of_due
    (h : (settings.policy around).Due (wait around) (makeRequest around r) start n s) :
    s.requests = start.requests ++ List.replicate n r ∧ Loses settings around start r n := by
  induction h with
  | first => exact ⟨by simp, nofun⟩
  | @again n s s' e d hdue hcall hpassing hdelay ih =>
    obtain ⟨hrequests, hlost⟩ := ih
    obtain ⟨message, rfl⟩ := isPassing_eq_true_iff.mp hpassing
    rw [run_makeRequest] at hcall
    obtain ⟨houtcome, rfl⟩ := Prod.mk.inj hcall
    refine ⟨?_, fun k hk => ?_⟩
    · change s.requests ++ [r] = _
      rw [hrequests, List.append_assoc, List.replicate_succ']
    · rcases Nat.lt_succ_iff_lt_or_eq.mp hk with hk | rfl
      · exact hlost k hk
      · rw [hrequests] at houtcome
        exact ⟨⟨message, (Reply.outcome_eq_error_iff rfl).mp houtcome⟩, d, hdelay⟩

/-- After requests that were lost, an attempt is due. -/
lemma exists_due_of_loses (h : Loses settings around start r n) :
    ∃ s, (settings.policy around).Due (wait around) (makeRequest around r) start n s := by
  induction n with
  | zero => exact ⟨start, .first⟩
  | succ n ih =>
    obtain ⟨s, hdue⟩ := ih fun k hk => h k (Nat.lt_succ_of_lt hk)
    obtain ⟨⟨message, hreply⟩, d, hdelay⟩ := h n (Nat.lt_succ_self n)
    have hlost : (replyAfter around start r n).outcome = .error (.disconnected message) :=
      (Reply.outcome_eq_error_iff rfl).mpr hreply
    have hcall := run_makeRequest_of_reply (loses_of_due hdue).1 hlost
    exact ⟨_, .again hdue hcall rfl hdelay⟩

/-! ## Calls -/

lemma callFailure_eq_escaped_iff {e : RetryFailure RequestFailure PowerFault} :
    callFailure r e = .escaped x ↔
      (∃ mishap, e = .permanent (.broken mishap) ∧ x = .mishap mishap) ∨
        ∃ fault, e = .noDelay fault ∧ x = .noDelay fault := by
  cases e with
  | permanent e =>
    cases e with
    | status code => simp [callFailure, failure]
    | disconnected message => simp [callFailure, callFailure.exhausted, failure]
    | broken mishap => simp [callFailure, eq_comm]
  | exhausted attempts last => simp [callFailure, callFailure.exhausted, failure]
  | notAttempted => simp [callFailure, callFailure.exhausted, failure]
  | noDelay fault => simp [callFailure, eq_comm]

/-- The breaker refuses a call. -/
lemma run_call_of_refused
    (h : (session.breakers.getOr settings.breaker).permit session.clock = none) :
    (call settings around r).run session =
      (.error (failure (session.breakers.getOr settings.breaker).refusal [("url", .str r.url)]),
        session) := by
  have hget : (get : StateM Session Session).run session = (session, session) := rfl
  unfold call
  rw [run_bind_of_run hget]
  simp only [h]
  rfl

/-- A breaker after a call that it has let through. -/
def settle {ε α : Type} (admitted : Breaker Float) (now : Float) : Except ε α → Breaker Float
  | .ok _ => admitted.succeed
  | .error _ => admitted.fail now

/-- The breaker lets a call through; what comes of it comes of trying, and the breaker counts it
once, at the time when it is known. -/
lemma run_call_of_admitted {admitted : Breaker Float}
    {outcome : Except (RetryFailure RequestFailure PowerFault) Response} {after : Session}
    (h : (session.breakers.getOr settings.breaker).permit session.clock = some admitted)
    (hretry : (retry (settings.policy around) (wait around) (makeRequest around r)).run
      { session with breakers := session.breakers.put admitted } = (outcome, after)) :
    (call settings around r).run session =
      (outcome.mapError (callFailure r),
        { after with breakers := after.breakers.put (settle admitted after.clock outcome) }) := by
  have hget : (get : StateM Session Session).run session = (session, session) := rfl
  have hkeep : (keepBreaker admitted).run session =
    ((), { session with breakers := session.breakers.put admitted }) := rfl
  unfold call
  rw [run_bind_of_run hget]
  simp only [h]
  rw [run_bind_of_run hkeep, run_bind_of_run hretry]
  cases outcome with
  | ok response => rfl
  | error e => rfl

lemma outcome_call_of_admitted {admitted : Breaker Float}
    (h : (session.breakers.getOr settings.breaker).permit session.clock = some admitted) :
    ((call settings around r).run session).1 =
      ((retry (settings.policy around) (wait around) (makeRequest around r)).run
        { session with breakers := session.breakers.put admitted }).1.mapError (callFailure r) :=
  congrArg Prod.fst (run_call_of_admitted h rfl)

/-- Where attempts end with a failure that is none of the tracker, the call gets to one that it is
not prepared for. -/
lemma escapes_of_ends {left : Nat} {e : RetryFailure RequestFailure PowerFault} {after : Session}
    (hadmits : Admits settings session) (hmax : settings.maxAttempts.toNat = n + (left + 1))
    (hrequests : s.requests = session.requests ++ List.replicate n r)
    (hlost : Loses settings around session r n)
    (hends : (settings.policy around).Ends (makeRequest around r) left (n + 1) s (.error e, after))
    (he : callFailure r e = .escaped x) : Escapes settings around session r x := by
  have hreply {e' : RequestFailure} {s' : Session}
      (hcall : (makeRequest around r).run s = (.error e', s')) :
      (replyAfter around session r n).outcome = .error e' := by
    rw [run_makeRequest_of_reply hrequests rfl] at hcall
    exact (Prod.mk.inj hcall).1
  rcases callFailure_eq_escaped_iff.mp he with ⟨mishap, rfl, rfl⟩ | ⟨fault, rfl, rfl⟩
  · cases hends with
    | permanent hcall hpassing =>
      have hbroken := (Reply.outcome_eq_error_iff rfl).mp (hreply hcall)
      exact .mishap hadmits (by omega) hlost hbroken
  · cases hends with
    | noDelay hcall hpassing hleft hdelay =>
      obtain ⟨message, rfl⟩ := isPassing_eq_true_iff.mp hpassing
      have hdisconnected := (Reply.outcome_eq_error_iff rfl).mp (hreply hcall)
      exact .noDelay hadmits (by omega) hlost hdisconnected hdelay

/-- An attempt that ends the call, after requests that were lost, gives its outcome. -/
lemma outcome_call_of_ends {left : Nat} {e : RetryFailure RequestFailure PowerFault}
    (hadmits : Admits settings session) (hmax : settings.maxAttempts.toNat = n + (left + 1))
    (hlost : Loses settings around session r n)
    (hends : ∀ s : Session, s.requests = session.requests ++ List.replicate n r →
      ∃ after, (settings.policy around).Ends (makeRequest around r) left (n + 1) s
        (.error e, after)) :
    ((call settings around r).run session).1 = .error (callFailure r e) := by
  obtain ⟨admitted, hpermit⟩ := Option.ne_none_iff_exists'.mp hadmits
  -- The breaker that let the call through is in its place when the first request is made.
  obtain ⟨s, hdue⟩ : ∃ s, (settings.policy around).Due (wait around) (makeRequest around r)
      { session with breakers := session.breakers.put admitted } n s := exists_due_of_loses hlost
  obtain ⟨after, hends⟩ := hends s (loses_of_due hdue).1
  rw [outcome_call_of_admitted hpermit,
    run_retry_eq_iff.mpr (.inr ⟨n, left, s, hmax, hdue, hends⟩)]
  rfl

lemma escapes_of_call (h : ((call settings around r).run session).1 = .error (.escaped x)) :
    Escapes settings around session r x := by
  cases hpermit : (session.breakers.getOr settings.breaker).permit session.clock with
  | none =>
    rw [run_call_of_refused hpermit] at h
    exact nomatch h
  | some admitted =>
    have hadmits : Admits settings session := by simp [Admits, hpermit]
    rw [outcome_call_of_admitted hpermit] at h
    generalize hout : (retry (settings.policy around) (wait around) (makeRequest around r)).run
      { session with breakers := session.breakers.put admitted } = out at h
    obtain ⟨outcome, after⟩ := out
    cases outcome with
    | ok response => exact nomatch h
    | error e =>
      have he : callFailure r e = .escaped x := Except.error.inj h
      rcases run_retry_eq_iff.mp hout with ⟨-, hnone⟩ | ⟨n, left, s, hmax, hdue, hends⟩
      · obtain rfl := Except.error.inj (Prod.mk.inj hnone).1
        exact nomatch he
      · obtain ⟨hrequests, hlost⟩ := loses_of_due hdue
        exact escapes_of_ends hadmits hmax hrequests hlost hends he

lemma Escapes.outcome_call (h : Escapes settings around session r x) :
    ((call settings around r).run session).1 = .error (.escaped x) := by
  cases h with
  | @mishap n mishap hadmits hattempts hlost hreply =>
    obtain ⟨left, hleft⟩ := Nat.exists_eq_add_of_lt hattempts
    have he : callFailure r (.permanent (.broken mishap)) = .escaped (.mishap mishap) := rfl
    rw [← he]
    refine outcome_call_of_ends hadmits (by omega : _ = n + (left + 1)) hlost fun s hs => ?_
    have hbroken : (replyAfter around session r n).outcome = .error (.broken mishap) :=
      (Reply.outcome_eq_error_iff rfl).mpr hreply
    exact ⟨_, .permanent (run_makeRequest_of_reply hs hbroken) rfl⟩
  | @noDelay n message fault hadmits hattempts hlost hreply hdelay =>
    obtain ⟨left, hleft⟩ := Nat.exists_eq_add_of_lt hattempts
    have he : callFailure r (.noDelay fault) = .escaped (.noDelay fault) := rfl
    rw [← he]
    refine outcome_call_of_ends hadmits (by omega : _ = n + (left + 1 + 1)) hlost fun s hs => ?_
    have hdisconnected : (replyAfter around session r n).outcome = .error (.disconnected message) :=
      (Reply.outcome_eq_error_iff rfl).mpr hreply
    have hcall := run_makeRequest_of_reply hs hdisconnected
    exact ⟨_, .noDelay hcall rfl (Nat.succ_ne_zero left) hdelay⟩

/-- A failure leaves a call as it is exactly where the call is not prepared for it. -/
lemma call_escapes_iff : ((call settings around r).run session).1 = .error (.escaped x) ↔
    Escapes settings around session r x :=
  ⟨escapes_of_call, Escapes.outcome_call⟩

lemma kind_eq_externalService {fault : Fault} (h : fault.status = 502) :
    fault.kind = .externalService := by
  unfold Fault.status at h
  split at h
  · assumption
  · exact absurd h (by decide)

/-- In all other cases there is a response, or the tracker is reported. -/
lemma call_surfaces_iff : Surfaces ((call settings around r).run session).1 ↔
    ∀ x, ¬ Escapes settings around session r x := by
  constructor
  · intro h x hx
    rw [hx.outcome_call] at h
    rcases h with ⟨a, ha⟩ | ⟨fault, hfault, -⟩
    · exact nomatch ha
    · exact nomatch hfault
  · intro h
    generalize hout : ((call settings around r).run session).1 = outcome
    match outcome, hout with
    | .ok response, _ => exact .inl ⟨response, rfl⟩
    | .error (.reported fault), hout =>
      have hstatus := (reportsTracker_call r session fault hout).1
      exact .inr ⟨fault, rfl, kind_eq_externalService hstatus⟩
    | .error (.escaped x), hout => exact absurd (call_escapes_iff.mp hout) (h x)

/-! ## Work items -/

/-- Whether reading a work item copes with a failure. -/
def Escape.isBadValue : Escape → Bool
  | .mishap m => m.isBadValue
  | .noDelay _ => false

/-- Reading a work item fails exactly where a failure escapes that it does not cope with. -/
lemma readItem_eq_error_iff {c : Client} {url : Text} :
    ((c.readItem url).run session).1 = .error x ↔
      Escapes c.calls c.around session (c.itemRequest url) x ∧ x.isBadValue = false := by
  rw [← call_escapes_iff]
  generalize hout : (call c.calls c.around (c.itemRequest url)).run session = out
  obtain ⟨outcome, after⟩ := out
  rw [Client.readItem, run_bind_of_run hout]
  match outcome with
  | .ok response => exact ⟨nofun, fun h => nomatch h.1⟩
  | .error (.reported fault) => exact ⟨nofun, fun h => nomatch h.1⟩
  | .error (.escaped (.noDelay fault)) =>
    constructor
    · intro h
      obtain rfl := Except.error.inj h
      exact ⟨rfl, rfl⟩
    · rintro ⟨h, -⟩
      obtain rfl := CallFailure.escaped.inj (Except.error.inj h)
      rfl
  | .error (.escaped (.mishap m)) =>
    change (if m.isBadValue then Except.ok none else .error (Escape.mishap m)) = _ ↔ _
    by_cases hbad : m.isBadValue = true
    · rw [if_pos hbad]
      refine ⟨nofun, fun ⟨h, hx⟩ => ?_⟩
      obtain rfl := CallFailure.escaped.inj (Except.error.inj h)
      rw [Escape.isBadValue, hbad] at hx
      exact nomatch hx
    · rw [if_neg hbad]
      constructor
      · intro h
        obtain rfl := Except.error.inj h
        exact ⟨rfl, Bool.not_eq_true _ |>.mp hbad⟩
      · rintro ⟨h, -⟩
        obtain rfl := CallFailure.escaped.inj (Except.error.inj h)
        rfl

/-- A work item is had, or counts as absent, unless a failure escapes that reading does not cope
with. -/
lemma exists_readItem_eq_ok_iff {c : Client} {url : Text} :
    (∃ item, ((c.readItem url).run session).1 = .ok item) ↔
      ∀ x, Escapes c.calls c.around session (c.itemRequest url) x → x.isBadValue = true := by
  constructor
  · rintro ⟨item, hitem⟩ x hx
    refine eq_true_of_ne_false fun hbad => ?_
    have herror := readItem_eq_error_iff.mpr ⟨hx, hbad⟩
    rw [hitem] at herror
    exact nomatch herror
  · intro hall
    cases hout : ((c.readItem url).run session).1 with
    | ok item => exact ⟨item, rfl⟩
    | error x =>
      obtain ⟨hx, hbad⟩ := readItem_eq_error_iff.mp hout
      rw [hall x hx] at hbad
      exact nomatch hbad

end Cascade.Tracker
