import Mathlib.Tactic.Lemma
import Cascade.Json.Writer
import Cascade.Tracker.Client

/-!
# The requests that calls make

Whatever the transport answers, a call makes no request but its own, as often as it is tried again.
`MakesOnly P x` says that a computation adds requests to those made before, all of them with the
property `P`; it is closed under the steps of a computation (`MakesOnly.bind`) and under trying
again (`MakesOnly.retry`).  So reading asks with `GET` only (`makesOnly_readItem` and the lemmas
after it), and writing a batch asks with `PATCH` at the address of the batch only
(`makesOnly_send`).

Of a failed call the tracker is what is reported, together with the address of the request; so the
report can be written if the address can (`reportsTracker_call`).
-/

namespace Cascade

/-- Whether a fault can be told: its message and its details can be written. -/
def Fault.isTellable (fault : Fault) : Bool :=
  fault.message.isWhole && Json.areEntriesWritable fault.details

namespace Tracker

/-- A session with further requests, all of which have a property. -/
def Session.Asks (P : Request → Prop) (before after : Session) : Prop :=
  ∃ more, after.requests = before.requests ++ more ∧ ∀ q ∈ more, P q

namespace Session.Asks

variable {P Q : Request → Prop} {a b c : Session}

lemma of_eq (h : b.requests = a.requests) : a.Asks P b := ⟨[], by simp [h], by simp⟩

lemma refl (a : Session) : a.Asks P a := of_eq rfl

lemma trans (hab : a.Asks P b) (hbc : b.Asks P c) : a.Asks P c := by
  obtain ⟨first, hb, hfirst⟩ := hab
  obtain ⟨second, hc, hsecond⟩ := hbc
  refine ⟨first ++ second, by rw [hc, hb, List.append_assoc], fun q hq => ?_⟩
  exact (List.mem_append.mp hq).elim (hfirst q) (hsecond q)

lemma mono (h : a.Asks P b) (hPQ : ∀ q, P q → Q q) : a.Asks Q b := by
  obtain ⟨more, hb, hmore⟩ := h
  exact ⟨more, hb, fun q hq => hPQ q (hmore q hq)⟩

end Session.Asks

/-! ## Computations -/

section

variable {σ α β : Type} {view : σ → Session} {P Q : Request → Prop}

/-- Every run of a computation adds to the requests of a session, which is part of its state, and
adds only such with a property. -/
def MakesOnly (view : σ → Session) (P : Request → Prop) (x : StateM σ α) : Prop :=
  ∀ s, (view s).Asks P (view (x.run s).2)

namespace MakesOnly

lemma asks {x : StateM σ α} {s s' : σ} {a : α} (hx : MakesOnly view P x)
    (h : x.run s = (a, s')) : (view s).Asks P (view s') := by
  have hs := hx s
  rwa [h] at hs

lemma pure (a : α) : MakesOnly view P (Pure.pure a) := fun s => .refl (view s)

lemma get : MakesOnly view P (MonadState.get : StateM σ σ) := fun s => .refl (view s)

lemma modify {f : σ → σ} (h : ∀ s, (view (f s)).requests = (view s).requests) :
    MakesOnly view P (modifyThe σ f : StateM σ Unit) := fun s => .of_eq (h s)

lemma bind {x : StateM σ α} {f : α → StateM σ β} (hx : MakesOnly view P x)
    (hf : ∀ a, MakesOnly view P (f a)) : MakesOnly view P (x >>= f) :=
  fun s => (hx s).trans (hf _ _)

lemma mono {x : StateM σ α} (hx : MakesOnly view P x) (hPQ : ∀ q, P q → Q q) :
    MakesOnly view Q x := fun s => (hx s).mono hPQ

/-- A call that is tried again makes the requests that it makes each time. -/
lemma retry {ε φ δ : Type} (policy : RetryPolicy ε φ δ) {sleep : δ → StateM σ Unit}
    {call : StateM σ (Except ε α)} (hsleep : ∀ d, MakesOnly view P (sleep d))
    (hcall : MakesOnly view P call) : MakesOnly view P (retry policy sleep call) := by
  have hfrom : ∀ left attempt, MakesOnly view P (retryFrom policy sleep call left attempt) := by
    intro left
    induction left with
    | zero => exact fun _ => .pure _
    | succ left ih =>
      intro attempt
      refine hcall.bind fun outcome => ?_
      cases outcome with
      | ok a => exact .pure _
      | error e =>
        dsimp only
        split
        · exact .pure _
        · split
          · exact .pure _
          · split
            · exact .pure _
            · exact (hsleep _).bind fun _ => ih (attempt + 1)
  exact hfrom _ 1

end MakesOnly

/-- Every outcome of a computation has a property. -/
def Gives (Q : α → Prop) (x : StateM σ α) : Prop := ∀ s, Q (x.run s).1

namespace Gives

variable {Q : α → Prop}

lemma pure {a : α} (h : Q a) : Gives Q (Pure.pure a : StateM σ α) := fun _ => h

/-- The outcome of two steps is one of the second. -/
lemma bind (x : StateM σ β) {f : β → StateM σ α} (hf : ∀ b, Gives Q (f b)) : Gives Q (x >>= f) :=
  fun _ => hf _ _

end Gives

end

/-! ## Calls -/

variable {settings : CallSettings} {around : Surroundings} {P : Request → Prop}

lemma makesOnly_makeRequest (r : Request) : MakesOnly id (· = r) (makeRequest around r) := by
  intro s
  have hstate : ((makeRequest around r).run s).2 = { s with
      clock := s.clock + around.requestTime s.requests r, requests := s.requests ++ [r] } := by
    unfold makeRequest
    simp only [StateT.run_bind, StateT.run_get, StateT.run_set, pure_bind]
    split <;> rfl
  rw [hstate]
  exact ⟨[r], rfl, by simp⟩

lemma makesOnly_wait (seconds : Float) : MakesOnly id P (wait around seconds) :=
  .modify fun _ => rfl

lemma makesOnly_keepBreaker (b : Breaker Float) : MakesOnly id P (keepBreaker b) :=
  .modify fun _ => rfl

/-- A call makes its own request, some number of times, and no other. -/
lemma makesOnly_call (r : Request) : MakesOnly id (· = r) (call settings around r) := by
  unfold call
  refine MakesOnly.get.bind fun session => ?_
  dsimp only
  split
  · exact .pure _
  · refine (makesOnly_keepBreaker _).bind fun _ => ?_
    refine (MakesOnly.retry _ makesOnly_wait (makesOnly_makeRequest r)).bind fun outcome => ?_
    cases outcome with
    | ok response => exact (makesOnly_keepBreaker _).bind fun _ => .pure _
    | error e => exact MakesOnly.get.bind fun _ => (makesOnly_keepBreaker _).bind fun _ => .pure _

/-- What is reported of a failed request to an address is a failure of the tracker, and can be told
if the address is in characters. -/
def ReportsTracker {α : Type} (url : Text) (outcome : Except CallFailure α) : Prop :=
  ∀ fault, outcome = .error (.reported fault) →
    fault.status = 502 ∧ fault.isTellable = url.isWhole

lemma reportsTracker_failure {α : Type} {url message : Text} {more : Entries}
    (hmessage : url.isWhole = true → message.isWhole = true)
    (hmore : Json.areEntriesWritable more = true) :
    ReportsTracker url
      (.error (failure message (("url", .str url) :: more)) : Except CallFailure α) := by
  intro fault hfault
  obtain rfl := CallFailure.reported.inj (Except.error.inj hfault)
  refine ⟨rfl, ?_⟩
  rw [Bool.eq_iff_iff]
  simpa [Fault.isTellable, Fault.externalService, Json.areEntriesWritable, Json.isWritable, hmore]
    using hmessage

lemma reportsTracker_callFailure {α : Type} (r : Request)
    (e : RetryFailure RequestFailure PowerFault) :
    ReportsTracker r.url (.error (callFailure r e) : Except CallFailure α) := by
  have hexhausted (attempts : Nat) (message : String) :
      ReportsTracker r.url (.error (callFailure.exhausted r attempts message) :
        Except CallFailure α) :=
    reportsTracker_failure (fun h => by simp [h])
      (by simp [Json.areEntriesWritable, Json.isWritable])
  cases e with
  | permanent e =>
    cases e with
    | status code => exact reportsTracker_failure (fun h => by simp [h]) rfl
    | disconnected message => exact hexhausted 1 message
    | broken mishap => exact nofun
  | exhausted attempts last => exact hexhausted attempts last.message
  | notAttempted => exact hexhausted 0 noAttemptAllowed
  | noDelay fault => exact nofun

/-- Whether the breaker refuses a call, its requests are lost or the response is an error: the
tracker is what is reported. -/
lemma reportsTracker_call (r : Request) :
    Gives (ReportsTracker r.url) (call settings around r) := by
  unfold call
  refine Gives.bind _ fun session => ?_
  dsimp only
  split
  · exact .pure (reportsTracker_failure (fun _ => Text.isWhole_ofString) rfl)
  · refine Gives.bind _ fun _ => Gives.bind _ fun outcome => ?_
    cases outcome with
    | ok response => exact Gives.bind _ fun _ => .pure nofun
    | error e =>
      exact Gives.bind _ fun _ => Gives.bind _ fun _ => .pure (reportsTracker_callFailure r e)

/-! ## The client -/

variable {c : Client}

lemma makesOnly_connect : MakesOnly id P c.connect := .modify fun _ => rfl

lemma makesOnly_readItem (url : Text) : MakesOnly id (·.verb = .get) (c.readItem url) := by
  unfold Client.readItem
  refine ((makesOnly_call _).mono fun q hq => hq ▸ rfl).bind fun outcome => ?_
  cases outcome with
  | ok response => exact .pure _
  | error e =>
    cases e with
    | reported fault => exact .pure _
    | escaped e => cases e <;> exact .pure _

lemma makesOnly_readParent (hook : Hook) : MakesOnly id (·.verb = .get) (c.readParent hook) := by
  unfold Client.readParent
  cases hook.parentLink with
  | none => exact .pure _
  | some link => exact makesOnly_readItem link.url

lemma makesOnly_readItems (urls : List Text) :
    MakesOnly id (·.verb = .get) (c.readItems urls) := by
  induction urls with
  | nil => exact .pure _
  | cons url rest ih =>
    refine (makesOnly_readItem url).bind fun outcome => ?_
    cases outcome with
    | error e => exact .pure _
    | ok item => exact ih.bind fun _ => .pure _

lemma makesOnly_readChildren (item : WorkItem) :
    MakesOnly id (·.verb = .get) (c.readChildren item) :=
  makesOnly_readItems _

lemma makesOnly_readRules (url : String) : MakesOnly id (·.verb = .get) (c.readRules url) :=
  ((makesOnly_call _).mono fun _ hq => hq ▸ rfl).bind fun _ => .pure _

/-- Writing a batch makes requests for that batch only. -/
lemma makesOnly_send (b : Batch) : MakesOnly id (· = c.batchRequest b) (c.send b) := by
  unfold Client.send Client.writeBatch
  refine ((makesOnly_call _).bind fun _ => .pure _).bind fun outcome => ?_
  cases outcome with
  | ok status => exact .pure _
  | error e => cases e <;> exact .pure _

/-- Where a rule text cannot be read, the tracker is what is reported. -/
lemma reportsTracker_readRules (url : String) :
    Gives (ReportsTracker url) (c.readRules url) := by
  intro session fault h
  have hcall : Gives (ReportsTracker url) (call c.calls c.around (Client.rulesRequest url)) :=
    reportsTracker_call (Client.rulesRequest url)
  change Except.map _ ((call c.calls c.around (Client.rulesRequest url)).run session).1 = _ at h
  cases hout : ((call c.calls c.around (Client.rulesRequest url)).run session).1 with
  | ok response =>
    rw [hout] at h
    cases h
  | error e =>
    rw [hout] at h
    exact hcall session fault (hout.trans (congrArg _ (Except.error.inj h)))

end Tracker

end Cascade
