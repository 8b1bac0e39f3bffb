import Cascade.Proofs.Tracker.RequestCounts

/-!
# The children of an item

The children of an item are read one after another, by one call for each link.  What the loop is
compared with is a list of calls (`Client.itemCall`) that are all made, in the order of the links
and whatever comes of the others.  Unless a failure escapes that reading does not cope with, the
loop makes these calls and no others, and gives the items of those that have one (`run_readItems`).

A call gives no item if it is refused, if its requests fail or if what it gets is not valid
(`leavesOut_of_item?_eq_none`).  The first of these is where the calls depend on each other, for
they share a breaker: a call is one or two steps of it (`run_steps`), so the calls of the loop
continue the history of the breaker (`run_history`), and from that history follows how many failures
in a row lie before a call that is refused.  The main result is `children_read_in_order`.
-/

namespace Cascade.Tracker

variable {c : Client} {s s' : Session} {url : Text} {urls : List Text}

/-! ## Calls for work items -/

/-- A call for a work item: the session in which it is made, and what comes of it. -/
structure ItemCall where
  url : Text
  before : Session
  outcome : Except CallFailure Response
  /-- The time at which it has ended. -/
  ended : Float

namespace ItemCall

/-- The work item that a call gives: that of a response with a valid payload. -/
def item? (call : ItemCall) : Option WorkItem :=
  match call.outcome with
  | .ok response => Client.itemOf? response
  | .error _ => none

/-- Whatever escapes from a call, reading a work item copes with it. -/
def Copes (call : ItemCall) : Prop :=
  ∀ x, call.outcome = .error (.escaped x) → x.isBadValue = true

/-- Why a call gives no work item. -/
inductive LeavesOut (c : Client) (call : ItemCall) : Prop
  /-- The breaker refuses the call. -/
  | refused (hrefused : ¬ Admits c.calls call.before)
  /-- The requests of the call fail, however many there are. -/
  | failed {n : Nat} {after : Session} (hadmits : Admits c.calls call.before)
    (haccount : CallAccount c.calls c.around (c.itemRequest call.url) call.before call.outcome
      after n)
    (hfail : ∀ k < n, ∀ response,
      replyAfter c.around call.before (c.itemRequest call.url) k = .answered response →
        response.isSuccess = false)
  /-- The payload that the call gets is not that of a work item. -/
  | invalid {response : Response} (hok : call.outcome = .ok response)
    (hinvalid : Client.itemOf? response = none)

/-- What a call does to the breaker: it asks, and if it is let through it ends. -/
def steps (c : Client) (number : Nat) (call : ItemCall) : List (BreakerStep Float) :=
  let start := call.before.clock
  match (c.calls.breakerIn call.before).permit start, call.outcome with
  | none, _ => [.ask number start]
  | some _, .ok _ => [.ask number start, .succeed number]
  | some _, .error _ => [.ask number start, .fail number call.ended]

end ItemCall

/-- Makes a call for a work item. -/
def Client.itemCall (c : Client) (url : Text) : StateM Session ItemCall := do
  let before ← get
  let outcome ← call c.calls c.around (c.itemRequest url)
  return ⟨url, before, outcome, (← get).clock⟩

lemma run_itemCall_eq_iff {call : ItemCall} : (c.itemCall url).run s = (call, s') ↔
    (Tracker.call c.calls c.around (c.itemRequest url)).run s = (call.outcome, s') ∧
      call.url = url ∧ call.before = s ∧ call.ended = s'.clock := by
  have hget : (get : StateM Session Session).run s = (s, s) := rfl
  generalize hout : (Tracker.call c.calls c.around (c.itemRequest url)).run s = out
  obtain ⟨outcome, after⟩ := out
  rw [Client.itemCall, run_bind_of_run hget, run_bind_of_run hout]
  obtain ⟨url', before, outcome', ended⟩ := call
  change (ItemCall.mk url s outcome after.clock, after) = _ ↔ _
  constructor
  · rintro ⟨⟩
    exact ⟨rfl, rfl, rfl, rfl⟩
  · rintro ⟨hsame, rfl, rfl, rfl⟩
    cases hsame
    rfl

/-- Calls one after another: the first one, and the others in the session that it leaves. -/
lemma run_mapM_itemCall_cons {call : ItemCall} (h : (c.itemCall url).run s = (call, s')) :
    ((url :: urls).mapM c.itemCall).run s =
      (call :: ((urls.mapM c.itemCall).run s').1, ((urls.mapM c.itemCall).run s').2) := by
  rw [List.mapM_cons, run_bind_of_run h]
  rfl

/-- Every one of the calls is made, in the session that it names. -/
lemma exists_run_of_mem {call : ItemCall} (h : call ∈ ((urls.mapM c.itemCall).run s).1) :
    ∃ after, (c.itemCall call.url).run call.before = (call, after) := by
  induction urls generalizing s with
  | nil => cases h
  | cons url rest ih =>
    generalize hfirst : (c.itemCall url).run s = out
    obtain ⟨first, s'⟩ := out
    rw [run_mapM_itemCall_cons hfirst] at h
    rcases List.mem_cons.mp h with rfl | hrest
    · obtain ⟨-, rfl, rfl, -⟩ := run_itemCall_eq_iff.mp hfirst
      exact ⟨s', hfirst⟩
    · exact ih hrest

lemma map_url_mapM_itemCall : ((urls.mapM c.itemCall).run s).1.map (·.url) = urls := by
  induction urls generalizing s with
  | nil => rfl
  | cons url rest ih =>
    generalize hfirst : (c.itemCall url).run s = out
    obtain ⟨first, s'⟩ := out
    obtain ⟨-, rfl, -, -⟩ := run_itemCall_eq_iff.mp hfirst
    rw [run_mapM_itemCall_cons hfirst, List.map_cons, ih]

/-! ## The loop makes these calls -/

lemma run_readItem {call : ItemCall} (h : (c.itemCall url).run s = (call, s'))
    (hcopes : call.Copes) : (c.readItem url).run s = (.ok call.item?, s') := by
  obtain ⟨hout, rfl, rfl, -⟩ := run_itemCall_eq_iff.mp h
  rw [Client.readItem, run_bind_of_run hout, ItemCall.item?]
  cases houtcome : call.outcome with
  | ok response => rfl
  | error failure =>
    cases failure with
    | reported fault => rfl
    | escaped x =>
      have hbad := hcopes x houtcome
      cases x with
      | noDelay fault => cases hbad
      | mishap m =>
        obtain hbad : m.isBadValue = true := hbad
        simp only [hbad, if_true]
        rfl

/-- Reading a work item fails with what escapes from its call, unless it copes with it. -/
lemma copes_of_readItem_ne_error {call : ItemCall} (h : (c.itemCall url).run s = (call, s'))
    (hread : ∀ x, ((c.readItem url).run s).1 ≠ .error x) : call.Copes := by
  intro x hx
  obtain ⟨hout, rfl, rfl, -⟩ := run_itemCall_eq_iff.mp h
  have hescapes := call_escapes_iff.mp ((congrArg Prod.fst hout).trans hx)
  refine eq_true_of_ne_false fun hbad => ?_
  exact hread x (readItem_eq_error_iff.mpr ⟨hescapes, hbad⟩)

/-- If reading copes with what escapes, it makes one call for each address, and gives the items that
are had, in order. -/
lemma run_readItems (h : ∀ call ∈ ((urls.mapM c.itemCall).run s).1, call.Copes) :
    (c.readItems urls).run s = (.ok (((urls.mapM c.itemCall).run s).1.filterMap ItemCall.item?),
      ((urls.mapM c.itemCall).run s).2) := by
  induction urls generalizing s with
  | nil => rfl
  | cons url rest ih =>
    generalize hcall : (c.itemCall url).run s = out at h
    obtain ⟨call, s'⟩ := out
    rw [run_mapM_itemCall_cons hcall] at h ⊢
    obtain ⟨hcopes, hrest⟩ := List.forall_mem_cons.mp h
    rw [Client.readItems, run_bind_of_run (run_readItem hcall hcopes)]
    simp only [List.filterMap_cons]
    rw [run_bind_of_run (ih hrest)]
    cases call.item? <;> rfl

/-- Where there are items, reading has coped with all that escaped. -/
lemma copes_of_readItems {items : List WorkItem} (h : ((c.readItems urls).run s).1 = .ok items) :
    ∀ call ∈ ((urls.mapM c.itemCall).run s).1, call.Copes := by
  induction urls generalizing s items with
  | nil => exact nofun
  | cons url rest ih =>
    generalize hcall : (c.itemCall url).run s = out
    obtain ⟨call, s'⟩ := out
    rw [run_mapM_itemCall_cons hcall]
    have hcopes := copes_of_readItem_ne_error hcall fun x hx => ?_
    · rw [Client.readItems, run_bind_of_run (run_readItem hcall hcopes)] at h
      generalize hrest : (c.readItems rest).run s' = out at h
      obtain ⟨result, after⟩ := out
      rw [run_bind_of_run hrest] at h
      cases result with
      | error x => cases h
      | ok more => exact List.forall_mem_cons.mpr ⟨hcopes, ih (congrArg Prod.fst hrest)⟩
    · generalize hread : (c.readItem url).run s = out at hx
      obtain ⟨result, after⟩ := out
      obtain rfl : result = .error x := hx
      rw [Client.readItems, run_bind_of_run hread] at h
      cases h

/-! ## Calls that give no item -/

/-- None of the requests of a call that fails is served. -/
lemma CallAccount.not_isSuccess {settings : CallSettings} {around : Surroundings} {r : Request}
    {before after : Session} {failure : CallFailure} {n k : Nat}
    (h : CallAccount settings around r before (.error failure) after n) (hk : k < n)
    {response : Response} (hreply : replyAfter around before r k = .answered response) :
    response.isSuccess = false := by
  refine eq_false_of_ne_true fun hsuccess => ?_
  rcases Nat.lt_or_ge (k + 1) n with hmore | hlast
  · obtain ⟨message, hlost⟩ := h.lost k hmore
    rw [hreply] at hlost
    cases hlost
  · have hok := (h.answered response).mpr ⟨k, by omega, hreply, hsuccess⟩
    cases hok

lemma leavesOut_of_item?_eq_none {call : ItemCall} (h : (c.itemCall url).run s = (call, s'))
    (hnone : call.item? = none) : call.LeavesOut c := by
  obtain ⟨hout, rfl, rfl, -⟩ := run_itemCall_eq_iff.mp h
  by_cases hadmits : Admits c.calls call.before
  · cases houtcome : call.outcome with
    | ok response =>
      rw [ItemCall.item?, houtcome] at hnone
      exact .invalid houtcome hnone
    | error failure =>
      obtain ⟨n, haccount⟩ := exists_callAccount c.around (c.itemRequest call.url) hadmits
      rw [hout] at haccount
      refine .failed hadmits haccount fun k hk response hreply => ?_
      rw [houtcome] at haccount
      exact haccount.not_isSuccess hk hreply
  · exact .refused hadmits

/-! ## The breaker of the calls -/

/-- A call is what its steps do to the breaker. -/
lemma run_steps {call : ItemCall} (h : (c.itemCall url).run s = (call, s')) {number : Nat}
    {running : List Nat} (hnumber : number ∉ running) :
    (SharedBreaker.mk (c.calls.breakerIn s) running).run (call.steps c number) =
      some ⟨c.calls.breakerIn s', running⟩ := by
  obtain ⟨hout, rfl, rfl, hended⟩ := run_itemCall_eq_iff.mp h
  cases hpermit : (c.calls.breakerIn call.before).permit call.before.clock with
  | none =>
    rw [run_call_of_refused hpermit] at hout
    obtain ⟨-, rfl⟩ := Prod.mk.inj hout
    simp [ItemCall.steps, hpermit, SharedBreaker.run, SharedBreaker.step, hnumber]
  | some admitted =>
    generalize hretry : (retry (c.calls.policy c.around) (wait c.around)
      (makeRequest c.around (c.itemRequest call.url))).run
        { call.before with breakers := call.before.breakers.put admitted } = tried
    obtain ⟨result, kept⟩ := tried
    rw [run_call_of_admitted hpermit hretry] at hout
    obtain ⟨houtcome, rfl⟩ := Prod.mk.inj hout
    obtain hended : call.ended = kept.clock := hended
    rw [breakerIn_put_settle hpermit, ItemCall.steps, ← houtcome, hended]
    cases result with
    | ok response =>
      simp [hpermit, SharedBreaker.run, SharedBreaker.step, hnumber, SharedBreaker.finish, settle,
        Except.mapError]
    | error e =>
      simp [hpermit, SharedBreaker.run, SharedBreaker.step, hnumber, SharedBreaker.finish, settle,
        Except.mapError]

/-- Calls one after another continue the history of the breaker. -/
lemma run_history {earlier later : List ItemCall} {call : ItemCall} {number : Nat}
    {running : List Nat} (hnumber : number ∉ running)
    (h : ((urls.mapM c.itemCall).run s).1 = earlier ++ call :: later) :
    (SharedBreaker.mk (c.calls.breakerIn s) running).run (earlier.flatMap (·.steps c number)) =
      some ⟨c.calls.breakerIn call.before, running⟩ := by
  induction urls generalizing s earlier with
  | nil =>
    have hnone : [] = earlier ++ call :: later := h
    simp at hnone
  | cons url rest ih =>
    generalize hfirst : (c.itemCall url).run s = out at h
    obtain ⟨first, s'⟩ := out
    rw [run_mapM_itemCall_cons hfirst] at h
    cases earlier with
    | nil =>
      obtain ⟨rfl, -⟩ := List.cons.inj h
      obtain ⟨-, -, rfl, -⟩ := run_itemCall_eq_iff.mp hfirst
      rfl
    | cons first' earlier =>
      obtain ⟨rfl, hrest⟩ := List.cons.inj h
      rw [List.flatMap_cons, SharedBreaker.run_append, run_steps hfirst hnumber]
      exact ih hrest

/-- **Children are read in the order of their links.**  Take any item, a breaker with any history
and any replies.  One call is made for each link to a child, in the order of the links and whatever
comes of the others, and unless a failure escapes the children are the items of the calls that give
one, in that order.  A call gives none only if the breaker refuses it, if its requests fail or if
what it gets is not a work item.  The calls before a call continue the history of the breaker, and
it is refused only if as many failures in a row as the threshold, and at least one, precede it. -/
theorem children_read_in_order {name : String} {threshold : Int} {timeout : Float}
    {steps : List (BreakerStep Float)} {b : SharedBreaker Float} (c : Client) (item : WorkItem)
    (s : Session) (hrun : (SharedBreaker.fresh name threshold timeout).run steps = some b)
    (hbreaker : c.calls.breakerIn s = b.breaker) :
    let links := item.relations.filter fun r =>
      r.rel == ("System.LinkTypes.Hierarchy-Forward" : Text) && r.isNamed "Child"
    let calls := ((links.map (·.url)).mapM c.itemCall).run s
    calls.1.map (·.url) = links.map (·.url) ∧
    ((∃ items, ((c.readChildren item).run s).1 = .ok items) ↔ ∀ call ∈ calls.1, call.Copes) ∧
    ((∀ call ∈ calls.1, call.Copes) →
      (c.readChildren item).run s = (.ok (calls.1.filterMap ItemCall.item?), calls.2)) ∧
    ∀ earlier call later, calls.1 = earlier ++ call :: later →
      (call.item? = none → call.LeavesOut c) ∧
      ∀ number ∉ b.running,
        let before := earlier.flatMap (·.steps c number)
        b.run before = some ⟨c.calls.breakerIn call.before, b.running⟩ ∧
        (¬ Admits c.calls call.before → max 1 threshold ≤ failuresInRow (steps ++ before)) := by
  intro links calls
  have hread : c.readChildren item = c.readItems (links.map (·.url)) := rfl
  have hall (h : ∀ call ∈ calls.1, call.Copes) : (c.readChildren item).run s =
      (.ok (calls.1.filterMap ItemCall.item?), calls.2) := hread ▸ run_readItems h
  refine ⟨map_url_mapM_itemCall, ⟨?_, fun h => ⟨_, congrArg Prod.fst (hall h)⟩⟩, hall, ?_⟩
  · rintro ⟨items, hitems⟩
    exact copes_of_readItems (hread ▸ hitems)
  · intro earlier call later hsplit
    have hmem : call ∈ calls.1 := by
      rw [hsplit]
      exact List.mem_append_right _ List.mem_cons_self
    obtain ⟨after, hcall⟩ := exists_run_of_mem hmem
    refine ⟨leavesOut_of_item?_eq_none hcall, ?_⟩
    intro number hnumber before
    have hhistory : b.run before = some ⟨c.calls.breakerIn call.before, b.running⟩ := by
      have hcontinued := run_history hnumber hsplit
      rwa [hbreaker] at hcontinued
    refine ⟨hhistory, fun hrefused => ?_⟩
    have hwhole : (SharedBreaker.fresh name threshold timeout).run (steps ++ before) =
        some ⟨c.calls.breakerIn call.before, b.running⟩ := by
      rw [SharedBreaker.run_append, hrun]
      exact hhistory
    exact (SharedBreaker.tracks_run hwhole).le_failuresInRow_of_refused
      (Classical.not_not.mp hrefused)

/-- Two failures in a row open the breaker, which has counted one.  Of four children the first one
is had, the request for the second one is lost, the third one is not found and the fourth one is
refused: there is one item, and the two failures since the success precede the refusal. -/
theorem one_child_of_four :
    let body := Text.encodeUtf8 "\x7b\"id\": \"7\", \"url\": \"a\", \"fields\": null\x7d".toList
    let reply (_ : List Request) (r : Request) : Reply :=
      if r.url = ("a" : Text) then .answered ⟨200, body⟩
      else if r.url = ("b" : Text) then .disconnected "reset"
      else .answered ⟨404, []⟩
    let calls : CallSettings :=
      { maxAttempts := 1, breaker := { name, threshold := 2, timeout := 60.0 } }
    let c : Client := ⟨"", "7.1", 1.0, calls, { transport := reply }⟩
    let link (url : Text) : Relation :=
      { rel := childRelation, url, attributes := [("name", .str "Child")] }
    let urls : List Text := ["a", "b", "c", "d"]
    let item : WorkItem := { id := 1, url := "p", relations := urls.map link }
    let steps : List (BreakerStep Float) := [.ask 0 3.0, .fail 0 4.0]
    let b : Breaker Float := { calls.breaker with failures := 1, lastFailure := some 4.0 }
    let s : Session := { clock := 5.0, breakers := [b] }
    let children := (c.readChildren item).run s
    (SharedBreaker.fresh name 2 60.0).run steps = some ⟨b, []⟩ ∧ calls.breakerIn s = b ∧
    children.1.toOption.map (fun items => items.map (·.id)) = some [7] ∧
    children.2.requests.map (·.url) = urls.take 3 ∧
    ∃ (earlier : List ItemCall) (call : ItemCall),
      children.1 = .ok ((earlier ++ [call]).filterMap ItemCall.item?) ∧ call.url = ("d" : Text) ∧
      ¬ Admits calls call.before ∧ call.LeavesOut c ∧
      2 ≤ failuresInRow (steps ++ earlier.flatMap (·.steps c 0)) := by
  intro body reply calls c link urls item steps b s children
  have hrun : (SharedBreaker.fresh name 2 60.0).run steps = some ⟨b, []⟩ := rfl
  have hids : children.1.toOption.map (fun items => items.map (·.id)) = some [7] := by
    decide +kernel
  have hlast : ((urls.mapM c.itemCall).run s).1.getLast?.map (fun call =>
      (call.url, call.item?.isSome, (calls.breakerIn call.before).permit call.before.clock)) =
        some (("d" : Text), false, none) := by
    decide +kernel
  obtain ⟨-, hcopes, hread, hcalls⟩ := children_read_in_order c item s hrun rfl
  obtain ⟨call, hend, hcall⟩ := Option.map_eq_some_iff.mp hlast
  obtain ⟨earlier, hsplit⟩ := List.getLast?_eq_some_iff.mp hend
  obtain ⟨hurl, hitem, hpermit⟩ : call.url = ("d" : Text) ∧ call.item?.isSome = false ∧
      (calls.breakerIn call.before).permit call.before.clock = none := by
    simpa only [Prod.mk.injEq] using hcall
  have hrefused : ¬ Admits calls call.before := fun h => h hpermit
  have hsome : ∃ items, children.1 = .ok items := by
    cases hitems : children.1 with
    | ok items => exact ⟨items, rfl⟩
    | error e =>
      rw [hitems] at hids
      cases hids
  have hall := hread (hcopes.mp hsome)
  obtain ⟨hout, hhistory⟩ := hcalls earlier call [] hsplit
  have hnone := Option.isSome_eq_false_iff.mp hitem
  refine ⟨hrun, rfl, hids, by decide +kernel, earlier, call, ?_, hurl, hrefused, ?_, ?_⟩
  · rw [← hsplit]
    exact congrArg Prod.fst hall
  · exact hout (Option.isNone_iff_eq_none.mp hnone)
  · exact Int.ofNat_le.mp ((hhistory 0 List.not_mem_nil).2 hrefused)

end Cascade.Tracker
