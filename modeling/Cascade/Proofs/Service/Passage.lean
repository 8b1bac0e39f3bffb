import Cascade.Proofs.Engine.Targets
import Cascade.Proofs.Service.Gates

/-!
# Nothing is written before all gates are passed

The handling of a notification is cut at the gates (`proceed`).  A step lemma says that it does at
each gate what the gate does, `Passes.run` and `Refuses.run`, and conversely that nothing else can
happen there (`passes_or_ends`).  By induction along the gates this carries over to whole requests
(`run_of_reaches`, `exists_end`).

Behind the last gate requests are made for updates only, at the addresses of the items that were
fetched (`asks_of_completes`).  The main result is `gates_guard_updates`.
-/

namespace Cascade

open Tracker (Client Session)

namespace Service

variable {s : Service} {r : WebRequest} {p p' : Progress} {σ σ' : Session} {m : Metrics}
  {fault : Fault}

/-! ## The handling, cut at the gates -/

/-- What is left to be done for a notification. -/
def proceed (s : Service) (r : WebRequest) : Progress → Handling Value
  | .arrived => do
    let token ← s.token r
    let client ← s.client token
    s.proceed r (.withToken client)
  | .withToken client => do
    let text ← s.ruleText client r
    s.proceed r (.withRules client text)
  | .withRules client text => do
    let hook ← s.notification r
    s.proceed r (.withHook client text hook)
  | .withHook client text hook => do
    requireSupported hook
    s.proceed r (.supported client text hook)
  | .supported client text hook => do
    let parent ← parentOf client hook
    s.proceed r (.withParent client text hook parent)
  | .withParent client text hook parent => do
    s.requireRequirement parent
    s.proceed r (.ofRequirement client text hook parent)
  | .ofRequirement client text hook parent => do
    let trigger ← triggerOf client hook
    s.proceed r (.withTrigger client text parent trigger)
  | .withTrigger client text parent trigger => do
    let children ← childrenOf client parent
    s.proceed r (.gathered client text parent trigger children)
  | .gathered client text parent trigger children => do
    let result ← s.evaluate text trigger parent children
    let batches ← s.dispatch client result
    return outcomeValue result batches
termination_by p => p.stepsLeft
decreasing_by all_goals exact Nat.lt_succ_self _

lemma serveNotification_eq_proceed : s.serveNotification r = s.proceed r .arrived := by
  simp only [serveNotification, proceed]

/-- Where a gate is passed the handling goes on. -/
lemma Passes.run (h : Passes s r (p, σ) (p', σ')) :
    (s.proceed r p).run.run ⟨σ, m⟩ = (s.proceed r p').run.run ⟨σ', m⟩ := by
  rw [proceed.eq_def]
  cases h with
  | token h =>
    rw [Handling.run_bind_ok (by simp only [run_token, h]; rfl)]
    exact Handling.run_bind_ok (run_client _)
  | download haddress h =>
    exact Handling.run_bind_ok (by simp only [run_ruleText_of_some haddress, h])
  | file haddress hfile h =>
    exact Handling.run_bind_ok (by simp only [run_ruleText_of_none haddress, hfile, h])
  | body h hhook => exact Handling.run_bind_ok (by simp only [run_notification, h, hhook])
  | event h =>
    exact Handling.run_bind_ok (a := ()) (by simp only [run_requireSupported, h, if_true])
  | parent h => exact Handling.run_bind_ok (by simp only [run_parentOf, h])
  | requirement h =>
    exact Handling.run_bind_ok (a := ()) (by simp only [run_requireRequirement, h, if_true])
  | trigger haddress h => exact Handling.run_bind_ok (by simp only [run_triggerOf, haddress, h])
  | children h => exact Handling.run_bind_ok (by simp only [run_childrenOf, h])

/-- Where a gate refuses the handling ends with the fault. -/
lemma Refuses.run (h : Refuses s r (p, σ) fault σ') :
    ∃ m', (s.proceed r p).run.run ⟨σ, m⟩ = (.error (.reported fault), ⟨σ', m'⟩) := by
  rw [proceed.eq_def]
  cases h with
  | noToken h => exact ⟨m, Handling.run_bind_error (by simp only [run_token, h])⟩
  | noRules haddress hfile =>
    exact ⟨m, Handling.run_bind_error (by simp only [run_ruleText_of_none haddress, hfile])⟩
  | noDownload haddress h =>
    exact ⟨m, Handling.run_bind_error (by simp only [run_ruleText_of_some haddress, h])⟩
  | malformedBody h => exact ⟨m, Handling.run_bind_error (by simp only [run_notification, h])⟩
  | invalidBody h hhook =>
    exact ⟨m, Handling.run_bind_error (by simp only [run_notification, h, hhook])⟩
  | unsupported h =>
    exact ⟨m, Handling.run_bind_error (by simp [run_requireSupported, h])⟩
  | noParent h => exact ⟨m, Handling.run_bind_error (by simp only [run_parentOf, h])⟩
  | noRequirement h =>
    exact ⟨m, Handling.run_bind_error (by simp [run_requireRequirement, h])⟩
  | noAddress h => exact ⟨m, Handling.run_bind_error (by simp only [run_triggerOf, h])⟩
  | noTrigger haddress h =>
    exact ⟨m, Handling.run_bind_error (by simp only [run_triggerOf, haddress, h])⟩
  | rejectedRules h =>
    obtain ⟨m', hrun⟩ := run_evaluate s _ _ _ _ ⟨σ, m⟩
    exact ⟨m', Handling.run_bind_error (by rw [hrun, evaluated, h])⟩

/-! ## The way through the gates -/

/-- What gets to a gate is handled from there on as it would be from the start. -/
lemma run_of_reaches {start : Session} {at' : Progress × Session} (h : Reaches s r start at') :
    (s.serveNotification r).run.run ⟨start, m⟩ = (s.proceed r at'.1).run.run ⟨at'.2, m⟩ ∧
      start.Asks (·.verb = .get) at'.2 := by
  induction h with
  | refl => exact ⟨by rw [serveNotification_eq_proceed], .refl start⟩
  | tail _ hstep ih => exact ⟨ih.1.trans hstep.run, ih.2.trans hstep.asks⟩

/-- All gates are passed, and the rules have an outcome. -/
inductive Completes (s : Service) : Progress → RunResult → Prop
  | intro {client text parent trigger children rules result}
    (hread : (readRules s.settings.strict text).result = .ok rules)
    (hrun : (runRules (.ofTrigger (some trigger) (some parent) children) rules).result =
      .ok result) :
    Completes s (.gathered client text parent trigger children) result

/-- How the way of a notification can end. -/
inductive Ends (s : Service) (r : WebRequest) (p : Progress) (σ : Session) (m : Metrics) : Prop
  | refused {fault : Fault} {σ' : Session} (h : Refuses s r (p, σ) fault σ')
  | completed {result : RunResult} (h : Completes s p result)
  /-- The handling ends for a reason that is not told, having only asked the tracker. -/
  | broken {after : ServiceState}
    (hrun : (s.proceed r p).run.run ⟨σ, m⟩ = (.error .unexpected, after))
    (hasks : σ.Asks (·.verb = .get) after.session)

lemma ends_of_run_eq {α : Type} {x : Handling α} {f : α → Handling Value}
    (hproceed : s.proceed r p = x >>= f)
    (hrun : ∃ m', x.run.run ⟨σ, m⟩ = (.error .unexpected, ⟨σ', m'⟩))
    (hasks : σ.Asks (·.verb = .get) σ') : Ends s r p σ m := by
  obtain ⟨m', hrun⟩ := hrun
  exact .broken (by rw [hproceed, Handling.run_bind_error hrun]) hasks

/-- Rules are downloaded or read from a file, or the way ends. -/
lemma passes_or_ends_withToken (client : Client) :
    (∃ next, Passes s r (.withToken client, σ) next) ∨ Ends s r (.withToken client) σ m := by
  cases haddress : s.rulesAddress? r with
  | some url =>
    obtain ⟨outcome, σ', h⟩ :
        ∃ outcome σ', (client.readRules url).run σ = (outcome, σ') := ⟨_, _, rfl⟩
    have hasks : σ.Asks (·.verb = .get) σ' := (Tracker.makesOnly_readRules url).asks h
    match outcome, h with
    | .ok text, h => exact .inl ⟨_, .download haddress h⟩
    | .error (.reported fault), h => exact .inr (.refused (.noDownload haddress h))
    | .error (.escaped e), h =>
      refine .inr (ends_of_run_eq (by rw [proceed]) ⟨m, ?_⟩ hasks)
      simp only [run_ruleText_of_some haddress, h]
  | none =>
    cases hfile : s.rulesFile? with
    | none => exact .inr (.refused (.noRules haddress hfile))
    | some file =>
      cases h : readText s.files (.ofText file.toList) with
      | ok text => exact .inl ⟨_, .file haddress hfile h⟩
      | error e =>
        refine .inr (ends_of_run_eq (by rw [proceed]) ⟨m, ?_⟩ (.refl σ))
        simp only [run_ruleText_of_none haddress, hfile, h]

/-- Behind the last step the way ends. -/
lemma ends_gathered (client : Client) (text : String) (parent trigger : WorkItem)
    (children : List WorkItem) : Ends s r (.gathered client text parent trigger children) σ m := by
  obtain ⟨m', heval⟩ := run_evaluate s text trigger parent children ⟨σ, m⟩
  have hbroken (h : s.evaluated text trigger parent children = .error .unexpected) :
      Ends s r (.gathered client text parent trigger children) σ m :=
    ends_of_run_eq (by rw [proceed]) ⟨m', h ▸ heval⟩ (.refl σ)
  cases hrules : (readRules s.settings.strict text).result with
  | error e =>
    cases e with
    | rejected e => exact .refused (.rejectedRules hrules)
    | refusedPattern e => exact hbroken (by simp only [evaluated, hrules])
  | ok rules =>
    cases hrun : (runRules (.ofTrigger (some trigger) (some parent) children) rules).result with
    | ok result => exact .completed (.intro hrules hrun)
    | error e => exact hbroken (by simp only [evaluated, hrules, hrun])

/-- A notification gets one step further, or its way ends. -/
lemma passes_or_ends (s : Service) (r : WebRequest) (p : Progress) (σ : Session) (m : Metrics) :
    (∃ next, Passes s r (p, σ) next) ∨ Ends s r p σ m := by
  have hread {α : Type} (x : StateM Session α) : ∃ outcome σ', x.run σ = (outcome, σ') :=
    ⟨_, _, rfl⟩
  cases p with
  | arrived =>
    cases h : s.token? r with
    | some token => exact .inl ⟨_, .token h⟩
    | none => exact .inr (.refused (.noToken h))
  | withToken client => exact passes_or_ends_withToken client
  | withRules client text =>
    cases h : Json.readBody r.body with
    | ok v =>
      cases hhook : Hook.decode v with
      | valid hook => exact .inl ⟨_, .body h hhook⟩
      | invalid issues => exact .inr (.refused (.invalidBody h hhook))
    | error e =>
      by_cases he : e = .unreadable .malformed
      · subst he
        exact .inr (.refused (.malformedBody h))
      · refine .inr (ends_of_run_eq (by rw [proceed]) ⟨m, ?_⟩ (.refl σ))
        simp only [run_notification, h]
  | withHook client text hook =>
    cases h : hook.isSupported with
    | true => exact .inl ⟨_, .event h⟩
    | false => exact .inr (.refused (.unsupported h))
  | supported client text hook =>
    obtain ⟨outcome, σ', h⟩ := hread (client.readParent hook)
    have hasks : σ.Asks (·.verb = .get) σ' := (Tracker.makesOnly_readParent hook).asks h
    match outcome, h with
    | .ok (some parent), h => exact .inl ⟨_, .parent h⟩
    | .ok none, h => exact .inr (.refused (.noParent h))
    | .error e, h =>
      refine .inr (ends_of_run_eq (by rw [proceed]) ⟨m, ?_⟩ hasks)
      simp only [run_parentOf, h]
  | withParent client text hook parent =>
    cases h : s.isRequirement parent with
    | true => exact .inl ⟨_, .requirement h⟩
    | false => exact .inr (.refused (.noRequirement h))
  | ofRequirement client text hook parent =>
    cases haddress : hook.triggeringUrl.filter (!·.isEmpty) with
    | none => exact .inr (.refused (.noAddress haddress))
    | some url =>
      obtain ⟨outcome, σ', h⟩ := hread (client.readItem url)
      have hasks : σ.Asks (·.verb = .get) σ' := (Tracker.makesOnly_readItem url).asks h
      match outcome, h with
      | .ok (some trigger), h => exact .inl ⟨_, .trigger haddress h⟩
      | .ok none, h => exact .inr (.refused (.noTrigger haddress h))
      | .error e, h =>
        refine .inr (ends_of_run_eq (by rw [proceed]) ⟨m, ?_⟩ hasks)
        simp only [run_triggerOf, haddress, h]
  | withTrigger client text parent trigger =>
    obtain ⟨outcome, σ', h⟩ := hread (client.readChildren parent)
    have hasks : σ.Asks (·.verb = .get) σ' := (Tracker.makesOnly_readChildren parent).asks h
    match outcome, h with
    | .ok children, h => exact .inl ⟨_, .children h⟩
    | .error e, h =>
      refine .inr (ends_of_run_eq (by rw [proceed]) ⟨m, ?_⟩ hasks)
      simp only [run_childrenOf, h]
  | gathered client text parent trigger children => exact .inr (ends_gathered _ _ _ _ _)

/-- From everywhere a notification gets on to a place where its way ends. -/
lemma exists_end (s : Service) (r : WebRequest) (p : Progress) (σ : Session) (m : Metrics) :
    ∃ q τ, Relation.ReflTransGen (Passes s r) (p, σ) (q, τ) ∧ Ends s r q τ m := by
  rcases passes_or_ends s r p σ m with ⟨⟨p', σ'⟩, hpass⟩ | hend
  · obtain ⟨q, τ, hreach, hend⟩ := exists_end s r p' σ' m
    exact ⟨q, τ, .head hpass hreach, hend⟩
  · exact ⟨p, σ, .refl, hend⟩
termination_by p.stepsLeft
decreasing_by exact hpass.stepsLeft_lt

/-! ## Behind the last gate -/

/-- An update may be sent to an address: sending is on, all gates have been passed, some rule was
executed, and the address is that of one of the items that were fetched. -/
def MayUpdate (s : Service) (r : WebRequest) (start : Session) (url : Text) : Prop :=
  s.settings.dryRun = false ∧ ∃ client text parent trigger children σ rules result,
    Reaches s r start (.gathered client text parent trigger children, σ) ∧
    (readRules s.settings.strict text).result = .ok rules ∧
    (runRules (.ofTrigger (some trigger) (some parent) children) rules).result = .ok result ∧
    result.matched = true ∧ url ∈ trigger.url :: parent.url :: children.map WorkItem.url

/-- Once the rules have an outcome, requests are made for updates only. -/
lemma asks_of_completes {start : Session} {result : RunResult}
    (hreach : Reaches s r start (p, σ)) (h : Completes s p result) :
    σ.Asks (fun q => MayUpdate s r start q.url)
      ((s.proceed r p).run.run ⟨σ, m⟩).2.session := by
  cases h with
  | @intro client text parent trigger children rules _ hread hrun =>
    obtain ⟨m', heval⟩ := run_evaluate s text trigger parent children ⟨σ, m⟩
    have hevaluated : s.evaluated text trigger parent children = .ok result := by
      simp only [evaluated, hread, hrun]
    rw [hevaluated] at heval
    have hdispatch := Handling.makesOnly_bind (makesOnly_dispatch s client result)
      (f := fun batches => pure (outcomeValue result batches)) (fun _ => .pure _)
    rw [proceed, Handling.run_bind_ok heval]
    refine (hdispatch ⟨σ, m'⟩).mono fun q ⟨hdry, op, hop, hurl⟩ => ?_
    obtain ⟨hmatched, item, hitem, hitemUrl⟩ := matched_and_url_of_mem_runRules hrun hop
    refine ⟨hdry, _, _, _, _, _, _, _, _, hreach, hread, hrun, hmatched, ?_⟩
    rw [hurl, hitemUrl]
    exact List.mem_map_of_mem (f := WorkItem.url) hitem

/-! ## Whole requests -/

lemma serve_notification (hmethod : r.method = "POST")
    (hpath : r.path = "/workitems/updated".toList) :
    s.serve r.method r = documentResponse 200 <$> s.serveNotification r := by
  have hroute : s.route r.method r.path = .found .notification := by
    rw [hmethod, hpath]
    unfold route resourceAt?
    rfl
  unfold serve
  rw [hroute]
  rfl

section

variable {state : ServiceState} (hmethod : r.method = "POST")
  (hpath : r.path = "/workitems/updated".toList) (freshId : String)

include hmethod hpath

/-- The answer to a notification is decided where its way through the gates ends. -/
lemma run_answer_of_reaches {outcome : Except Failure Value} {st : ServiceState}
    (hreach : Reaches s r state.session (p, σ))
    (hrun : (s.proceed r p).run.run ⟨σ, state.metrics⟩ = (outcome, st)) :
    ∃ m, (s.answer freshId r).run state =
      (respond (r.identifier freshId) (outcome.map (documentResponse 200)), ⟨st.session, m⟩) := by
  have hserve : (s.serve r.method r).run.run state = (outcome.map (documentResponse 200), st) := by
    rw [serve_notification hmethod hpath]
    exact Handling.run_map _ ((run_of_reaches hreach).1.trans hrun)
  exact run_answer hserve freshId

lemma run_answer_of_refuses (hreach : Reaches s r state.session (p, σ))
    (h : Refuses s r (p, σ) fault σ') :
    ∃ m, (s.answer freshId r).run state =
      (if p.isTellable then faultAnswer (r.identifier freshId) fault else unexpectedResponse,
        ⟨σ', m⟩) := by
  obtain ⟨m', hrun⟩ := h.run (m := state.metrics)
  obtain ⟨m, hanswer⟩ := run_answer_of_reaches hmethod hpath freshId hreach hrun
  refine ⟨m, hanswer.trans ?_⟩
  rw [← h.isTellable_eq]
  rfl

end

/-- **Nothing is written before every gate has been passed.**  Consider a notification, however the
service is set up and whatever the tracker answers.

If it gets to a gate that refuses it, the fault of that gate is the answer, with the status 502 if
rules could not be downloaded and 400 otherwise, and the tracker has only been asked.  There are two
exceptions, where the answer is that of an unexpected failure: an event that is not supported and
has a name that cannot be written, as it has half of a surrogate pair, and a parent that is no
requirement and has a type that cannot be written, as it has such a half or a number without digits.

Updates are sent only if sending is on, all gates have been passed and some rule was executed, and
only to the items that were fetched.  A notification that is neither refused nor gets as far as an
outcome of its rules is answered as an unexpected failure, and the tracker has only been asked.
Documents may be nested to any depth here; that a reader or a writer runs out of stack is not among
the failures. -/
theorem gates_guard_updates (s : Service) (freshId : String) (r : WebRequest)
    (state : ServiceState) (hmethod : r.method = "POST")
    (hpath : r.path = "/workitems/updated".toList) :
    let start := state.session
    let response := ((s.answer freshId r).run state).1
    let after := ((s.answer freshId r).run state).2.session
    (∀ p σ fault σ', Reaches s r start (p, σ) → Refuses s r (p, σ) fault σ' →
      response = (if p.isTellable then faultAnswer (r.identifier freshId) fault
        else unexpectedResponse) ∧
      fault.status = (if s.downloads r p then 502 else 400) ∧
      after = σ' ∧ start.Asks (·.verb = .get) after) ∧
    start.Asks (fun q => q.verb = .patch → MayUpdate s r start q.url) after ∧
    ((∃ p σ fault σ', Reaches s r start (p, σ) ∧ Refuses s r (p, σ) fault σ') ∨
      (∃ p σ result, Reaches s r start (p, σ) ∧ Completes s p result) ∨
      response = unexpectedResponse ∧ start.Asks (·.verb = .get) after) := by
  intro start response after
  have hasks {p : Progress} {σ : Session} (hreach : Reaches s r start (p, σ)) :
      start.Asks (·.verb = .get) σ := (run_of_reaches (m := state.metrics) hreach).2
  refine ⟨fun p σ fault σ' hreach h => ?_, ?_⟩
  · obtain ⟨m, hanswer⟩ := run_answer_of_refuses hmethod hpath freshId hreach h
    have hafter : after = σ' := congrArg (·.2.session) hanswer
    exact ⟨congrArg Prod.fst hanswer, h.status_eq, hafter,
      hafter ▸ (hasks hreach).trans h.asks⟩
  · have hupdates {σ' : Session} (h : start.Asks (·.verb = .get) σ') :
        start.Asks (fun q => q.verb = .patch → MayUpdate s r start q.url) σ' :=
      h.mono fun q hq hpatch => by cases hq.symm.trans hpatch
    obtain ⟨p, σ, hreach, hend⟩ := exists_end s r .arrived start state.metrics
    cases hend with
    | refused h =>
      obtain ⟨m, hanswer⟩ := run_answer_of_refuses hmethod hpath freshId hreach h
      have hafter : after = _ := congrArg (·.2.session) hanswer
      exact ⟨hafter ▸ hupdates ((hasks hreach).trans h.asks), .inl ⟨_, _, _, _, hreach, h⟩⟩
    | completed h =>
      obtain ⟨m, hanswer⟩ := run_answer_of_reaches hmethod hpath freshId hreach rfl
      have hafter : after = _ := congrArg (·.2.session) hanswer
      refine ⟨hafter ▸ (hupdates (hasks hreach)).trans ?_, .inr (.inl ⟨_, _, _, hreach, h⟩)⟩
      exact (asks_of_completes hreach h).mono fun q hq _ => hq
    | broken hrun h =>
      obtain ⟨m, hanswer⟩ := run_answer_of_reaches hmethod hpath freshId hreach hrun
      have hafter : after = _ := congrArg (·.2.session) hanswer
      have hget : start.Asks (·.verb = .get) after := hafter ▸ (hasks hreach).trans h
      exact ⟨hupdates hget, .inr (.inr ⟨congrArg Prod.fst hanswer, hget⟩)⟩

/-- The pages of a tracker, in pieces: a rule text, an item and its parent. -/
def samplePage (url : Text) : List String :=
  if url = ("r" : Text) then
    ["rule \"R\": when ", "me.State is \"A\" ", "then set ", "parent.State = \"B\""]
  else if url = ("p" : Text) then
    ["\x7b\"id\":1,\"url\":\"p\",", "\"fields\":\x7b", "\"System.WorkItemType\":",
      "\"Bug\"\x7d\x7d"]
  else ["\x7b\"id\":2,\"url\":\"t\",", "\"fields\":\x7b", "\"System.State\":", "\"A\"\x7d\x7d"]

/-- The bytes of a text in pieces. -/
def bytesOf (pieces : List String) : List UInt8 := Text.encodeUtf8 (pieces.flatMap String.toList)

/-- A service for that tracker. -/
def sampleService : Service where
  settings := { serviceName := "workitems", listensAt := 8000 }
  around := { transport := fun _ q => .answered ⟨200, bytesOf (samplePage q.url)⟩ }
  files := fun _ => .error .missing
  explainBody := fun _ => "no document"
  explainIssues := fun _ _ => "no notification"

/-- A notification that the item was updated, with a token and some more headers. -/
def sampleNotification (headers : List (String × String)) : WebRequest where
  method := "POST"
  target := "/workitems/updated"
  headers := ("X-ADO-PAT", "s") :: ("X-Request-ID", "q") :: headers
  body := bytesOf ["\x7b\"eventType\":", "\"workitem.updated\",", "\"resource\":\x7b",
    "\"workItemId\":2,", "\"revision\":\x7b", "\"relations\":[\x7b", "\"rel\":",
    "\"System.LinkTypes.", "Hierarchy-Reverse\",", "\"url\":\"p\",", "\"attributes\":\x7b",
    "\"name\":", "\"Parent\"\x7d\x7d]\x7d,", "\"_links\":\x7b", "\"parent\":\x7b", "\"href\":",
    "\"t\"\x7d\x7d\x7d\x7d"]

/-- What is asked of that tracker for the notification, and the update of the parent. -/
def sampleRequests : List (Tracker.Verb × Text) :=
  [(.get, "r"), (.get, "p"), (.get, "t"), (.patch, "p")]

/-- A notification that does not say where the rules are is refused.  One whose rule is executed
leads to an update of the parent, behind all gates. -/
theorem update_behind_all_gates :
    let start := sampleService.initialState 0
    let updated := sampleNotification [("X-ADO-RULES", "r")]
    ((sampleService.answer "f" (sampleNotification [])).run start).1 =
      faultAnswer "q" (missingHeader rulesHeader) ∧
    ((sampleService.answer "f" updated).run start).2.session.requests.map
      (fun q => (q.verb, q.url)) = sampleRequests ∧
    MayUpdate sampleService updated start.session "p" := by
  intro start updated
  have hpath (headers : List (String × String)) :
      (sampleNotification headers).path = "/workitems/updated".toList := by
    have hnil : (sampleNotification headers).path = (sampleNotification []).path := rfl
    rw [hnil]
    decide +kernel
  have hrequests : ((sampleService.answer "f" updated).run start).2.session.requests.map
      (fun q => (q.verb, q.url)) = sampleRequests := by
    decide +kernel
  refine ⟨?_, hrequests, ?_⟩
  · obtain ⟨hrefused, -⟩ :=
      gates_guard_updates sampleService "f" (sampleNotification []) start rfl (hpath _)
    exact (hrefused _ _ _ _ (.single (.token rfl)) (.noRules rfl rfl)).1
  · obtain ⟨-, ⟨more, hmore, hupdates⟩, -⟩ :=
      gates_guard_updates sampleService "f" updated start rfl (hpath _)
    have hmap : more.map (fun q => (q.verb, q.url)) =
        sampleRequests := by
      rw [hmore] at hrequests
      exact hrequests
    have hmem : (.patch, ("p" : Text)) ∈ more.map fun q => (q.verb, q.url) := by
      rw [hmap]
      decide
    obtain ⟨q, hq, hpatch⟩ := List.mem_map.mp hmem
    obtain ⟨hverb, hurl⟩ := Prod.mk.inj hpatch
    exact hurl ▸ hupdates q hq hverb

end Service

end Cascade
