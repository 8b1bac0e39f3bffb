import Mathlib.Tactic.Lemma
import Cascade.Service.Router
import Cascade.Proofs.Tracker.Requests

/-!
# Handling a request, part by part

What comes of a part of a request, and the session that it leaves, is given by one equation for each
part (`run_token` to `run_childrenOf`).  The parts that read from the tracker touch nothing but the
session; running the rules does not touch the session (`run_evaluate`), and sending updates makes
requests for their batches only (`makesOnly_dispatch`).

The answer to a request is a function of what comes of serving it (`run_answer`).
-/

namespace Cascade

open Tracker (Client MakesOnly Request Session)

variable {α β : Type} {σ : Session} {m : Metrics}

/-! ## Steps -/

namespace Handling

variable {x : Handling α} {f : α → Handling β} {st st' : ServiceState} {P : Request → Prop}
  {e : Except Failure α}

lemma run_bind_ok {a : α} (h : x.run.run st = (.ok a, st')) :
    (x >>= f).run.run st = (f a).run.run st' := by
  rw [ExceptT.run_bind, StateT.run_bind, h]
  rfl

lemma run_bind_error {e : Failure} (h : x.run.run st = (.error e, st')) :
    (x >>= f).run.run st = (.error e, st') := by
  rw [ExceptT.run_bind, StateT.run_bind, h]
  rfl

lemma run_bind_track {y : StateM Session α} :
    (track y >>= f).run.run ⟨σ, m⟩ = (f (y.run σ).1).run.run ⟨(y.run σ).2, m⟩ := rfl

lemma run_map (g : α → β) (h : x.run.run st = (e, st')) :
    (g <$> x).run.run st = (e.map g, st') := by
  rw [ExceptT.run_map, StateT.run_map, h]
  rfl

/-- Measuring a part changes neither what comes of it nor the session. -/
lemma run_timed (x : Handling α) (st : ServiceState) :
    ∃ m, (timed x).run.run st = ((x.run.run st).1, ⟨(x.run.run st).2.session, m⟩) := ⟨_, rfl⟩

lemma makesOnly_bind (hx : MakesOnly ServiceState.session P x.run)
    (hf : ∀ a, MakesOnly ServiceState.session P (f a).run) :
    MakesOnly ServiceState.session P (x >>= f).run := by
  rw [ExceptT.run_bind]
  refine hx.bind fun outcome => ?_
  cases outcome with
  | ok a => exact hf a
  | error e => exact .pure _

end Handling

/-- The identifier of a request, which is a fresh one if it comes with none. -/
def WebRequest.identifier (r : WebRequest) (freshId : String) : String :=
  (r.header? "X-Request-ID").getD freshId

/-- The type of an item. -/
def WorkItem.type (item : WorkItem) : Value :=
  (item.fields.get? "System.WorkItemType").getD .null

namespace Service

variable {s : Service} {r : WebRequest} {st : ServiceState}

/-! ## Parts that do not ask the tracker -/

/-- The token of a request, if it comes with one or the settings have one. -/
def token? (s : Service) (r : WebRequest) : Option String :=
  (r.filledHeader? tokenHeader).or (s.settings.token.filter (!·.isEmpty))

/-- The client for a token. -/
def clientFor (s : Service) (token : String) : Client := .ofSettings s.settings token s.around

/-- Where the rules for a request are, if the request or the settings say so. -/
def rulesAddress? (s : Service) (r : WebRequest) : Option String :=
  (r.filledHeader? rulesHeader).or (s.settings.rulesUrl.filter (!·.isEmpty))

/-- The file with the rules for requests without an address of rules. -/
def rulesFile? (s : Service) : Option String := s.settings.rulesFile.filter (!·.isEmpty)

/-- Whether an item is a requirement. -/
def isRequirement (s : Service) (item : WorkItem) : Bool :=
  s.settings.requirementTypes.any item.type.isStr

/-- The failure of a notification whose parent is no requirement. -/
def notRequirement (parent : WorkItem) : Fault :=
  .general "NOT_A_REQUIREMENT" "Parent work item is not a requirement, nothing to do."
    [("parent_id", .int parent.id), ("work_item_type", parent.type)]

lemma run_token : (s.token r).run.run st =
    (match s.token? r with
      | some token => .ok token
      | none => .error (.reported (missingHeader tokenHeader)), st) := by
  unfold token token?
  cases (r.filledHeader? tokenHeader).or (s.settings.token.filter (!·.isEmpty)) <;> rfl

lemma run_client (token : String) : (s.client token).run.run ⟨σ, m⟩ =
    (.ok (s.clientFor token), ⟨((s.clientFor token).connect.run σ).2, m⟩) := rfl

lemma run_ruleText_of_none {client : Client} (h : s.rulesAddress? r = none) :
    (s.ruleText client r).run.run st =
      (match s.rulesFile? with
        | some file =>
          match readText s.files (.ofText file.toList) with
          | .ok text => .ok (String.ofList text)
          | .error _ => .error .unexpected
        | none => .error (.reported (missingHeader rulesHeader)), st) := by
  unfold rulesAddress? at h
  unfold ruleText rulesFile?
  rw [h]
  cases s.settings.rulesFile.filter (!·.isEmpty) with
  | none => rfl
  | some file =>
    dsimp only
    cases readText s.files (.ofText file.toList) <;> rfl

lemma run_notification : (s.notification r).run.run st =
    (match Json.readBody r.body with
      | .ok v =>
        match Hook.decode v with
        | .valid hook => .ok hook
        | .invalid issues => .error (.reported (invalidPayload (s.explainIssues v issues)))
      | .error (.unreadable .malformed) =>
        .error (.reported (invalidPayload (s.explainBody r.body)))
      | .error _ => .error .unexpected, st) := by
  unfold notification
  cases Json.readBody r.body with
  | ok v =>
    dsimp only
    cases Hook.decode v <;> rfl
  | error e =>
    cases e with
    | undecodable => rfl
    | unreadable e => cases e <;> rfl

lemma run_requireSupported (hook : Hook) : (requireSupported hook).run.run st =
    (if hook.isSupported then .ok () else .error (.reported (.unsupportedEvent hook.eventType)),
      st) := by
  unfold requireSupported
  split <;> rfl

lemma run_requireRequirement (parent : WorkItem) : (s.requireRequirement parent).run.run st =
    (if s.isRequirement parent then .ok () else .error (.reported (notRequirement parent)),
      st) := by
  unfold requireRequirement isRequirement WorkItem.type
  dsimp only
  split <;> rfl

/-! ## Parts that ask the tracker -/

variable {client : Client}

lemma run_ruleText_of_some {url : String} (h : s.rulesAddress? r = some url) :
    (s.ruleText client r).run.run ⟨σ, m⟩ =
      (match ((client.readRules url).run σ).1 with
        | .ok text => .ok text
        | .error (.reported fault) => .error (.reported fault)
        | .error (.escaped _) => .error .unexpected, ⟨((client.readRules url).run σ).2, m⟩) := by
  unfold rulesAddress? at h
  unfold ruleText
  rw [h]
  dsimp only
  rw [Handling.run_bind_track]
  cases ((client.readRules url).run σ).1 with
  | ok text => rfl
  | error e => cases e <;> rfl

lemma run_parentOf (hook : Hook) : (parentOf client hook).run.run ⟨σ, m⟩ =
    (match ((client.readParent hook).run σ).1 with
      | .ok (some parent) => .ok parent
      | .ok none => .error (.reported (itemNotFound "Parent for" hook))
      | .error _ => .error .unexpected, ⟨((client.readParent hook).run σ).2, m⟩) := by
  unfold parentOf
  rw [Handling.run_bind_track]
  cases ((client.readParent hook).run σ).1 with
  | error e => rfl
  | ok found => cases found <;> rfl

lemma run_triggerOf (hook : Hook) : (triggerOf client hook).run.run ⟨σ, m⟩ =
    match hook.triggeringUrl.filter (!·.isEmpty) with
    | none => (.error (.reported (itemNotFound "Triggering" hook)), ⟨σ, m⟩)
    | some url =>
      (match ((client.readItem url).run σ).1 with
        | .ok (some trigger) => .ok trigger
        | .ok none => .error (.reported (itemNotFound "Triggering" hook))
        | .error _ => .error .unexpected, ⟨((client.readItem url).run σ).2, m⟩) := by
  unfold triggerOf
  cases hook.triggeringUrl.filter (!·.isEmpty) with
  | none => rfl
  | some url =>
    dsimp only
    rw [Handling.run_bind_track]
    cases ((client.readItem url).run σ).1 with
    | error e => rfl
    | ok found => cases found <;> rfl

lemma run_childrenOf (parent : WorkItem) : (childrenOf client parent).run.run ⟨σ, m⟩ =
    (match ((client.readChildren parent).run σ).1 with
      | .ok children => .ok children
      | .error _ => .error .unexpected, ⟨((client.readChildren parent).run σ).2, m⟩) := by
  unfold childrenOf
  rw [Handling.run_bind_track]
  cases ((client.readChildren parent).run σ).1 <;> rfl

/-! ## Rules and updates -/

/-- The outcome of the rules in a text, for an item, its parent and the children. -/
def evaluated (s : Service) (text : String) (trigger parent : WorkItem)
    (children : List WorkItem) : Except Failure RunResult :=
  match (readRules s.settings.strict text).result with
  | .ok rules =>
    match (runRules (.ofTrigger (some trigger) (some parent) children) rules).result with
    | .ok result => .ok result
    | .error _ => .error .unexpected
  | .error (.rejected e) => .error (.reported (.ofSyntaxError e))
  | .error (.refusedPattern _) => .error .unexpected

/-- Running the rules does not touch the session. -/
lemma run_evaluate (s : Service) (text : String) (trigger parent : WorkItem)
    (children : List WorkItem) (st : ServiceState) :
    ∃ m, (s.evaluate text trigger parent children).run.run st =
      (s.evaluated text trigger parent children, ⟨st.session, m⟩) := by
  have hrun : ∃ m, (do
      let rules ← readRuleText s.settings.strict text
      runOn rules trigger (some parent) children : Handling RunResult).run.run st =
        (s.evaluated text trigger parent children, ⟨st.session, m⟩) := by
    unfold evaluated readRuleText runOn
    cases (readRules s.settings.strict text).result with
    | error e => cases e <;> exact ⟨_, rfl⟩
    | ok rules =>
      dsimp only
      rw [pure_bind]
      cases (runRules (.ofTrigger (some trigger) (some parent) children) rules).result <;>
        exact ⟨_, rfl⟩
  obtain ⟨m₁, hrun⟩ := hrun
  obtain ⟨m₂, htimed⟩ := Handling.run_timed _ st
  rw [hrun] at htimed
  change _ = (s.evaluated text trigger parent children, ServiceState.mk st.session m₂) at htimed
  unfold evaluate
  cases h : s.evaluated text trigger parent children with
  | error e =>
    rw [h] at htimed
    exact ⟨m₂, Handling.run_bind_error htimed⟩
  | ok result =>
    rw [h] at htimed
    rw [Handling.run_bind_ok htimed]
    exact ⟨_, rfl⟩

lemma makesOnly_count {P : Request → Prop} (status : BatchStatus) :
    MakesOnly ServiceState.session P ((s.dispatcher client).count status) :=
  .modify fun _ => rfl

lemma makesOnly_attempt (b : Batch) : MakesOnly ServiceState.session
    (fun q => s.settings.dryRun = false ∧ q = client.batchRequest b)
    ((s.dispatcher client).attempt b) := by
  unfold Dispatcher.attempt
  split
  · exact .pure _
  next hdry =>
    have hsend : MakesOnly ServiceState.session (· = client.batchRequest b)
        ((s.dispatcher client).send b) := fun st => Tracker.makesOnly_send b st.session
    refine (hsend.mono fun q hq => ⟨Bool.eq_false_iff.mpr hdry, hq⟩).bind fun outcome => ?_
    cases outcome <;> exact .pure _

/-- Batches are written by requests of their own, and not at all in a dry run. -/
lemma makesOnly_sendAll (batches : List Batch) : MakesOnly ServiceState.session
    (fun q => s.settings.dryRun = false ∧ ∃ b ∈ batches, q = client.batchRequest b)
    ((s.dispatcher client).sendAll batches) := by
  induction batches with
  | nil => exact .pure _
  | cons b rest ih =>
    refine ((makesOnly_attempt b).mono fun q hq => ⟨hq.1, b, List.mem_cons_self, hq.2⟩).bind
      fun outcome => ?_
    cases outcome with
    | error e => exact .pure _
    | ok status =>
      refine (makesOnly_count status).bind fun _ => .bind ?_ fun _ => .pure _
      exact ih.mono fun q ⟨hdry, b', hb', hq⟩ => ⟨hdry, b', List.mem_cons_of_mem b hb', hq⟩

/-- Sending the updates of a run makes requests at the addresses of its operations only, and none
in a dry run. -/
lemma makesOnly_dispatch (s : Service) (client : Client) (result : RunResult) :
    MakesOnly ServiceState.session
    (fun q => s.settings.dryRun = false ∧ ∃ op ∈ result.operations, q.url = op.url)
    (s.dispatch client result).run := by
  unfold dispatch Handling.perform
  rw [ExceptT.run_bind_lift]
  refine ((makesOnly_sendAll (groupOperations result.operations)).mono ?_).bind fun report => ?_
  · rintro q ⟨hdry, b, hb, rfl⟩
    obtain ⟨url, hurl, rfl⟩ := List.mem_map.mp hb
    obtain ⟨op, hop, rfl⟩ := mem_distinctUrls.mp hurl
    exact ⟨hdry, op, hop, rfl⟩
  · split <;> exact .pure _

/-! ## Answers -/

/-- The answer that tells of a fault. -/
def faultAnswer (id : String) (fault : Fault) : WebResponse :=
  { documentResponse fault.status (fault.response (some id)) with requestId := some id }

/-- The answer to a request, given what comes of serving it. What cannot be written is answered as
an unexpected failure. -/
def respond (id : String) : Except Failure WebResponse → WebResponse
  | .ok response =>
    if canBeWritten response then { response with requestId := some id } else unexpectedResponse
  | .error (.reported fault) =>
    if fault.isTellable then faultAnswer id fault else unexpectedResponse
  | .error .unexpected => unexpectedResponse

/-- Of the document of a fault only the message and the details may be impossible to write. -/
lemma canBeWritten_fault (fault : Fault) (id : String) :
    canBeWritten (documentResponse fault.status (fault.response (some id))) = fault.isTellable := by
  simp [canBeWritten, documentResponse, Fault.response, Fault.isTellable, Json.isWritable,
    Json.areEntriesWritable, Value.strOrNull]

lemma run_answer {outcome : Except Failure WebResponse} {after : ServiceState}
    (h : (s.serve r.method r).run.run st = (outcome, after)) (freshId : String) :
    ∃ m, (s.answer freshId r).run st =
      (respond (r.identifier freshId) outcome, ⟨after.session, m⟩) := by
  have hserve : (s.serve r.method r).run.run st = pure (outcome, after) := h
  unfold answer
  simp only [StateT.run_bind, StateT.run_get, pure_bind, hserve]
  cases outcome with
  | ok response =>
    simp only [respond, Option.filter_some]
    cases canBeWritten response <;> exact ⟨_, rfl⟩
  | error failure =>
    cases failure with
    | unexpected => exact ⟨_, rfl⟩
    | reported fault =>
      simp only [failureResponse, respond, StateT.run_bind, StateT.run_modify, StateT.run_pure,
        pure_bind, Option.filter_some, canBeWritten_fault]
      cases fault.isTellable <;> exact ⟨_, rfl⟩

end Service

end Cascade
