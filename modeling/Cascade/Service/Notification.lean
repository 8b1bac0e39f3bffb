import Cascade.Service.Basic
import Cascade.Service.Web

/-!
# Serving notifications

A notification of an update has to pass *gates*, one after another: it must come with a token, there
must be rules, its body must be valid, its event must be supported, the parent of the item must be
found and be a requirement, the item itself must be found, and the rules must be readable. The first
gate that it does not pass decides the response. Only behind the last gate are the rules run and the
updates sent.
-/

namespace Cascade

namespace Service

/-- The header that holds the token. -/
def tokenHeader : String := "X-ADO-PAT"

/-- The header that says where the rules are. -/
def rulesHeader : String := "X-ADO-RULES"

/-- The failure of a request without a header that it needs. -/
def missingHeader (name : String) : Fault :=
  .validation (name ++ " header is required") [("header", .str name)]

/-- The token of a request. -/
def token (s : Service) (r : WebRequest) : Handling String :=
  match (r.filledHeader? tokenHeader).or (s.settings.token.filter (!·.isEmpty)) with
  | some token => pure token
  | none => Handling.report (missingHeader tokenHeader)

/-- The client for a token. -/
def client (s : Service) (token : String) : Handling Tracker.Client := do
  let client := Tracker.Client.ofSettings s.settings token s.around
  Handling.track client.connect
  return client

/-- The rules for a request: where its header says, else where the settings say. -/
def ruleText (s : Service) (client : Tracker.Client) (r : WebRequest) : Handling String :=
  match (r.filledHeader? rulesHeader).or (s.settings.rulesUrl.filter (!·.isEmpty)) with
  | some url => do
    match ← Handling.track (client.readRules url) with
    | .ok text => return text
    | .error (.reported fault) => Handling.report fault
    | .error (.escaped _) => throw .unexpected
  | none =>
    match s.settings.rulesFile.filter (!·.isEmpty) with
    | some file => do
      let text ← Handling.expect (readText s.files (.ofText file.toList))
      return String.ofList text
    | none => Handling.report (missingHeader rulesHeader)

/-- The failure of a request whose body is no notification. -/
def invalidPayload (reason : String) : Fault :=
  .validation "Invalid service hook payload" [("error", .str reason)]

/-- The notification in the body of a request. -/
def notification (s : Service) (r : WebRequest) : Handling Hook :=
  match Json.readBody r.body with
  | .ok v =>
    match Hook.decode v with
    | .valid hook => pure hook
    | .invalid issues => Handling.report (invalidPayload (s.explainIssues v issues))
  | .error (.unreadable .malformed) => Handling.report (invalidPayload (s.explainBody r.body))
  | .error _ => throw .unexpected

/-- Only supported events pass. -/
def requireSupported (hook : Hook) : Handling Unit :=
  if hook.isSupported then pure () else Handling.report (.unsupportedEvent hook.eventType)

/-- The failure of a notification of an item that cannot be had, or whose parent cannot. -/
def itemNotFound (what : String) (hook : Hook) : Fault :=
  .workItemNotFound s!"{what} work item {intText hook.workItemId} not found."
    [("work_item_id", .int hook.workItemId)]

/-- The parent of the item. -/
def parentOf (client : Tracker.Client) (hook : Hook) : Handling WorkItem := do
  match ← Handling.expect (← Handling.track (client.readParent hook)) with
  | some parent => return parent
  | none => Handling.report (itemNotFound "Parent for" hook)

/-- Only requirements pass. -/
def requireRequirement (s : Service) (parent : WorkItem) : Handling Unit :=
  let type := (parent.fields.get? "System.WorkItemType").getD .null
  if s.settings.requirementTypes.any type.isStr then pure ()
  else
    Handling.report (.general "NOT_A_REQUIREMENT"
      "Parent work item is not a requirement, nothing to do."
      [("parent_id", .int parent.id), ("work_item_type", type)])

/-- The item that was updated. -/
def triggerOf (client : Tracker.Client) (hook : Hook) : Handling WorkItem := do
  let found ←
    match hook.triggeringUrl.filter (!·.isEmpty) with
    | some url => do Handling.expect (← Handling.track (client.readItem url))
    | none => pure none
  match found with
  | some trigger => return trigger
  | none => Handling.report (itemNotFound "Triggering" hook)

/-- The children of the parent. -/
def childrenOf (client : Tracker.Client) (parent : WorkItem) : Handling (List WorkItem) := do
  Handling.expect (← Handling.track (client.readChildren parent))

/-- The outcome of the rules in a text, counted and measured. -/
def evaluate (s : Service) (text : String) (trigger parent : WorkItem)
    (children : List WorkItem) : Handling RunResult := do
  let result ← Handling.timed do
    let rules ← readRuleText s.settings.strict text
    runOn rules trigger (some parent) children
  let outcome := if result.matched then "matched" else "no_match"
  Handling.count fun m =>
    (m.recordEvaluation outcome (floatOfInt result.operations.length)).1
  return result

/-- The dispatcher of a client. -/
def dispatcher (s : Service) (client : Tracker.Client) :
    Dispatcher ServiceState Tracker.Escape where
  dryRun := s.settings.dryRun
  send batch := do
    let state ← get
    let (outcome, session) := (client.send batch).run state.session
    set { state with session }
    return outcome
  count status := modify fun state =>
    { state with metrics := state.metrics.recordBatch status.word }

/-- Sends the updates of a run. -/
def dispatch (s : Service) (client : Tracker.Client) (result : RunResult) :
    Handling (List DispatchResult) := do
  let report ← Handling.perform ((s.dispatcher client).dispatch result.operations)
  match report.failure with
  | some _ => throw .unexpected
  | none => return report.results

/-- The response to a notification that has passed all gates. -/
def outcomeValue (result : RunResult) (batches : List DispatchResult) : Value :=
  .object [("matched_rule", .strOrNull result.ruleName),
    ("operations", .list (result.operations.map UpdateOperation.toValue)),
    ("batches", .list (batches.map DispatchResult.toValue))]

/-- Serves a notification. -/
def serveNotification (s : Service) (r : WebRequest) : Handling Value := do
  let token ← s.token r
  let client ← s.client token
  let text ← s.ruleText client r
  let hook ← s.notification r
  requireSupported hook
  let parent ← parentOf client hook
  s.requireRequirement parent
  let trigger ← triggerOf client hook
  let children ← childrenOf client parent
  let result ← s.evaluate text trigger parent children
  let batches ← s.dispatch client result
  return outcomeValue result batches

end Service

end Cascade
