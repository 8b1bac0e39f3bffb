import Cascade.Json.Writer
import Cascade.Service.Notification
import Cascade.Service.RuleRequest

/-!
# Routing

Every resource of the service has a path and a method. A path that is known under another method is
answered differently from one that is unknown, and one that is known but for strokes at its end is
answered with the way to it.

Every request has an identifier, its own or a fresh one, and is counted together with its status. A
failure is counted by its code; of an unexpected failure nothing else is counted, and its response
does not bear the identifier. A response whose document cannot be written is such a failure, too.
-/

namespace Cascade

/-- The resources of the service. -/
inductive Resource where
  | index
  | health
  | metrics
  /-- A description of the service for people or programs. -/
  | description
  | notification
  | validation
  | evaluation
  deriving Repr, DecidableEq

namespace Resource

/-- The methods by which a resource is asked for. -/
def methods : Resource → List String
  | .index | .health | .metrics => ["GET"]
  | .description => ["GET", "HEAD"]
  | .notification | .validation | .evaluation => ["POST"]

/-- The resources by path. The pages that are meant for people exist in a local environment only. -/
def table (isLocal : Bool) : List (String × Resource) :=
  [("/", .index), ("/health", .health), ("/metrics", .metrics), ("/openapi.json", .description),
    ("/workitems/updated", .notification), ("/rules/validate", .validation),
    ("/rules/evaluate", .evaluation)]
  ++ if isLocal then
    [("/docs", .description), ("/docs/oauth2-redirect", .description), ("/redoc", .description)]
  else []

end Resource

/-- Where a request leads. -/
inductive Route where
  | found (resource : Resource)
  | wrongMethod
  | redirected
  | unknown
  deriving Repr, DecidableEq

namespace Service

/-- The resource at a path. -/
def resourceAt? (s : Service) (path : List Char) : Option Resource :=
  (Resource.table (s.settings.environment == "local")).lookup (String.ofList path)

/-- A path with the strokes at its end taken away, or with one put there. -/
def otherPath (path : List Char) : List Char :=
  match path.reverse with
  | '/' :: rest => (rest.dropWhile (· = '/')).reverse
  | _ => path ++ ['/']

/-- Where a request leads. -/
def route (s : Service) (method : String) (path : List Char) : Route :=
  match s.resourceAt? path with
  | some resource => if resource.methods.contains method then .found resource else .wrongMethod
  | none =>
    if path ≠ ['/'] && (s.resourceAt? (otherPath path)).isSome then .redirected else .unknown

/-- A response with a document. -/
def documentResponse (status : Nat) (document : Value) : WebResponse where
  status := status
  document := some document

/-- A response with a single remark. -/
def remark (status : Nat) (text : String) : WebResponse :=
  documentResponse status (.object [("detail", .str text)])

/-- What the service says of itself. -/
def indexValue : Value :=
  .object [("service", .str "workitems"), ("message", .str "Work Item Automation Service"),
    ("version", .str "1.0.0"),
    ("capabilities", .list [.str "webhook", .str "rule_validation", .str "dry_run"])]

/-- The state of the breakers. -/
def dependencies (session : Tracker.Session) : Value :=
  let entry (b : Breaker Float) : Text × Value :=
    (b.name, .str (if b.isOpen then "open" else "ok" : String))
  .object (session.breakers.map entry)

/-- The health of the service; the check is counted. -/
def serveHealth (s : Service) : Handling WebResponse := do
  let name := Value.str s.settings.serviceName
  match s.ailment with
  | none =>
    let state ← get
    Handling.count (·.recordHealthCheck "ok")
    return documentResponse 200 (.object [("service", name), ("status", .str "ok"),
      ("dependencies", dependencies state.session), ("version", .str "1.0.0"),
      ("commit", .str s.commit)])
  | some reason =>
    Handling.count (·.recordHealthCheck "error")
    return documentResponse 503 (.object [("service", name), ("status", .str "error"),
      ("error", .str reason)])

/-- Serves a request that comes with a body. -/
def serveBody {α : Type} (decode : Payload.Decoder α) (serve : α → Handling Value)
    (r : WebRequest) : Handling WebResponse :=
  match readRequest decode r.body with
  | .ok q => documentResponse 200 <$> serve q
  | .error (some response) => pure response
  | .error none => throw .unexpected

/-- Serves a request for a resource. -/
def serveResource (s : Service) (r : WebRequest) : Resource → Handling WebResponse
  | .index => pure (documentResponse 200 indexValue)
  | .health => s.serveHealth
  | .metrics | .description => pure { status := 200 }
  | .notification => documentResponse 200 <$> s.serveNotification r
  | .validation => serveBody ValidationRequest.decode s.serveValidation r
  | .evaluation => serveBody EvaluationRequest.decode s.serveEvaluation r

/-- Serves a request. -/
def serve (s : Service) (method : String) (r : WebRequest) : Handling WebResponse :=
  match s.route method r.path with
  | .found resource => s.serveResource r resource
  | .wrongMethod =>
    pure (if method = "HEAD" then { status := 405 } else remark 405 "Method Not Allowed")
  | .redirected => pure { status := 307 }
  | .unknown => pure (if method = "HEAD" then { status := 404 } else remark 404 "Not Found")

/-- The response to an unexpected failure. -/
def unexpectedResponse : WebResponse :=
  documentResponse 500 (.object [("code", .str "INTERNAL_ERROR"),
    ("message", .str "Internal server error"), ("details", .object [])])

/-- The response to a failure; `none` if the failure is not expected. The failure is counted. -/
def failureResponse (requestId : String) : Failure → StateM ServiceState (Option WebResponse)
  | .reported f => do
    modify fun s => { s with metrics := s.metrics.recordError f.code }
    return some (documentResponse f.status (f.response (some requestId)))
  | .unexpected => return none

/-- Whether a response can be written. -/
def canBeWritten (response : WebResponse) : Bool := response.document.all Json.isWritable

/-- Answers a request; a request without identifier gets a fresh one. -/
def answer (s : Service) (freshId : String) (r : WebRequest) :
    StateM ServiceState WebResponse := do
  let requestId := (r.header? "X-Request-ID").getD freshId
  let start := (← get).session.clock
  let response ←
    match ← (s.serve r.method r).run with
    | .ok response => pure (some response)
    | .error failure => failureResponse requestId failure
  match response.filter canBeWritten with
  | some response =>
    modify fun state =>
      { state with
        metrics := state.metrics.recordRequest r.method (String.ofList r.path)
          (Nat.repr response.status) (state.session.clock - start) }
    return { response with requestId := some requestId }
  | none =>
    modify fun state => { state with metrics := state.metrics.recordError "INTERNAL_ERROR" }
    return unexpectedResponse

end Service

end Cascade
