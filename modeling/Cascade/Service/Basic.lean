import Cascade.Engine.Run
import Cascade.Files.Folder
import Cascade.Metrics.Basic
import Cascade.Rule.Reader
import Cascade.Service.Fault
import Cascade.Text.Case
import Cascade.Tracker.Client

/-!
# The service

The service is described by its settings and its surroundings: the way to the tracker, the files,
and the words in which the libraries that read bodies speak of faults.
What it remembers between requests is the session with the tracker and the metrics.

Serving a request is a computation that may fail: with a failure that is reported to the caller, or
with one that nothing more is said of. What the computation did to the state stays in either case.
-/

namespace Cascade

/-- The levels of log events. -/
def logLevels : List String :=
  ["CRITICAL", "DEBUG", "ERROR", "FATAL", "INFO", "NOTSET", "WARN", "WARNING"]

/-- The level that settings ask for, in capitals. -/
def Settings.level (s : Settings) : String := String.ofList (Text.upperText s.logLevel.toList)

/-- Whether a service can be started with settings: their log level must exist. -/
def Settings.isUsable (s : Settings) : Bool := logLevels.contains s.level

/-- A service. -/
structure Service where
  settings : Settings
  around : Tracker.Surroundings
  files : FileSource
  /-- Why the dependencies of the service cannot be examined, if they cannot. -/
  ailment : Option String := none
  /-- What is said of bytes that are no JSON document. -/
  explainBody : List UInt8 → String
  /-- What is said of a payload with faults. -/
  explainIssues : Value → List Issue → String
  /-- What the service was built from. -/
  commit : String := "unknown"

/-- What a service remembers. -/
structure ServiceState where
  session : Tracker.Session
  metrics : Metrics

/-- Why a request is not served. -/
inductive Failure where
  | reported (fault : Fault)
  /-- Something of which callers are told nothing. -/
  | unexpected
  deriving Inhabited

/-- A part of serving a request. -/
abbrev Handling := ExceptT Failure (StateM ServiceState)

namespace Handling

/-- A step that cannot fail. -/
def perform {α : Type} (x : StateM ServiceState α) : Handling α := ExceptT.lift x

/-- A step on the metrics. -/
def count (f : Metrics → Metrics) : Handling Unit :=
  perform (modify fun s => { s with metrics := f s.metrics })

/-- A step of the session with the tracker. -/
def track {α : Type} (x : StateM Tracker.Session α) : Handling α :=
  perform do
    let s ← get
    let (a, session) := x.run s.session
    set { s with session }
    return a

/-- Fails with a failure that is reported. -/
def report {α : Type} (fault : Fault) : Handling α := throw (.reported fault)

/-- What must not fail. -/
def expect {ε α : Type} (x : Except ε α) : Handling α :=
  match x with
  | .ok a => pure a
  | .error _ => throw .unexpected

/-- A part whose duration is measured, whether it fails or not. -/
def timed {α : Type} (x : Handling α) : Handling α :=
  ExceptT.mk do
    let start := (← get).session.clock
    let result ← x.run
    modify fun s => { s with metrics := s.metrics.recordEvaluationTime (s.session.clock - start) }
    return result

end Handling

namespace Service

/-- The service at its start. -/
def initialState (s : Service) (clock : Float) : ServiceState where
  session := { clock }
  metrics := { service := s.settings.serviceName }

/-- Reads a rule text; a text that is rejected is counted. -/
def readRuleText (strict : Bool) (text : String) : Handling (List Rule) :=
  match (readRules strict text).result with
  | .ok rules => pure rules
  | .error (.rejected e) => do
    Handling.count Metrics.recordParseError
    Handling.report (.ofSyntaxError e)
  | .error (.refusedPattern _) => throw .unexpected

/-- Runs rules on an item, its parent and the parent's children. -/
def runOn (rules : List Rule) (trigger : WorkItem) (parent : Option WorkItem)
    (children : List WorkItem) : Handling RunResult :=
  Handling.expect (runRules (.ofTrigger (some trigger) parent children) rules).result

end Service

end Cascade
