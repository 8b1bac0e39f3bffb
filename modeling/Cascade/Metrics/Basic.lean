import Cascade.Metrics.Histogram
import Cascade.Metrics.Series
import Cascade.Number.Notation
import Cascade.Number.Reading
import Cascade.Value

/-!
# Metrics of the service

The service counts its requests, health checks, errors, rule evaluations and update batches, and
measures how long requests and evaluations take. Each measure is a *family* with a name and label
names; a family without labels has one series, which is there from the start.

`Metrics.samples` lists all samples. `Metrics.timed` is the measurement of a step by the name of a
family; asking it of a family that measures no time, or with the wrong labels, is an error.
-/

namespace Cascade

/-- The metrics of a service. -/
structure Metrics where
  service : String
  /-- By method, endpoint and status. -/
  requests : Series Nat := []
  /-- By method and endpoint. -/
  requestTimes : Series Histogram := []
  /-- By status. -/
  healthChecks : Series Nat := []
  /-- By type and service. -/
  errors : Series Nat := []
  /-- By outcome. -/
  evaluations : Series Nat := []
  parseErrors : Nat := 0
  /-- The update operations that rules have produced. -/
  operations : Float := 0.0
  /-- By status. -/
  batches : Series Nat := []
  evaluationTimes : Histogram := {}

/-- The names of the families. -/
inductive Family where
  | serviceInfo
  | requests
  | requestTimes
  | healthChecks
  | errors
  | evaluations
  | parseErrors
  | operations
  | batches
  | evaluationTimes
  deriving Repr, DecidableEq

/-- What a family measures with. -/
inductive Instrument where
  | info
  | counter
  | histogram
  deriving Repr, DecidableEq

/-- A refused use of a metric. -/
inductive MetricFault where
  /-- A counter was to go down. -/
  | negativeIncrement
  /-- The family has no labels. -/
  | unlabelled (family : Family)
  /-- The labels are not those of the family. -/
  | wrongLabels
  /-- The family has labels and none were given. -/
  | missingLabels
  /-- The family measures no durations. -/
  | notTimed (instrument : Instrument)
  deriving Repr, DecidableEq

namespace Family

/-- The family in samples; totals have a suffix there. -/
def name : Family → String
  | .serviceInfo => "service_info"
  | .requests => "http_requests"
  | .requestTimes => "http_request_duration_seconds"
  | .healthChecks => "health_check"
  | .errors => "errors"
  | .evaluations => "rule_evaluations"
  | .parseErrors => "rule_parse_errors"
  | .operations => "update_operations"
  | .batches => "update_batches"
  | .evaluationTimes => "rule_evaluation_duration_seconds"

/-- What the family measures with. -/
def instrument : Family → Instrument
  | .serviceInfo => .info
  | .requestTimes | .evaluationTimes => .histogram
  | _ => .counter

/-- The names of the labels. -/
def labelNames : Family → List String
  | .requests => ["method", "endpoint", "status_code"]
  | .requestTimes => ["method", "endpoint"]
  | .healthChecks | .batches => ["status"]
  | .errors => ["error_type", "service"]
  | .evaluations => ["outcome"]
  | .serviceInfo | .parseErrors | .operations | .evaluationTimes => []

/-- The name under which the family is asked for. -/
def key (f : Family) : String :=
  match f.instrument with
  | .counter => f.name ++ "_total"
  | _ => f.name

/-- All families. -/
def all : List Family :=
  [.serviceInfo, .requests, .requestTimes, .healthChecks, .errors, .evaluations, .parseErrors,
    .operations, .batches, .evaluationTimes]

/-- The family asked for by a name. -/
def ofKey? (key : String) : Option Family := all.find? (·.key = key)

end Family

/-- An instrument by name. -/
def Instrument.word : Instrument → String
  | .info => "info"
  | .counter => "counter"
  | .histogram => "histogram"

/-- An instrument by its capitalised name. -/
def Instrument.title : Instrument → String
  | .info => "Info"
  | .counter => "Counter"
  | .histogram => "Histogram"

/-- The refusal in words. -/
def MetricFault.message : MetricFault → String
  | .negativeIncrement => "Counters can only be incremented by non-negative amounts."
  | .unlabelled f =>
    s!"No label names were set when constructing {f.instrument.word}:{f.name}"
  | .wrongLabels => "Incorrect label names"
  | .missingLabels => "histogram metric is missing label values"
  | .notTimed i => s!"'{i.title}' object has no attribute 'observe'"

/-- One number that is shown. -/
structure Sample where
  name : String
  /-- Names and values of the labels. -/
  labels : List (String × String)
  value : Float

namespace Metrics

/-- The metrics with one more request. -/
def recordRequest (m : Metrics) (method endpoint status : String) (duration : Float) : Metrics :=
  { m with
    requests := m.requests.increment [method, endpoint, status]
    requestTimes := m.requestTimes.update {} (·.observe duration) [method, endpoint] }

/-- The metrics with one more health check. -/
def recordHealthCheck (m : Metrics) (status : String) : Metrics :=
  { m with healthChecks := m.healthChecks.increment [status] }

/-- The metrics with one more error, of another service if one is named. -/
def recordError (m : Metrics) (type : String) (service : String := "") : Metrics :=
  { m with errors := m.errors.increment [type, if service.isEmpty then m.service else service] }

/-- The metrics with one more evaluation, which produced some operations. -/
def recordEvaluation (m : Metrics) (outcome : String) (operations : Float) :
    Metrics × Option MetricFault :=
  let counted := { m with evaluations := m.evaluations.increment [outcome] }
  if operations < 0.0 then (counted, some .negativeIncrement)
  else ({ counted with operations := m.operations + operations }, none)

/-- The metrics with one more rejected rule text. -/
def recordParseError (m : Metrics) : Metrics := { m with parseErrors := m.parseErrors + 1 }

/-- The metrics with one more batch. -/
def recordBatch (m : Metrics) (status : String) : Metrics :=
  { m with batches := m.batches.increment [status] }

/-- The metrics with one more evaluation time. -/
def recordEvaluationTime (m : Metrics) (duration : Float) : Metrics :=
  { m with evaluationTimes := m.evaluationTimes.observe duration }

/-- The values of labels in the order of a family, if they are those of the family. -/
def labelValues? (f : Family) (labels : List (String × String)) : Option (List String) :=
  if labels.length = f.labelNames.length then f.labelNames.mapM (labels.lookup ·) else none

/-- The metrics with a series of a counter touched. -/
def touch (m : Metrics) (f : Family) (values : List String) : Metrics :=
  match f with
  | .requests => { m with requests := m.requests.touch 0 values }
  | .healthChecks => { m with healthChecks := m.healthChecks.touch 0 values }
  | .errors => { m with errors := m.errors.touch 0 values }
  | .evaluations => { m with evaluations := m.evaluations.touch 0 values }
  | .batches => { m with batches := m.batches.touch 0 values }
  | _ => m

/-- The metrics with a duration measured in a family that may not measure any. -/
def timedIn (m : Metrics) (f : Family) (labels : List (String × String)) (duration : Float) :
    Metrics × Option MetricFault :=
  if labels.isEmpty then
    match f with
    | .evaluationTimes => (m.recordEvaluationTime duration, none)
    | .requestTimes => (m, some .missingLabels)
    | f => (m, some (.notTimed f.instrument))
  else if f.labelNames.isEmpty then (m, some (.unlabelled f))
  else
    match labelValues? f labels with
    | none => (m, some .wrongLabels)
    | some values =>
      match f with
      | .requestTimes =>
        ({ m with requestTimes := m.requestTimes.update {} (·.observe duration) values }, none)
      | f => (m.touch f values, some (.notTimed f.instrument))

/-- The metrics with a duration measured under a name; a name that is unknown measures nothing. -/
def timed (m : Metrics) (key : String) (labels : List (String × String)) (duration : Float) :
    Metrics × Option MetricFault :=
  match Family.ofKey? key with
  | some f => m.timedIn f labels duration
  | none => (m, none)

/-- The samples of a labelled counter. -/
def counterSamples (f : Family) (s : Series Nat) : List Sample :=
  s.map fun (values, n) => ⟨f.key, f.labelNames.zip values, floatOfInt n⟩

/-- The samples of a histogram. -/
def histogramSamples (f : Family) (labels : List (String × String)) (h : Histogram) :
    List Sample :=
  let bounds := durationBounds.map floatText ++ ["+Inf"]
  (bounds.zip h.cumulative).map (fun (bound, n) =>
      ⟨f.name ++ "_bucket", labels ++ [("le", bound)], floatOfInt n⟩)
    ++ [⟨f.name ++ "_count", labels, floatOfInt h.total⟩, ⟨f.name ++ "_sum", labels, h.sum⟩]

/-- All samples. -/
def samples (m : Metrics) : List Sample :=
  [⟨"service_info_info", [("service", m.service), ("version", "1.0.0")], 1.0⟩]
    ++ counterSamples .requests m.requests
    ++ m.requestTimes.flatMap (fun (values, h) =>
      histogramSamples .requestTimes (Family.requestTimes.labelNames.zip values) h)
    ++ counterSamples .healthChecks m.healthChecks
    ++ counterSamples .errors m.errors
    ++ counterSamples .evaluations m.evaluations
    ++ [⟨Family.parseErrors.key, [], floatOfInt m.parseErrors⟩,
      ⟨Family.operations.key, [], m.operations⟩]
    ++ counterSamples .batches m.batches
    ++ histogramSamples .evaluationTimes [] m.evaluationTimes

end Metrics

end Cascade
