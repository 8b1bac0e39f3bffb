import Cascade.Json.Reader
import Cascade.Payload.Scalar
import Cascade.Service.EnvFile

/-!
# Settings of the service

Every setting has a default. It can be set in an environment file, in the environment or directly;
the later of these wins. In the environment the name of a setting is led by `WORKITEMS_`, in letters
of any case. Whatever its source, a value is checked like a payload; the one list among the settings
is written as a JSON document. Settings are texts of characters, except for the items of that list,
which may be any texts.
-/

namespace Cascade

/-- The settings. -/
structure Settings where
  environment : String := "local"
  logLevel : String := "info"
  /-- The access token for callers that bring none. -/
  token : Option String := none
  /-- The version of the tracker's interface. -/
  apiVersion : String := "7.1"
  /-- The longest time that a request may take, in seconds. -/
  timeout : Float := 10.0
  rulesUrl : Option String := none
  rulesFile : Option String := none
  /-- Whether text that fits no grammar is an error. -/
  strict : Bool := true
  /-- The types of the items that rules may be run for. -/
  requirementTypes : List Text := ["User Story", "Bug"]
  dryRun : Bool := false
  maxAttempts : Int := 3
  retryDelay : Float := 1.0
  failureThreshold : Int := 5
  recoveryTimeout : Float := 60.0
  serviceName : String
  /-- The number under which the service listens. -/
  listensAt : Int
  host : String := "0.0.0.0"

/-- Why there are no settings. -/
inductive SettingsFault where
  /-- A list that is no JSON document. -/
  | malformedList
  | invalid (issues : List Issue)
  deriving Repr, DecidableEq

namespace Settings

open Payload

/-- The name of the one list among the settings. -/
def listName : String := "requirement_work_item_types"

/-- The settings read from a payload. -/
def decode : Decoder Settings :=
  record .modelType fun o =>
    Settings.mk
      <$> optional ["env"] "local" string o
      <*> optional ["log_level"] "info" string o
      <*> optional ["devops_pat"] none (nullable string) o
      <*> optional ["devops_api_version"] "7.1" string o
      <*> optional ["devops_timeout_seconds"] 10.0 float o
      <*> optional ["rules_url"] none (nullable string) o
      <*> optional ["rules_file"] none (nullable string) o
      <*> optional ["dsl_strict"] true flag o
      <*> optional [listName] ["User Story", "Bug"] (list text) o
      <*> optional ["dry_run"] false flag o
      <*> optional ["retry_max_attempts"] 3 int o
      <*> optional ["retry_base_delay"] 1.0 float o
      <*> optional ["circuit_breaker_failure_threshold"] 5 int o
      <*> optional ["circuit_breaker_recovery_timeout"] 60.0 float o
      <*> required ["service_name"] string o
      <*> required ["port"] int o
      <*> optional ["host"] "0.0.0.0" string o

/-- The settings as data. -/
def toValue (s : Settings) : Value :=
  .object [("env", .str s.environment), ("log_level", .str s.logLevel),
    ("devops_pat", Value.strOrNull s.token), ("devops_api_version", .str s.apiVersion),
    ("devops_timeout_seconds", .float s.timeout), ("rules_url", Value.strOrNull s.rulesUrl),
    ("rules_file", Value.strOrNull s.rulesFile), ("dsl_strict", .bool s.strict),
    (listName, .list (s.requirementTypes.map Value.str)), ("dry_run", .bool s.dryRun),
    ("retry_max_attempts", .int s.maxAttempts), ("retry_base_delay", .float s.retryDelay),
    ("circuit_breaker_failure_threshold", .int s.failureThreshold),
    ("circuit_breaker_recovery_timeout", .float s.recoveryTimeout),
    ("service_name", .str s.serviceName), ("port", .int s.listensAt), ("host", .str s.host)]

/-- What leads the name of a setting in the environment. -/
def variableLead : List Char := "workitems_".toList

/-- The setting that a variable of the environment sets, if it sets one. -/
def settingName? (name : String) : Option String :=
  (Text.after? variableLead (name.toList.map Char.toLower)).map String.ofList

/-- The settings that variables set. A list that is written as null is not set. -/
def ofVariables (bindings : List (String × String)) : Except SettingsFault Entries :=
  bindings.foldlM (fun entries (name, value) =>
    match settingName? name with
    | none => .ok entries
    | some name =>
      if name = listName then
        match Json.read (value : Text).letters with
        | .ok .null => .ok entries
        | .ok v => .ok (entries.put name v)
        | .error _ => .error .malformedList
      else .ok (entries.put name (.str value))) []

/-- The settings from an environment file, the environment, and directly; the name of the service
and where it listens are given directly. -/
def load (environment : List (String × String)) (file : Option String)
    (serviceName listensAt : Value) (direct : Entries) : Except SettingsFault Settings := do
  let fromEnvironment ← ofVariables environment
  let fromFile ←
    match file with
    | some text => ofVariables (EnvFile.read environment text)
    | none => .ok []
  let fixed : Entries := [("service_name", serviceName), ("port", listensAt)]
  let given := Entries.ofBindings (fromFile ++ fromEnvironment ++ direct ++ fixed)
  (decode (.object given)).toExcept.mapError .invalid

end Settings

end Cascade
