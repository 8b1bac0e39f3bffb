import Cascade.Json.Writer
import Cascade.Service.Basic
import Cascade.Service.Web

/-!
# Serving requests about rules

Callers can have a rule text checked, and can have rules run on items that come with the request.
Neither sends anything. A body that is not what is expected is answered with all its faults, and
with the parts that have them; so there is no answer if such a part cannot be written.
-/

namespace Cascade

/-- A request to check a rule text. -/
structure ValidationRequest where
  rules : Text
  /-- Whether text outside of the grammar is an error, if the settings are not to decide it. -/
  strict : Option Bool := none

/-- A request to run rules on given items. -/
structure EvaluationRequest extends ValidationRequest where
  trigger : WorkItem
  parent : Option WorkItem := none
  children : List WorkItem := []

/-- The fault of anything that should be an object in a body. -/
def objectExpected : IssueKind := .modelAttributesType

/-- A request to check a rule text, read from a body. -/
def ValidationRequest.decode : Payload.Decoder ValidationRequest :=
  Payload.record objectExpected fun o =>
    ValidationRequest.mk <$> Payload.required ["rules"] Payload.text o
      <*> Payload.optional ["strict"] none (Payload.nullable Payload.flag) o

/-- A request to run rules, read from a body. -/
def EvaluationRequest.decode : Payload.Decoder EvaluationRequest :=
  Payload.record objectExpected fun o =>
    (fun rules strict trigger parent children => ⟨⟨rules, strict⟩, trigger, parent, children⟩)
      <$> Payload.required ["rules"] Payload.text o
      <*> Payload.optional ["strict"] none (Payload.nullable Payload.flag) o
      <*> Payload.required ["triggering"] (WorkItem.decode objectExpected) o
      <*> Payload.optional ["parent"] none
        (Payload.nullable (WorkItem.decode objectExpected)) o
      <*> Payload.optional ["children"] [] (Payload.list (WorkItem.decode objectExpected)) o

/-- The response to a body with faults. -/
def faultyBody (faults : List Value) : WebResponse where
  status := 422
  document := some (.object [("detail", .list faults)])

/-- The response to a body that is not readable at all. -/
def unreadableBody : WebResponse where
  status := 400
  document := some (.object [("detail", .str "There was an error parsing the body")])

/-- A fault of a body as a whole. -/
def bodyFault (kind : String) : Value :=
  .object [("loc", .list [.str "body"]), ("type", .str kind)]

/-- The part of a value at the end of a way. -/
def partAt? (v : Value) : List PathStep → Option Value
  | [] => some v
  | .key name :: rest => (v.get? name).bind (partAt? · rest)
  | .index i :: rest =>
    match v with
    | .list items => items[i]?.bind (partAt? · rest)
    | _ => none

/-- What a fault is shown with: the part that has it, or what a missing part is missing from. -/
def Issue.part? (v : Value) (i : Issue) : Option Value :=
  partAt? v (if i.kind = .missing then i.path.dropLast else i.path)

/-- What a body says, or the response to it; `none` if no response can be written. -/
def readRequest {α : Type} (decode : Payload.Decoder α) (body : List UInt8) :
    Except (Option WebResponse) α :=
  if body.isEmpty then .error (faultyBody [bodyFault "missing"])
  else
    match Json.readBody body with
    | .error (.unreadable .malformed) => .error (faultyBody [bodyFault "json_invalid"])
    | .error _ => .error unreadableBody
    | .ok v =>
      match decode v with
      | .valid a => .ok a
      | .invalid issues =>
        if issues.all fun i => (i.part? v).all Json.isWritable then
          let fault (i : Issue) : Value := Issue.toValue { i with path := .key "body" :: i.path }
          .error (faultyBody (issues.map fault))
        else .error none

namespace Service

/-- Whether a request is to be read strictly. -/
def strictFor (s : Service) (q : ValidationRequest) : Bool := q.strict.getD s.settings.strict

/-- The rules of a request. Rules are written in characters: of a text that has halves of surrogate
pairs nothing is said. -/
def rulesOf (s : Service) (q : ValidationRequest) : Handling (List Rule) :=
  match q.rules.string? with
  | some text => readRuleText (s.strictFor q) text
  | none => throw .unexpected

/-- Checks a rule text. A text that is rejected is no failure of the request. -/
def serveValidation (s : Service) (q : ValidationRequest) : Handling Value :=
  tryCatch
    (do
      let rules ← s.rulesOf q
      return .object [("success", .bool true), ("rules", .list (rules.map Rule.toValue))])
    fun
      | .reported fault =>
        pure (.object [("success", .bool false),
          ("error", .object (("message", .str fault.message) :: fault.details))])
      | failure => throw failure

/-- Runs rules on given items. -/
def serveEvaluation (s : Service) (q : EvaluationRequest) : Handling Value := do
  let rules ← s.rulesOf q.toValidationRequest
  let result ← runOn rules q.trigger q.parent q.children
  return .object [("matched_rule", .strOrNull result.ruleName),
    ("operations", .list (result.operations.map UpdateOperation.toValue))]

end Service

end Cascade
