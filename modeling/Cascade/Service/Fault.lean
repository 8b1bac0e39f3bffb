import Cascade.Rule.SyntaxError
import Cascade.Value

/-!
# Failures that are reported to callers

A request that cannot be served is answered with a code, a message and details. Failures of the
tracker, or of another service that is asked for something, have a status of their own; all others
are the caller's.
-/

namespace Cascade

/-- The families of reported failures. -/
inductive FaultKind where
  | general
  | validation
  | ruleSyntax
  | unsupportedEvent
  | workItemNotFound
  | externalService
  deriving Repr, DecidableEq, Inhabited

/-- A failure that is reported to the caller. -/
structure Fault where
  kind : FaultKind
  code : String
  message : Text
  details : Entries := []
  deriving Inhabited

namespace Fault

/-- A failure with a code of its own. -/
def general (code : String) (message : Text) (details : Entries := []) : Fault :=
  ⟨.general, code, message, details⟩

/-- A request that is not valid. -/
def validation (message : Text) (details : Entries := []) : Fault :=
  ⟨.validation, "VALIDATION_ERROR", message, details⟩

/-- A rule text that was rejected, with what is known of the place. -/
def ruleSyntax (message : String) (number : Option Int) (text : Option String) : Fault :=
  let numberEntry : Entries := number.toList.map fun n => ("line_number", .int n)
  let textEntry : Entries := text.toList.map fun (t : String) => ("line", .str t)
  ⟨.ruleSyntax, "RULE_SYNTAX_ERROR", placedMessage message number text, numberEntry ++ textEntry⟩

/-- The failure that a syntax error is reported as. -/
def ofSyntaxError (e : SyntaxError) : Fault :=
  ruleSyntax e.fault.message (some e.number) (some e.text)

/-- An event that the service does not handle. -/
def unsupportedEvent (eventType : Text) : Fault :=
  ⟨.unsupportedEvent, "UNSUPPORTED_EVENT", "Unsupported event type: " ++ eventType,
    [("event_type", .str eventType)]⟩

/-- A work item that is needed and cannot be had. -/
def workItemNotFound (message : Text) (details : Entries := []) : Fault :=
  ⟨.workItemNotFound, "WORK_ITEM_NOT_FOUND", message, details⟩

/-- A failure of another service. -/
def externalService (service : String) (message : Text) (details : Entries := []) : Fault :=
  ⟨.externalService, "EXTERNAL_SERVICE_ERROR", service ++ ": " ++ message, details⟩

/-- The status of the answer. -/
def status (f : Fault) : Nat :=
  match f.kind with
  | .externalService => 502
  | _ => 400

/-- The body of the answer. -/
def response (f : Fault) (requestId : Option String) : Value :=
  .object [("request_id", .strOrNull requestId), ("code", .str f.code),
    ("message", .str f.message), ("details", .object f.details)]

/-- The message of a reported syntax error is that of the error. -/
theorem message_ofSyntaxError (e : SyntaxError) : (ofSyntaxError e).message = e.message := rfl

end Fault

end Cascade
