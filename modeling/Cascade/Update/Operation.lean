import Cascade.Payload.Scalar
import Cascade.Rule.Basic
import Cascade.Rule.Dump

/-!
# Update operations

An update operation replaces one field of one work item. It says whether the update should suppress
notifications and bypass the tracker's own rules, or leaves that open.
-/

namespace Cascade

/-- The replacement of one field. -/
structure UpdateOperation where
  url : Text
  options : Options := {}
  /-- The place of the field in a patch document. -/
  path : Text
  value : Text
  deriving Repr, DecidableEq, Inhabited

namespace UpdateOperation

/-- The operation as an entry of a patch document. -/
def patch (op : UpdateOperation) : Value :=
  .object [("op", .str "replace"), ("path", .str op.path), ("value", .str op.value)]

/-- An entry for a flag that is set. -/
def flagEntry (name : String) (flag : Option Bool) : Entries :=
  flag.toList.map fun b => (name, .bool b)

/-- The operation as data, without the flags it leaves open. -/
def toValue (op : UpdateOperation) : Value :=
  let change : Entries :=
    [("op", .str "replace"), ("path", .str op.path), ("value", .str op.value)]
  .object (("url", .str op.url) ::
    (flagEntry "suppressNotifications" op.options.suppressNotifications
      ++ flagEntry "bypassRules" op.options.bypassRules ++ change))

/-- The operation as data, with every flag; those left open are null. -/
def fullValue (op : UpdateOperation) : Value :=
  .object [("url", .str op.url),
    ("suppress_notifications", flagValue op.options.suppressNotifications),
    ("bypass_rules", flagValue op.options.bypassRules), ("op", .str "replace"),
    ("path", .str op.path), ("value", .str op.value)]

/-- The one verb of a patch document. -/
def decodeVerb : Payload.Decoder Unit
  | .str t =>
    Payload.ofChars (fun cs => if cs = "replace".toList then .valid () else .fault .literalError) t
  | _ => .fault .literalError

/-- An operation read from a payload. Flags may be named in two ways. -/
def decode : Payload.Decoder UpdateOperation :=
  Payload.record .modelType fun o =>
    (fun url suppress bypass _ path value => ⟨url, ⟨suppress, bypass⟩, path, value⟩) <$>
      Payload.required ["url"] Payload.text o
      <*> Payload.optional ["suppressNotifications", "suppress_notifications"] none
        (Payload.nullable Payload.flag) o
      <*> Payload.optional ["bypassRules", "bypass_rules"] none (Payload.nullable Payload.flag) o
      <*> Payload.optional ["op"] () decodeVerb o
      <*> Payload.required ["path"] Payload.text o
      <*> Payload.required ["value"] Payload.text o

end UpdateOperation

end Cascade
