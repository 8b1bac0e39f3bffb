import Cascade.Text.Case
import Cascade.Value

/-!
# Fields of work items

Rules name the common fields by short names, in any case; all other names are the tracker's own and
are taken as they are. The identifier of an item is not among its fields but can be read and
written as if it were.

`Value.text` is the text by which a field value is compared and assigned. A user is known by the
unique name, and a whole number is written the same whether it came as a float or not.
-/

namespace Cascade

/-- The name under which an item's identifier is read. -/
def idField : String := "id"

/-- The field that holds tags. -/
def tagsField : String := "System.Tags"

/-- Short names, in lower case, with the names the tracker uses. -/
def fieldAliases : List (String × String) :=
  [("id", idField), ("title", "System.Title"), ("state", "System.State"),
    ("assignedto", "System.AssignedTo"), ("tags", tagsField), ("reason", "System.Reason"),
    ("workitemtype", "System.WorkItemType"), ("areapath", "System.AreaPath"),
    ("teamproject", "System.TeamProject"), ("iterationpath", "System.IterationPath")]

/-- The name the tracker uses for a field. -/
def canonicalField (name : String) : String :=
  (fieldAliases.lookup (String.ofList (Text.lowerText name.toList))).getD name

/-- The place of a field in a patch document. -/
def fieldPath (name : String) : String :=
  let canonical := canonicalField name
  "/fields/" ++ if canonical = idField then "System.Id" else canonical

namespace Value

/-- The text by which a value is compared and assigned. -/
def text (v : Value) : Text :=
  match v.get? "uniqueName" with
  | some name => name.display
  | none =>
    match v with
    | .bool b => (if b then "true" else "false" : String)
    | .float f =>
      match wholeFloat? f with
      | some i => intText i
      | none => v.display
    | v => v.display

end Value

end Cascade
