import Mathlib.Logic.Function.Basic
import Mathlib.Tactic.Lemma
import Cascade.Text.Search
import Cascade.Update.Operation
import Cascade.WorkItem.Basic

/-!
# What update operations do to the items of the tracker

The tracker is taken for the fields of its items, found by their addresses.  An update operation
overwrites the field that its path names on the item at its address (`UpdateOperation.writeTo`), and
a list of operations is carried out one after another (`writeAll`).

Operations at other addresses leave an item alone (`writeAll_of_ne`), and a field that no operation
names keeps its value (`get?_writeAll_of_ne`).
-/

namespace Cascade

/-- The fields of the items in the tracker, by address. -/
abbrev Tracker := Text → Entries

/-- What stands before the name of a field in a path. -/
def fieldRoot : String := "/fields/"

/-- The field that the path of an operation names: what stands behind the root of all fields, or the
path itself if it has another root. -/
def UpdateOperation.field (op : UpdateOperation) : Text :=
  ((Text.after? (fieldRoot : Text).letters op.path.letters).map Text.mk).getD op.path

/-- The tracker after an operation. -/
def UpdateOperation.writeTo (op : UpdateOperation) (tracker : Tracker) : Tracker :=
  Function.update tracker op.url ((tracker op.url).put op.field (.str op.value))

/-- The tracker after operations, carried out in order. -/
def writeAll (tracker : Tracker) (ops : List UpdateOperation) : Tracker :=
  ops.foldl (fun tracker op => op.writeTo tracker) tracker

variable {tracker : Tracker} {op : UpdateOperation} {ops : List UpdateOperation}
  {url field : Text} {name : String}

/-! ## Paths -/

/-- The name of the field that an assignment to a field of a rule overwrites. -/
def writtenField (name : String) : String :=
  if canonicalField name = idField then "System.Id" else canonicalField name

/-- The path of a field names the field it is made for. -/
lemma field_of_fieldPath (h : op.path = fieldPath name) : op.field = writtenField name := by
  have hpath : op.path = (fieldRoot : Text) ++ (writtenField name : Text) := by
    rw [h, ← Text.ofString_append]
    rfl
  rw [UpdateOperation.field, hpath, Text.letters_append, Text.after?_append]
  rfl

/-- Only the field of tags is written where tags are. -/
lemma writtenField_eq_tagsField :
    writtenField name = tagsField ↔ canonicalField name = tagsField := by
  have hid : "System.Id" ≠ tagsField := by decide
  have hid' : idField ≠ tagsField := by decide
  unfold writtenField
  split
  · next h => simp [h, hid, hid']
  · rfl

/-! ## One operation -/

@[simp] lemma writeTo_url : op.writeTo tracker op.url =
    (tracker op.url).put op.field (.str op.value) := by
  simp [UpdateOperation.writeTo]

lemma writeTo_of_ne (h : op.url ≠ url) : op.writeTo tracker url = tracker url := by
  simp [UpdateOperation.writeTo, Function.update_of_ne (Ne.symm h)]

/-- A field that an operation does not name keeps its value. -/
lemma get?_writeTo_of_ne (h : op.field ≠ field) :
    (op.writeTo tracker url).get? field = (tracker url).get? field := by
  by_cases hurl : op.url = url
  · subst hurl
    rw [writeTo_url, Entries.get?_put_of_ne _ (Ne.symm h)]
  · rw [writeTo_of_ne hurl]

/-! ## Operations in a row -/

@[simp] lemma writeAll_nil : writeAll tracker [] = tracker := rfl

@[simp] lemma writeAll_cons : writeAll tracker (op :: ops) = writeAll (op.writeTo tracker) ops :=
  rfl

lemma writeAll_append (first second : List UpdateOperation) :
    writeAll tracker (first ++ second) = writeAll (writeAll tracker first) second :=
  List.foldl_append

/-- Operations at other addresses leave an item alone. -/
lemma writeAll_of_ne (h : ∀ op ∈ ops, op.url ≠ url) : writeAll tracker ops url = tracker url := by
  induction ops generalizing tracker with
  | nil => rfl
  | cons op ops ih =>
    rw [writeAll_cons, ih fun op' hop' => h op' (List.mem_cons_of_mem op hop')]
    exact writeTo_of_ne (h op List.mem_cons_self)

/-- A field that no operation names keeps its value. -/
lemma get?_writeAll_of_ne (h : ∀ op ∈ ops, op.field ≠ field) :
    (writeAll tracker ops url).get? field = (tracker url).get? field := by
  induction ops generalizing tracker with
  | nil => rfl
  | cons op ops ih =>
    rw [writeAll_cons, ih fun op' hop' => h op' (List.mem_cons_of_mem op hop')]
    exact get?_writeTo_of_ne (h op List.mem_cons_self)

end Cascade
