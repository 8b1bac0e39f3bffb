import Cascade.Json.Writer
import Cascade.Metrics.Basic

/-!
# Changes of metrics

What a step did to metrics is seen in the samples that are new or different after it. Samples are
listed by name, and those of one name by their labels.
-/

namespace Cascade

namespace Sample

/-- The labels of a sample, by name. -/
def sortedLabels (s : Sample) : List (String × String) := s.labels.mergeSort fun a b => a.1 ≤ b.1

/-- The labels of a sample as an object. -/
def labelsValue (s : Sample) : Value :=
  .object (s.sortedLabels.map fun (name, value) => (name, .str value))

/-- The labels of a sample as text. -/
def labelsText (s : Sample) : String :=
  ", ".intercalate (s.sortedLabels.map fun (name, value) =>
    (Json.quote Json.asciiLetter name ++ ": " ++ Json.quote Json.asciiLetter value).shown)

/-- The number of a sample: whole ones are whole numbers. -/
def number (s : Sample) : Value :=
  match floatParts s.value with
  | .finite b => if b.isWhole then .int b.truncate else .float s.value
  | _ => .float s.value

/-- A sample as data. -/
def toValue (s : Sample) : Value := .list [.str s.name, s.labelsValue, s.number]

/-- Whether two samples are the same. -/
def isSame (s t : Sample) : Bool := s.name == t.name && s.labels == t.labels && s.value == t.value

/-- Samples by name and labels. -/
def sort (samples : List Sample) : List Sample :=
  let keyed := samples.map fun s => (s, s.labelsText)
  (keyed.mergeSort fun a b =>
    a.1.name < b.1.name || (a.1.name == b.1.name && a.2 ≤ b.2)).map Prod.fst

end Sample

/-- The samples of metrics that are new or different, compared with earlier ones. -/
def Metrics.changesSince (after before : Metrics) : List Sample :=
  Sample.sort (after.samples.filter fun s => !before.samples.any s.isSame)

end Cascade
