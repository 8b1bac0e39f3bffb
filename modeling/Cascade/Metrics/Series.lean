import Cascade.Keyed

/-!
# Labelled series

A measure that is told apart by labels keeps one number, or whatever else it counts with, for every
list of label values that was used, in the order of first use. A series starts to exist when it is
first touched, even if nothing is added to it then.
-/

namespace Cascade

/-- What is kept for each list of label values. -/
abbrev Series (α : Type) := List (List String × α)

namespace Series

variable {α : Type}

/-- What is kept for label values. -/
def get? (s : Series α) (labels : List String) : Option α := s.lookup labels

/-- The series with the entry of label values changed; an entry that is missing starts as
`fresh`. -/
def update (fresh : α) (f : α → α) (s : Series α) (labels : List String) : Series α :=
  Keyed.alter fresh f s labels

/-- The series with an entry for label values. -/
def touch (fresh : α) (s : Series α) (labels : List String) : Series α := s.update fresh id labels

/-- The count for label values. -/
def count (s : Series Nat) (labels : List String) : Nat := (s.get? labels).getD 0

/-- The counts with one more for label values. -/
def increment (s : Series Nat) (labels : List String) : Series Nat := s.update 0 (· + 1) labels

/-- One more for label values adds one there. -/
theorem count_increment_self (s : Series Nat) (labels : List String) :
    (s.increment labels).count labels = s.count labels + 1 := by
  rw [count, get?, increment, update, Keyed.lookup_alter_self]
  rfl

/-- One more for label values leaves the other counts alone. -/
theorem count_increment_of_ne (s : Series Nat) {labels other : List String} (h : other ≠ labels) :
    (s.increment labels).count other = s.count other := by
  rw [count, get?, increment, update, Keyed.lookup_alter_of_ne _ _ _ h]
  rfl

end Series

end Cascade
