/-!
# Sets of characters given by spans

A property of characters that is fixed by a standard is data: the ascending list of the code points
at which membership changes, beginning outside the set. Such a list is a *span list*, and
`Spans.contains` reads membership off it.

The main facts: nothing belongs to the empty span list (`contains_nil`), and a span list that opens
with one interval holds that interval (`contains_of_mem_first`).
-/

namespace Cascade.Text

/-- Code points at which membership changes, ascending, beginning outside the set. -/
abbrev Spans := List Nat

namespace Spans

/-- Membership of a code point: the list is read two places at a time, as half-open intervals. -/
def contains : Spans → Nat → Bool
  | start :: stop :: rest, n =>
    if n < start then false else if n < stop then true else contains rest n
  | [_], _ => false
  | [], _ => false

/-- The point at which the interval with a code point begins, if it is in one. -/
def start? : Spans → Nat → Option Nat
  | start :: stop :: rest, n =>
    if n < start then none else if n < stop then some start else start? rest n
  | [_], _ => none
  | [], _ => none

@[simp] theorem contains_nil (n : Nat) : contains [] n = false := rfl

/-- A point of the first interval belongs to the set. -/
theorem contains_of_mem_first {start stop n : Nat} (rest : Spans) (hs : start ≤ n)
    (he : n < stop) : contains (start :: stop :: rest) n = true := by
  simp [contains, Nat.not_lt.2 hs, he]

end Spans

end Cascade.Text
