/-!
# Values by key

The entries of an object and the series of a measure are lists of keys with values, in the order in
which the keys came up first. `alter` changes the value of one key: what is found under that key
afterwards is the changed value (`lookup_alter_self`), and under any other key what was found before
(`lookup_alter_of_ne`).
-/

namespace Cascade.Keyed

variable {κ α : Type} [BEq κ]

/-- The list with the value of a key changed; a key that is there keeps its place, and one that is
missing gets a changed `fresh` value at the end. -/
def alter (fresh : α) (f : α → α) : List (κ × α) → κ → List (κ × α)
  | [], key => [(key, f fresh)]
  | (k, a) :: rest, key =>
    if k == key then (k, f a) :: rest else (k, a) :: alter fresh f rest key

variable [LawfulBEq κ]

theorem lookup_alter_self (fresh : α) (f : α → α) (entries : List (κ × α)) (key : κ) :
    (alter fresh f entries key).lookup key = some (f ((entries.lookup key).getD fresh)) := by
  induction entries with
  | nil => simp [alter]
  | cons e rest ih =>
    obtain ⟨k, a⟩ := e
    unfold alter
    split
    · next h => simp [eq_of_beq h]
    · next h =>
      have : (key == k) = false := beq_eq_false_iff_ne.2 fun e => h (beq_iff_eq.2 e.symm)
      simpa [List.lookup_cons, this] using ih

theorem lookup_alter_of_ne (fresh : α) (f : α → α) (entries : List (κ × α)) {key other : κ}
    (h : other ≠ key) : (alter fresh f entries key).lookup other = entries.lookup other := by
  induction entries with
  | nil =>
    have : (other == key) = false := by simpa using h
    simp [alter, List.lookup_cons, this]
  | cons e rest ih =>
    obtain ⟨k, a⟩ := e
    unfold alter
    split
    · next hk =>
      have : (other == k) = false := by simpa [eq_of_beq hk] using h
      simp [List.lookup_cons, this]
    · simp only [List.lookup_cons, ih]

end Cascade.Keyed
