import Cascade.Proofs.Text.Classes
import Cascade.Rule.Operand

/-!
# Names of fields and words of scopes

A name of a field consists of word characters, points and hyphens (`isFieldName_mem`), so it holds
none of the characters that make a literal, a selector or a line.  A scope at the start of a text,
the mark behind it and the rest are unique (`scope_mark_unique`): no word of a scope and its mark
begin another one.
-/

namespace Cascade

/-- The scopes that can stand before a point. -/
def qualifiers : List Scope := [.me, .parent, .children, .child]

/-- A name consists of word characters, points and hyphens. -/
lemma isFieldName_mem {text : List Char} (h : isFieldName text = true) {c : Char} (hc : c ∈ text) :
    Text.isWord c = true ∨ c = '.' ∨ c = '-' := by
  cases text with
  | nil => simp at hc
  | cons d rest =>
    simp only [isFieldName, Bool.and_eq_true, Bool.or_eq_true, List.all_eq_true,
      decide_eq_true_eq] at h
    rcases List.mem_cons.mp hc with rfl | hc
    · left
      rcases h.1 with ha | rfl
      · exact Text.isWord_of_isAlpha ha
      · decide
    · simpa [or_assoc] using h.2 c hc

/-- A character that is none of a name's keeps a text from being a name. -/
lemma isFieldName_not_mem {text : List Char} (h : isFieldName text = true) {c : Char}
    (hc : (Text.isWord c || c == '.' || c == '-') = false) : c ∉ text := by
  intro hmem
  rcases isFieldName_mem h hmem with hw | rfl | rfl
  · simp [hw] at hc
  · simp at hc
  · simp at hc

/-- The scope at the start of a text, the mark behind it and what follows are unique. -/
lemma scope_mark_unique {s s' : Scope} (hs : s ∈ qualifiers) (hs' : s' ∈ qualifiers) {m m' : Char}
    (hm : m = '.' ∨ m = '(') (hm' : m' = '.' ∨ m' = '(') {rest rest' : List Char}
    (h : s.word.toList ++ m :: rest = s'.word.toList ++ m' :: rest') :
    s = s' ∧ m = m' ∧ rest = rest' := by
  simp only [qualifiers, List.mem_cons, List.not_mem_nil, or_false] at hs hs'
  rcases hs with rfl | rfl | rfl | rfl <;> rcases hs' with rfl | rfl | rfl | rfl <;>
    rcases hm with rfl | rfl <;> rcases hm' with rfl | rfl <;> simp_all [Scope.word]

/-- A selector stands behind a scope that can also stand before a point. -/
lemma mem_qualifiers_of_mem {s : Scope} (h : s ∈ [Scope.children, .child]) : s ∈ qualifiers := by
  simp only [List.mem_cons, List.not_mem_nil, or_false] at h
  rcases h with rfl | rfl <;> decide

/-- No text begins with a quote and with a scope. -/
lemma quote_cons_ne_scope {s : Scope} (hs : s ∈ qualifiers) {text rest : List Char} :
    '"' :: text ≠ s.word.toList ++ rest := by
  simp only [qualifiers, List.mem_cons, List.not_mem_nil, or_false] at hs
  rcases hs with rfl | rfl | rfl | rfl <;> simp [Scope.word]

end Cascade
