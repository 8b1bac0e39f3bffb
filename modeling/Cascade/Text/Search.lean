/-!
# Finding texts inside texts

Substring tests on lists of characters, or of code points. `isInfix` decides whether one text occurs
in another (`isInfix_iff`), and the lemmas say how starting with, ending with and occurring imply
each other.
-/

namespace Cascade.Text

section

variable {α : Type} [BEq α]

/-- Whether `part` occurs in a text. -/
def isInfix (part : List α) : List α → Bool
  | [] => part.isEmpty
  | c :: rest => part.isPrefixOf (c :: rest) || isInfix part rest

/-- The rest of a text that starts with `start`. -/
def after? (start s : List α) : Option (List α) :=
  if start.isPrefixOf s then some (s.drop start.length) else none

variable [LawfulBEq α]

theorem isInfix_iff {part s : List α} : isInfix part s = true ↔ part <:+: s := by
  induction s with
  | nil => simp [isInfix]
  | cons c rest ih => simp [isInfix, ih, List.infix_cons_iff]

theorem isInfix_of_isPrefixOf {part s : List α} (h : part.isPrefixOf s = true) :
    isInfix part s = true :=
  isInfix_iff.2 (List.isPrefixOf_iff_prefix.1 h).isInfix

theorem isInfix_of_isSuffixOf {part s : List α} (h : part.isSuffixOf s = true) :
    isInfix part s = true :=
  isInfix_iff.2 (List.isSuffixOf_iff_suffix.1 h).isInfix

theorem after?_append (start s : List α) : after? start (start ++ s) = some s := by
  simp [after?]

theorem eq_append_of_after? {start s rest : List α} (h : after? start s = some rest) :
    s = start ++ rest := by
  unfold after? at h
  split at h
  · next hp =>
    obtain ⟨t, rfl⟩ := List.isPrefixOf_iff_prefix.1 hp
    simpa using h
  · simp at h

end

/-- The pieces of a text between the occurrences of a character. -/
def splitOnChar (sep : Char) (s : List Char) : List (List Char) :=
  match s with
  | [] => [[]]
  | c :: rest =>
    if c = sep then [] :: splitOnChar sep rest
    else
      match splitOnChar sep rest with
      | [] => [[c]]
      | piece :: pieces => (c :: piece) :: pieces

/-- Texts written one after another with a separator between them. -/
def joinWith {α : Type} (sep : List α) : List (List α) → List α
  | [] => []
  | [s] => s
  | s :: rest => s ++ sep ++ joinWith sep rest

end Cascade.Text
