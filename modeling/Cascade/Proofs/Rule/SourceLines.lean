import Mathlib.Tactic.Lemma
import Cascade.Proofs.Rule.Parts
import Cascade.Proofs.Rule.Renumbering
import Cascade.Proofs.Text.Lines

/-!
# The lines that count, and where they stand

A line that counts stands in a physical line and bears its number.
`exists_of_mem_significantLinesFrom` says so, and the other lemmas say how the lines that count
follow from those of the parts of a file: those of two stretches of physical lines are those of the
one and of the other (`significantLinesFrom_append`), and physical lines joined by line feeds count
for the same as the lines themselves (`significantLinesFrom_lines_joinWith`), for an empty line
counts for nothing.
-/

namespace Cascade

lemma significantLinesFrom_append (number : Nat) (ls ms : List (List Char)) :
    significantLinesFrom number (ls ++ ms) =
      significantLinesFrom number ls ++ significantLinesFrom (number + ls.length) ms := by
  induction ls generalizing number with
  | nil => rfl
  | cons l ls ih =>
    have hnumber : number + 1 + ls.length = number + (l :: ls).length := by
      rw [List.length_cons]
      omega
    rw [List.cons_append, significantLinesFrom, significantLinesFrom, ih, hnumber,
      List.append_assoc]

/-- A physical line under another number counts for the same lines under that number. -/
lemma linesOf_renumber (g : Nat → Nat) {number number' : Nat} (h : g number = number')
    (physical : List Char) :
    linesOf number' physical = (linesOf number physical).map (SourceLine.renumber g) := by
  subst h
  unfold linesOf
  dsimp only
  split
  · rfl
  · rw [List.map_map]
    rfl

/-- The numbers of lines go on from the number of the first. -/
lemma significantLinesFrom_add (number shift : Nat) (ls : List (List Char)) :
    significantLinesFrom (number + shift) ls =
      (significantLinesFrom number ls).map (SourceLine.renumber (· + shift)) := by
  induction ls generalizing number with
  | nil => rfl
  | cons l ls ih =>
    have hline : linesOf (number + shift) l =
        (linesOf number l).map (SourceLine.renumber (· + shift)) :=
      linesOf_renumber (· + shift) rfl l
    rw [significantLinesFrom, significantLinesFrom, List.map_append, hline, ← ih,
      Nat.add_right_comm]

lemma significantLinesFrom_of_empty {number : Nat} {gap : List (List Char)}
    (h : ∀ l ∈ gap, l = []) : significantLinesFrom number gap = [] := by
  induction gap generalizing number with
  | nil => rfl
  | cons l gap ih =>
    obtain rfl := h l List.mem_cons_self
    rw [significantLinesFrom, ih fun m hm => h m (List.mem_cons_of_mem _ hm)]
    rfl

/-- Lines joined by line feeds count for the same as the lines. -/
lemma significantLinesFrom_lines_joinWith (number : Nat) {ls : List (List Char)}
    (h : ∀ l ∈ ls, ∀ c ∈ l, Text.isLineBreak c = false) :
    significantLinesFrom number (Text.lines (Text.joinWith ['\n'] ls)) =
      significantLinesFrom number ls := by
  obtain ⟨gap, hgap, heq⟩ := Text.exists_lines_joinWith_append h
  calc significantLinesFrom number (Text.lines (Text.joinWith ['\n'] ls))
      = significantLinesFrom number (Text.lines (Text.joinWith ['\n'] ls) ++ gap) := by
        rw [significantLinesFrom_append, significantLinesFrom_of_empty hgap, List.append_nil]
    _ = significantLinesFrom number ls := by rw [← heq]

/-- The lines a physical line counts for, if any, are the pieces it is cut into. -/
lemma areCutFrom_linesOf (number : Nat) (physical : List Char) :
    linesOf number physical = [] ∨ ∃ pieces, AreCutFrom (Text.trim physical) pieces ∧
      linesOf number physical = pieces.map (SourceLine.mk number) := by
  unfold linesOf
  dsimp only
  split
  · exact .inl rfl
  · next hcounts =>
    have hne : Text.trim physical ≠ [] := by
      intro hnil
      apply hcounts
      rw [hnil]
      rfl
    exact .inr ⟨_, areCutFrom_cutLine hne, rfl⟩

lemma of_mem_linesOf {number : Nat} {physical : List Char} {line : SourceLine}
    (h : line ∈ linesOf number physical) : line.number = number ∧ line.text <:+: physical := by
  rcases areCutFrom_linesOf number physical with hnone | ⟨pieces, hcut, heq⟩
  · rw [hnone] at h
    cases h
  · rw [heq] at h
    obtain ⟨piece, hpiece, rfl⟩ := List.mem_map.mp h
    exact ⟨rfl, (hcut.parts piece hpiece).trans (Text.trim_isInfix physical)⟩

/-- A line that counts stands in the physical line with its number. -/
lemma exists_of_mem_significantLinesFrom {number : Nat} {ls : List (List Char)} {line : SourceLine}
    (h : line ∈ significantLinesFrom number ls) :
    ∃ index physical, ls[index]? = some physical ∧ line.number = number + index ∧
      line.text <:+: physical := by
  induction ls generalizing number with
  | nil => cases h
  | cons l ls ih =>
    rcases List.mem_append.mp h with h | h
    · obtain ⟨hnumber, htext⟩ := of_mem_linesOf h
      exact ⟨0, l, rfl, hnumber, htext⟩
    · obtain ⟨index, physical, hphysical, hnumber, htext⟩ := ih h
      exact ⟨index + 1, physical, hphysical, by omega, htext⟩

end Cascade
