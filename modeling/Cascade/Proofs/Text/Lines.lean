import Mathlib.Tactic.Lemma
import Cascade.Text.Line
import Cascade.Text.Search

/-!
# Lines joined and cut again

Lines without boundaries in them, joined by line feeds, are the lines of the text, except that an
empty line at the end is lost (`exists_lines_joinWith_append`).  Whatever is collected from the
lines is therefore what is collected from those that were joined, if an empty line gives nothing
(`flatMap_lines_joinWith`).

Two texts joined by a line feed have the lines of the one and of the other
(`lines_append_newline_append`).  If the first text ends with a line boundary, the line feed opens
an empty line, unless that boundary is a carriage return, which takes the line feed to itself.
-/

namespace Cascade.Text

variable {current l rest : List Char}

lemma linesFrom_cons_of_not_isLineBreak {c : Char} (h : isLineBreak c = false) :
    linesFrom current (c :: rest) = linesFrom (c :: current) rest := by
  rw [linesFrom.eq_def]
  split
  · next heq => cases heq
  · next tail heq =>
    obtain ⟨rfl, -⟩ := List.cons.inj heq
    exact absurd h (by decide)
  · next d tail _ heq =>
    obtain ⟨rfl, rfl⟩ := List.cons.inj heq
    rw [if_neg]
    simp [h]

/-- A boundary ends a line, but for the carriage return that a line feed follows. -/
lemma linesFrom_cons_of_isLineBreak {c : Char} (h : isLineBreak c = true)
    (hpair : ∀ tail, c = '\r' → rest ≠ '\n' :: tail) :
    linesFrom current (c :: rest) = current.reverse :: linesFrom [] rest := by
  rw [linesFrom.eq_def]
  split
  · next heq => cases heq
  · next tail heq =>
    obtain ⟨rfl, rfl⟩ := List.cons.inj heq
    exact absurd rfl (hpair tail rfl)
  · next d tail _ heq =>
    obtain ⟨rfl, rfl⟩ := List.cons.inj heq
    rw [if_pos h]

/-- A line is read up to its boundary. -/
lemma linesFrom_append (h : ∀ c ∈ l, isLineBreak c = false) :
    linesFrom current (l ++ rest) = linesFrom (l.reverse ++ current) rest := by
  induction l generalizing current with
  | nil => rfl
  | cons c l ih =>
    rw [List.cons_append, linesFrom_cons_of_not_isLineBreak (h c List.mem_cons_self),
      ih fun d hd => h d (List.mem_cons_of_mem c hd)]
    simp

/-- What ends a line: a boundary character, or a carriage return and the line feed behind it. -/
def IsBoundary (b : List Char) : Prop := b = ['\r', '\n'] ∨ ∃ c, isLineBreak c = true ∧ b = [c]

/-- A line is read up to its boundary, if that does not go on in what follows. -/
lemma lines_append_boundary {b : List Char} (h : ∀ c ∈ l, isLineBreak c = false) (hb : IsBoundary b)
    (hrest : ∀ tail, b = ['\r'] → rest ≠ '\n' :: tail) :
    lines (l ++ (b ++ rest)) = l :: lines rest := by
  have hbreak (current : List Char) :
      linesFrom current (b ++ rest) = current.reverse :: linesFrom [] rest := by
    rcases hb with rfl | ⟨c, hc, rfl⟩
    · rfl
    · exact linesFrom_cons_of_isLineBreak hc fun tail hreturn => hrest tail (by rw [hreturn])
  rw [lines, linesFrom_append h, hbreak, List.append_nil, List.reverse_reverse, lines]

lemma lines_append_newline (h : ∀ c ∈ l, isLineBreak c = false) :
    lines (l ++ '\n' :: rest) = l :: lines rest :=
  lines_append_boundary h (.inr ⟨'\n', rfl, rfl⟩) fun _ hreturn =>
    absurd (List.cons.inj hreturn).1 (by decide)

lemma lines_of_unbroken (h : ∀ c ∈ l, isLineBreak c = false) :
    lines l = if l.isEmpty then [] else [l] := by
  have hlines : linesFrom [] (l ++ []) = linesFrom (l.reverse ++ []) [] := linesFrom_append h
  rw [List.append_nil, List.append_nil] at hlines
  have hend (current : List Char) :
      linesFrom current [] = if current.isEmpty then [] else [current.reverse] := rfl
  rw [lines, hlines, hend]
  simp

lemma joinWith_cons_cons {sep m : List Char} {ls : List (List Char)} :
    joinWith sep (l :: m :: ls) = l ++ sep ++ joinWith sep (m :: ls) := rfl

lemma joinWith_cons_of_ne_nil {sep : List Char} {ls : List (List Char)} (h : ls ≠ []) :
    joinWith sep (l :: ls) = l ++ sep ++ joinWith sep ls := by
  obtain ⟨m, ls, rfl⟩ := List.exists_cons_of_ne_nil h
  rfl

/-- Joined lines are the lines of their text, but that an empty line at the end is lost. -/
lemma exists_lines_joinWith_append {ls : List (List Char)}
    (h : ∀ l ∈ ls, ∀ c ∈ l, isLineBreak c = false) :
    ∃ gap, (∀ l ∈ gap, l = []) ∧ ls = lines (joinWith ['\n'] ls) ++ gap := by
  induction ls with
  | nil => exact ⟨[], by simp, rfl⟩
  | cons l ls ih =>
    have hl := h l List.mem_cons_self
    cases ls with
    | nil =>
      rw [joinWith, lines_of_unbroken hl]
      cases l with
      | nil => exact ⟨[[]], by simp, rfl⟩
      | cons c l => exact ⟨[], by simp, rfl⟩
    | cons m ls =>
      obtain ⟨gap, hgap, heq⟩ := ih fun k hk => h k (List.mem_cons_of_mem l hk)
      refine ⟨gap, hgap, ?_⟩
      rw [joinWith_cons_cons, List.append_assoc, List.singleton_append, lines_append_newline hl,
        List.cons_append, ← heq]

/-- What is collected from joined lines is what is collected from the lines. -/
theorem flatMap_lines_joinWith {α : Type} {f : List Char → List α} (hf : f [] = [])
    {ls : List (List Char)} (h : ∀ l ∈ ls, ∀ c ∈ l, isLineBreak c = false) :
    (lines (joinWith ['\n'] ls)).flatMap f = ls.flatMap f := by
  obtain ⟨gap, hgap, heq⟩ := exists_lines_joinWith_append h
  have hnone : gap.flatMap f = [] := List.flatMap_eq_nil_iff.mpr fun l hl => by rw [hgap l hl, hf]
  calc (lines (joinWith ['\n'] ls)).flatMap f
      = (lines (joinWith ['\n'] ls) ++ gap).flatMap f := by
        rw [List.flatMap_append, hnone, List.append_nil]
    _ = ls.flatMap f := by rw [← heq]

/-- The line that has begun and those behind it up to a line feed, which ends the last of them. -/
lemma linesFrom_append_newline (current first second : List Char) :
    ∃ gap, (∀ l ∈ gap, l = []) ∧
      linesFrom current (first ++ '\n' :: second) =
        linesFrom current first ++ gap ++ lines second := by
  fun_induction linesFrom current first with
  | case1 current hempty =>
    obtain rfl : current = [] := List.isEmpty_iff.mp hempty
    exact ⟨[[]], by simp, rfl⟩
  | case2 current hopen => exact ⟨[], by simp, rfl⟩
  | case3 current rest ih =>
    obtain ⟨gap, hgap, heq⟩ := ih
    refine ⟨gap, hgap, ?_⟩
    have hstep : linesFrom current ('\r' :: '\n' :: rest ++ '\n' :: second) =
        current.reverse :: linesFrom [] (rest ++ '\n' :: second) := rfl
    rw [hstep, heq]
    rfl
  | case4 current c rest hpair hbreak ih =>
    by_cases hlast : c = '\r' ∧ rest = []
    · -- the carriage return and the line feed are one boundary
      obtain ⟨rfl, rfl⟩ := hlast
      exact ⟨[], by simp, rfl⟩
    · obtain ⟨gap, hgap, heq⟩ := ih
      have hpair' : ∀ tail, c = '\r' → rest ++ '\n' :: second ≠ '\n' :: tail := by
        intro tail hc htail
        cases rest with
        | nil => exact hlast ⟨hc, rfl⟩
        | cons d rest => exact hpair rest hc (by rw [(List.cons.inj htail).1])
      refine ⟨gap, hgap, ?_⟩
      rw [List.cons_append, linesFrom_cons_of_isLineBreak hbreak hpair', heq, List.cons_append,
        List.cons_append]
  | case5 current c rest hpair hbreak ih =>
    obtain ⟨gap, hgap, heq⟩ := ih
    refine ⟨gap, hgap, ?_⟩
    rw [List.cons_append, linesFrom_cons_of_not_isLineBreak (by simpa using hbreak), heq]

/-- Two texts joined by a line feed have the lines of both, with nothing but empty lines between. -/
lemma lines_append_newline_append (first second : List Char) :
    ∃ gap, (∀ l ∈ gap, l = []) ∧
      lines (first ++ '\n' :: second) = lines first ++ gap ++ lines second :=
  linesFrom_append_newline [] first second

end Cascade.Text
