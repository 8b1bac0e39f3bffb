import Mathlib.Tactic.Common
import Cascade.Text.Blank
import Cascade.Text.Line
import Cascade.Text.Word

/-!
# How the classes of characters lie to each other

Blanks and word characters are apart (`isWord_eq_false_of_isBlank`), every line boundary is a blank
(`isBlank_of_isLineBreak`), and the letters of ASCII are word characters (`isWord_of_isAlpha`).
-/

namespace Cascade.Text

/-- The code points of blanks, one by one. -/
def blankPoints : List Nat :=
  [0x9, 0xA, 0xB, 0xC, 0xD, 0x1C, 0x1D, 0x1E, 0x1F, 0x20, 0x85, 0xA0, 0x1680, 0x2000, 0x2001,
   0x2002, 0x2003, 0x2004, 0x2005, 0x2006, 0x2007, 0x2008, 0x2009, 0x200A, 0x2028, 0x2029, 0x202F,
   0x205F, 0x3000]

lemma Spans.contains_cons_cons {start stop : Nat} {rest : Spans} {n : Nat} :
    contains (start :: stop :: rest) n = true ↔
      start ≤ n ∧ (n < stop ∨ contains rest n = true) := by
  have hstep : contains (start :: stop :: rest) n =
      if n < start then false else if n < stop then true else contains rest n := rfl
  rw [hstep]
  by_cases hs : n < start
  · simp only [hs, if_true, Bool.false_eq_true, false_iff]
    omega
  · by_cases he : n < stop
    · simp only [hs, he, if_true, if_false, true_or, and_true, true_iff]
      omega
    · simp only [hs, he, if_false, false_or, iff_and_self]
      omega

lemma mem_blankPoints {c : Char} (h : isBlank c = true) : c.toNat ∈ blankPoints := by
  simp only [isBlank, blankSpans, Spans.contains_cons_cons, Spans.contains_nil, Bool.false_eq_true,
    or_false] at h
  simp only [blankPoints, List.mem_cons, List.not_mem_nil, or_false]
  omega

/-- No blank is a word character. -/
lemma isWord_eq_false_of_isBlank {c : Char} (h : isBlank c = true) : isWord c = false := by
  have hall : ∀ n ∈ blankPoints, isWord (Char.ofNat n) = false := by decide +kernel
  have := hall c.toNat (mem_blankPoints h)
  rwa [Char.ofNat_toNat] at this

lemma isBlank_eq_false_of_isWord {c : Char} (h : isWord c = true) : isBlank c = false := by
  by_contra hb
  rw [isWord_eq_false_of_isBlank (by simpa using hb)] at h
  cases h

/-- Every line boundary is a blank. -/
lemma isBlank_of_isLineBreak {c : Char} (h : isLineBreak c = true) : isBlank c = true := by
  simp only [isLineBreak, Bool.or_eq_true, beq_iff_eq, or_assoc] at h
  rcases h with rfl | rfl | rfl | rfl | rfl | rfl | rfl | rfl | rfl | rfl <;> decide

lemma isWord_of_isAlpha {c : Char} (h : c.isAlpha = true) : isWord c = true := by
  have hlt : c.toNat < 128 := by
    have hletter : (decide (c.val ≥ 'A'.val ∧ c.val ≤ 'Z'.val) ||
        (decide (c.val ≥ 'a'.val) && decide (c.val ≤ 'z'.val))) = true := h
    simp only [Bool.or_eq_true, Bool.and_eq_true, decide_eq_true_eq,
      UInt32.le_iff_toNat_le] at hletter
    rcases hletter with ⟨-, hle⟩ | ⟨-, hle⟩
    · exact Nat.lt_of_le_of_lt hle (by decide)
    · exact Nat.lt_of_le_of_lt hle (by decide)
  rw [isWord_of_isAscii hlt, isAsciiWord]
  show (c.isAlpha || c.isDigit || c == '_') = true
  rw [h]
  rfl

end Cascade.Text
