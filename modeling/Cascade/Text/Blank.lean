import Cascade.Text.Spans

/-!
# White space

The white space of the rule language is that of the Unicode standard together with the four
separator controls `U+001C` to `U+001F`. The zero-width space and the byte order mark are not
blank.

`trim` removes blanks at both ends; what is left neither starts nor ends with one
(`not_isBlank_head_trim`, `not_isBlank_getLast_trim`).
-/

namespace Cascade.Text

/-- The blank code points. -/
def blankSpans : Spans :=
  [0x9, 0xE, 0x1C, 0x21, 0x85, 0x86, 0xA0, 0xA1, 0x1680, 0x1681, 0x2000, 0x200B, 0x2028, 0x202A,
   0x202F, 0x2030, 0x205F, 0x2060, 0x3000, 0x3001]

/-- Whether a character is white space. -/
def isBlank (c : Char) : Bool := blankSpans.contains c.toNat

/-- The text without the blanks it starts with. -/
def trimStart (s : List Char) : List Char := s.dropWhile isBlank

/-- The text without the blanks it ends with. -/
def trimEnd (s : List Char) : List Char := (s.reverse.dropWhile isBlank).reverse

/-- The text without the blanks at either end. -/
def trim (s : List Char) : List Char := trimEnd (trimStart s)

theorem trimStart_cons_of_not_isBlank {c : Char} (h : isBlank c = false) (s : List Char) :
    trimStart (c :: s) = c :: s := by
  simp [trimStart, h]

theorem length_trimStart_le (s : List Char) : (trimStart s).length ≤ s.length :=
  (List.dropWhile_suffix _).length_le

theorem length_trimEnd_le (s : List Char) : (trimEnd s).length ≤ s.length := by
  simpa [trimEnd] using (List.dropWhile_suffix isBlank (l := s.reverse)).length_le

theorem length_trim_le (s : List Char) : (trim s).length ≤ s.length :=
  Nat.le_trans (length_trimEnd_le _) (length_trimStart_le _)

/-- A trimmed text does not end with a blank. -/
theorem not_isBlank_getLast_trim (s : List Char) {c : Char}
    (h : (trim s).getLast? = some c) : isBlank c = false := by
  simp only [trim, trimEnd, List.getLast?_reverse] at h
  have := List.head?_dropWhile_not isBlank (trimStart s).reverse
  rw [h] at this
  simpa using this

/-- A trimmed text does not start with a blank. -/
theorem not_isBlank_head_trim (s : List Char) {c : Char}
    (h : (trim s).head? = some c) : isBlank c = false := by
  have hp : trim s <+: trimStart s := by
    have := List.dropWhile_suffix isBlank (l := (trimStart s).reverse)
    have := List.reverse_prefix.2 this
    simpa [trim, trimEnd] using this
  obtain ⟨t, ht⟩ := hp
  have hs : (trimStart s).head? = some c := by
    rw [← ht]
    cases hc : trim s with
    | nil => simp [hc] at h
    | cons a r => simp [hc] at h ⊢; exact h
  have := List.head?_dropWhile_not isBlank s
  rw [trimStart] at hs
  rw [hs] at this
  simpa using this

end Cascade.Text
