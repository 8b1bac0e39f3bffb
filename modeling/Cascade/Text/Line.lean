/-!
# Physical lines

A text is cut at every line boundary: line feed, carriage return, the two together, the vertical
tab, the form feed, the three separator controls, next line, and the line and paragraph separators.
A boundary at the very end opens no further line, so the empty text has no line at all.

No line holds a boundary character (`lineBreak_not_mem_lines`).
-/

namespace Cascade.Text

/-- Whether a character ends a physical line. -/
def isLineBreak (c : Char) : Bool :=
  c == '\n' || c == '\r' || c == '\x0b' || c == '\x0c' || c == '\x1c' || c == '\x1d' ||
    c == '\x1e' || c == '\u0085' || c == '\u2028' || c == '\u2029'

/-- The lines of a text whose first line has begun: `current` holds it, last character first. -/
def linesFrom (current : List Char) : List Char → List (List Char)
  | [] => if current.isEmpty then [] else [current.reverse]
  | '\r' :: '\n' :: rest => current.reverse :: linesFrom [] rest
  | c :: rest =>
    if isLineBreak c then current.reverse :: linesFrom [] rest else linesFrom (c :: current) rest

/-- The physical lines of a text, without their boundaries. -/
def lines (text : List Char) : List (List Char) := linesFrom [] text

theorem lineBreak_not_mem_linesFrom (current text : List Char)
    (h : ∀ c ∈ current, isLineBreak c = false) :
    ∀ l ∈ linesFrom current text, ∀ c ∈ l, isLineBreak c = false := by
  fun_induction linesFrom current text with
  | case1 => simp
  | case2 => simpa using h
  | case3 current rest ih =>
    intro l hl
    rcases List.mem_cons.1 hl with rfl | hl
    · simpa using h
    · exact ih (by simp) l hl
  | case4 current c rest _ _ ih =>
    intro l hl
    rcases List.mem_cons.1 hl with rfl | hl
    · simpa using h
    · exact ih (by simp) l hl
  | case5 current c rest _ hc ih =>
    refine ih fun d hd => ?_
    rcases List.mem_cons.1 hd with rfl | hd
    · simpa using hc
    · exact h d hd

/-- No line of a text holds a line boundary. -/
theorem lineBreak_not_mem_lines {text l : List Char} (h : l ∈ lines text) :
    ∀ c ∈ l, isLineBreak c = false :=
  lineBreak_not_mem_linesFrom [] text (by simp) l h

end Cascade.Text
