/-!
# What stands outside quotes and parentheses

Keywords and separators count only at *top level*: outside double quotes and outside parentheses.
`Nesting` is the state of a scan from left to right, `topLevelMask` says for every character of a
text whether it stands at top level, and `closingParen?` finds the parenthesis that closes another.
A closing parenthesis with no partner changes nothing for the mask.

A character at top level leaves the scan where a fresh one begins (`step_of_isTopLevel`); hence the
mask of a text is that of its parts wherever it is cut at top level (`maskFrom_append`).
-/

namespace Cascade

/-- Where a scan stands: inside quotes or not, and inside how many parentheses. -/
structure Nesting where
  quoted : Bool
  depth : Nat
  deriving Repr, DecidableEq

namespace Nesting

/-- Outside everything: where a scan begins. -/
def outside : Nesting := ⟨false, 0⟩

/-- The state behind a character. -/
def step (n : Nesting) (c : Char) : Nesting :=
  if c = '"' then { n with quoted := !n.quoted }
  else if n.quoted then n
  else if c = '(' then { n with depth := n.depth + 1 }
  else if c = ')' then { n with depth := n.depth - 1 }
  else n

/-- The state behind a text. -/
def steps (n : Nesting) (s : List Char) : Nesting := s.foldl step n

/-- Whether a character met in a state stands at top level; quotes and parentheses never do. -/
def isTopLevel (n : Nesting) (c : Char) : Bool :=
  n = outside && c ≠ '"' && c ≠ '(' && c ≠ ')'

theorem step_of_isTopLevel {n : Nesting} {c : Char} (h : n.isTopLevel c = true) :
    n.step c = outside := by
  simp only [isTopLevel, Bool.and_eq_true, decide_eq_true_eq, ne_eq] at h
  obtain ⟨⟨⟨rfl, h1⟩, h2⟩, h3⟩ := h
  simp [step, outside, h1, h2, h3]

@[simp] theorem steps_nil (n : Nesting) : n.steps [] = n := rfl

@[simp] theorem steps_cons (n : Nesting) (c : Char) (s : List Char) :
    n.steps (c :: s) = (n.step c).steps s := rfl

theorem steps_append (n : Nesting) (s t : List Char) :
    n.steps (s ++ t) = (n.steps s).steps t := List.foldl_append

end Nesting

/-- For each character of a text, whether it stands at top level, the scan being in a state. -/
def maskFrom (n : Nesting) : List Char → List Bool
  | [] => []
  | c :: rest => n.isTopLevel c :: maskFrom (n.step c) rest

/-- For each character of a text, whether it stands at top level. -/
def topLevelMask (text : List Char) : List Bool := maskFrom .outside text

@[simp] theorem length_maskFrom (n : Nesting) (text : List Char) :
    (maskFrom n text).length = text.length := by
  induction text generalizing n with
  | nil => rfl
  | cons c rest ih => simp [maskFrom, ih]

theorem maskFrom_append (n : Nesting) (s t : List Char) :
    maskFrom n (s ++ t) = maskFrom n s ++ maskFrom (n.steps s) t := by
  induction s generalizing n with
  | nil => rfl
  | cons c rest ih => simp [maskFrom, ih]

/-- The place of the parenthesis that closes the first one of a text. Parentheses inside quotes do
not count; `index` is the place of the text's first character. -/
def closingFrom (quoted : Bool) (depth : Int) (index : Nat) : List Char → Option Nat
  | [] => none
  | c :: rest =>
    if c = '"' then closingFrom (!quoted) depth (index + 1) rest
    else if quoted then closingFrom quoted depth (index + 1) rest
    else if c = '(' then closingFrom quoted (depth + 1) (index + 1) rest
    else if c = ')' then
      if depth = 1 then some index else closingFrom quoted (depth - 1) (index + 1) rest
    else closingFrom quoted depth (index + 1) rest

/-- The place of the parenthesis that closes the one at `start`. -/
def closingParen? (text : List Char) (start : Nat) : Option Nat :=
  closingFrom false 0 start (text.drop start)

end Cascade
