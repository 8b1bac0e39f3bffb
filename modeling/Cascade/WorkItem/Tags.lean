import Cascade.Text.Search
import Cascade.Value

/-!
# Tags

The tags of an item are one text, in which a semicolon and a space separate them. Splitting a text
and joining its tags gives the text back (`joinTags_splitTagText`).
-/

namespace Cascade

/-- The separator of tags. -/
def tagSeparator : List Letter := [.char ';', .char ' ']

/-- The tags of a text. A text has one tag more than it has separators. -/
def splitTagText : List Letter → List (List Letter)
  | [] => [[]]
  | .char ';' :: .char ' ' :: rest => [] :: splitTagText rest
  | l :: rest =>
    match splitTagText rest with
    | [] => [[l]]
    | tag :: tags => (l :: tag) :: tags

/-- The text of tags. -/
def joinTags (tags : List (List Letter)) : List Letter := Text.joinWith tagSeparator tags

/-- The tags that a field value holds; a value that counts as absent holds none. -/
def splitTags (v : Value) : List Text :=
  if v.isTruthy then (splitTagText v.display.letters).map Text.mk else []

/-- The text of tags, as a field value. -/
def tagsText (tags : List Text) : Text := ⟨joinTags (tags.map Text.letters)⟩

theorem splitTagText_ne_nil (s : List Letter) : splitTagText s ≠ [] := by
  fun_induction splitTagText s <;> simp

/-- Joining the tags of a text gives the text back. -/
theorem joinTags_splitTagText (s : List Letter) : joinTags (splitTagText s) = s := by
  have step : ∀ (t : List Letter) (ts : List (List Letter)) (l : Letter),
      joinTags ((l :: t) :: ts) = l :: joinTags (t :: ts) := by
    intro t ts l
    cases ts <;> rfl
  fun_induction splitTagText s with
  | case1 => rfl
  | case2 rest ih =>
    cases h : splitTagText rest with
    | nil => exact absurd h (splitTagText_ne_nil rest)
    | cons t ts => simp [h, joinTags, Text.joinWith, tagSeparator] at ih ⊢; exact ih
  | case3 c rest _ h ih => exact absurd h (splitTagText_ne_nil rest)
  | case4 c rest _ tag tags h ih =>
    rw [h] at ih
    rw [step, ih]

end Cascade
