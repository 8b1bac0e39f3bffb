import Mathlib.Tactic.Lemma
import Cascade.Engine.Execution

/-!
# Joining tags and splitting the text again

Splitting a text always gives single tags (`isSingleTag_of_mem_splitTagText`), and joining single
tags and splitting the text gives the tags back (`splitTagText_joinTags`).  A field value knows no
difference between no tag and one empty tag, so for values this holds up to empty tags
(`nonEmptyTags_splitTags_tagsText`).

The separator has two different characters, so no tag can make one at its edge: a tag may well end
in a semicolon or begin with a space.
-/

namespace Cascade

/-- A text without separator. -/
def IsSingleTag (tag : List Letter) : Prop := ¬ tagSeparator <:+: tag

/-- The tags that are not empty. -/
def nonEmptyTags (tags : List Text) : List Text := tags.filter (· ≠ ∅)

lemma isSingleTag_nil : IsSingleTag [] := by
  intro h
  have := h.length_le
  simp [tagSeparator] at this

/-- A text is a single tag when no separator starts at its head and its tail is one. -/
lemma isSingleTag_cons {l : Letter} {s : List Letter} :
    IsSingleTag (l :: s) ↔ ¬ (l = .char ';' ∧ s.head? = some (.char ' ')) ∧ IsSingleTag s := by
  have hprefix : tagSeparator <+: l :: s ↔ l = .char ';' ∧ s.head? = some (.char ' ') := by
    cases s with
    | nil => simp [tagSeparator]
    | cons d s => simp [tagSeparator, List.cons_prefix_cons, eq_comm]
  rw [IsSingleTag, List.infix_cons_iff, hprefix, not_or, IsSingleTag]

/-- Where no separator starts, a code point goes to the first tag of the rest. -/
lemma splitTagText_cons {l : Letter} {s t : List Letter} {ts : List (List Letter)}
    (hl : ¬ (l = .char ';' ∧ s.head? = some (.char ' '))) (hs : splitTagText s = t :: ts) :
    splitTagText (l :: s) = (l :: t) :: ts := by
  rw [splitTagText.eq_3, hs]
  rintro rest rfl rfl
  exact hl ⟨rfl, rfl⟩

/-- The first tag of a text begins as the text does. -/
lemma head?_of_splitTagText {s t : List Letter} {ts : List (List Letter)}
    (h : splitTagText s = t :: ts) {d : Letter} (hd : t.head? = some d) : s.head? = some d := by
  have hjoin := joinTags_splitTagText s
  rw [h] at hjoin
  obtain ⟨t, rfl⟩ := List.head?_eq_some_iff.mp hd
  cases ts with
  | nil => simp [← hjoin, joinTags, Text.joinWith]
  | cons u us => simp [← hjoin, joinTags, Text.joinWith]

/-- Splitting gives single tags. -/
lemma isSingleTag_of_mem_splitTagText {s t : List Letter} (ht : t ∈ splitTagText s) :
    IsSingleTag t := by
  induction s using splitTagText.induct generalizing t with
  | case1 =>
    obtain rfl : t = [] := by simpa [splitTagText] using ht
    exact isSingleTag_nil
  | case2 rest ih =>
    simp only [splitTagText, List.mem_cons] at ht
    rcases ht with rfl | ht
    · exact isSingleTag_nil
    · exact ih ht
  | case3 l rest _ hnil => exact absurd hnil (splitTagText_ne_nil rest)
  | case4 l rest hno tag tags hsplit ih =>
    have hl : ¬ (l = .char ';' ∧ rest.head? = some (.char ' ')) := by
      rintro ⟨rfl, hd⟩
      obtain ⟨rest, rfl⟩ := List.head?_eq_some_iff.mp hd
      exact hno rest rfl rfl
    rw [splitTagText_cons hl hsplit, List.mem_cons] at ht
    rcases ht with rfl | ht
    · refine isSingleTag_cons.mpr ⟨?_, ih (by simp [hsplit])⟩
      rintro ⟨rfl, hd⟩
      exact hl ⟨rfl, head?_of_splitTagText hsplit hd⟩
    · exact ih (by simp [hsplit, ht])

/-- A single tag is split to itself. -/
lemma splitTagText_of_isSingleTag {t : List Letter} (h : IsSingleTag t) : splitTagText t = [t] := by
  induction t with
  | nil => rfl
  | cons l t ih =>
    obtain ⟨hl, ht⟩ := isSingleTag_cons.mp h
    exact splitTagText_cons hl (ih ht)

/-- Before a separator a single tag is split off. -/
lemma splitTagText_append {t : List Letter} (h : IsSingleTag t) (rest : List Letter) :
    splitTagText (t ++ tagSeparator ++ rest) = t :: splitTagText rest := by
  induction t with
  | nil => rfl
  | cons l t ih =>
    obtain ⟨hl, ht⟩ := isSingleTag_cons.mp h
    refine splitTagText_cons (fun ⟨hl', hd⟩ => ?_) (ih ht)
    -- a tag that ends in a semicolon is followed by another one, not by a space
    cases t with
    | nil => simp [tagSeparator] at hd
    | cons d t => exact hl ⟨hl', by simpa using hd⟩

/-- Joining single tags, if there are any, and splitting again gives them back. -/
theorem splitTagText_joinTags {ts : List (List Letter)} (hne : ts ≠ [])
    (h : ∀ t ∈ ts, IsSingleTag t) : splitTagText (joinTags ts) = ts := by
  induction ts with
  | nil => exact absurd rfl hne
  | cons t ts ih =>
    have ht := h t List.mem_cons_self
    cases ts with
    | nil => exact splitTagText_of_isSingleTag ht
    | cons u us =>
      have hrest := ih (List.cons_ne_nil u us) fun t' ht' => h t' (List.mem_cons_of_mem t ht')
      show splitTagText (t ++ tagSeparator ++ joinTags (u :: us)) = t :: u :: us
      rw [splitTagText_append ht, hrest]

/-- The tags of a field value are single. -/
lemma isSingleTag_of_mem_splitTags {v : Value} {tag : Text} (h : tag ∈ splitTags v) :
    IsSingleTag tag.letters := by
  unfold splitTags at h
  split at h
  · obtain ⟨t, ht, rfl⟩ := List.mem_map.mp h
    exact isSingleTag_of_mem_splitTagText ht
  · simp at h

/-- Writing single tags to a field and reading them again gives them back, unless it is one empty
tag, which is read as none. -/
theorem splitTags_tagsText {tags : List Text} (hne : tags ≠ [∅])
    (h : ∀ tag ∈ tags, IsSingleTag tag.letters) : splitTags (.str (tagsText tags)) = tags := by
  have hsingle : ∀ t ∈ tags.map Text.letters, IsSingleTag t := by simpa using h
  by_cases hnil : tags = []
  · subst hnil
    rfl
  have hsplit : splitTagText (tagsText tags).letters = tags.map Text.letters := by
    exact splitTagText_joinTags (by simpa using hnil) hsingle
  have hempty : tagsText tags ≠ ∅ := by
    -- only one empty tag has the empty text
    intro hempty
    rw [hempty] at hsplit
    cases tags with
    | nil => exact hnil rfl
    | cons tag rest =>
      obtain ⟨htag, hrest⟩ := List.cons.inj hsplit
      exact hne (by rw [Text.letters_eq_nil_iff.mp htag.symm, List.map_eq_nil_iff.mp hrest.symm])
  have htruthy : (Value.str (tagsText tags)).isTruthy = true := by
    simp [Value.isTruthy, hempty]
  rw [splitTags, if_pos htruthy, Value.display, hsplit, List.map_map]
  simp [Function.comp_def]

/-- Up to empty tags, what is read again is always what was written. -/
theorem nonEmptyTags_splitTags_tagsText {tags : List Text}
    (h : ∀ tag ∈ tags, IsSingleTag tag.letters) :
    nonEmptyTags (splitTags (.str (tagsText tags))) = nonEmptyTags tags := by
  by_cases hempty : tags = [∅]
  · subst hempty
    rfl
  · rw [splitTags_tagsText hempty h]

/-! ## Values that hold tags -/

lemma Decimal.positional_ne_nil (digits : List Char) (point : Int) :
    positional digits point ≠ [] := by
  unfold positional
  split
  · exact List.cons_ne_nil _ _
  · dsimp only
    split <;> simp

lemma Decimal.text_ne_nil (d : Decimal) : d.text ≠ [] := by
  unfold Decimal.text
  dsimp only
  split
  · exact positional_ne_nil _ _
  · simp [scientific]

lemma floatText_ne_empty (f : Float) : floatText f ≠ "" := by
  unfold floatText
  split
  · simp
  · split <;> simp
  · simp [Decimal.text_ne_nil]

/-- A value that counts as present has a text. -/
lemma display_ne_empty {v : Value} (h : v.isTruthy = true) : v.display ≠ ∅ := by
  cases v with
  | null => cases h
  | bool b =>
    obtain rfl : b = true := h
    decide
  | int i => cases i <;> simp [Value.display, Value.inner, intText]
  | float f => simpa [Value.display, Value.inner] using floatText_ne_empty f
  | str s => simpa [Value.isTruthy, Value.display] using h
  | list items => simp [Value.display, Value.inner]
  | object entries => simp [Value.display, Value.inner]

/-- No value holds one empty tag and nothing else. -/
lemma splitTags_ne_empty_tag (v : Value) : splitTags v ≠ [∅] := by
  intro h
  unfold splitTags at h
  split at h
  · next htruthy =>
    obtain ⟨t, ht, hempty⟩ := List.map_eq_singleton_iff.mp h
    obtain rfl : t = [] := congrArg Text.letters hempty
    have hjoin := joinTags_splitTagText v.display.letters
    rw [ht] at hjoin
    exact display_ne_empty htruthy (Text.letters_eq_nil_iff.mp hjoin.symm)
  · cases h

/-! ## The tags of an item -/

/-- The tags of an item are those of its field. -/
lemma WorkItem.tags_eq (item : WorkItem) :
    item.tags = splitTags ((item.fields.get? tagsField).getD .null) := by
  have hcanonical : canonicalField tagsField = tagsField := by decide +kernel
  have hid : tagsField ≠ idField := by decide
  simp only [tags, read, hcanonical, if_neg hid]
  cases item.fields.get? tagsField with
  | none => rfl
  | some v => cases v <;> rfl

/-- The tags of an item are single. -/
lemma WorkItem.isSingleTag_of_mem_tags {item : WorkItem} {tag : Text} (h : tag ∈ item.tags) :
    IsSingleTag tag.letters :=
  isSingleTag_of_mem_splitTags h

end Cascade
