import Mathlib.Data.List.TakeWhile
import Cascade.Text.Blank

/-!
# Trimmed texts

Trimming removes exactly the blanks at the ends: a text whose first and last characters are not
blank is left alone (`IsTrimmed.trim_eq`), so trimming twice is trimming once (`trim_trim`), and
blanks around such a text are all that is lost (`trim_blanks_append`).
-/

namespace Cascade.Text

/-- A text that neither begins nor ends with a blank. -/
def IsTrimmed (s : List Char) : Prop :=
  (∀ c, s.head? = some c → isBlank c = false) ∧ ∀ c, s.getLast? = some c → isBlank c = false

lemma isTrimmed_trim (s : List Char) : IsTrimmed (trim s) :=
  ⟨fun _ => not_isBlank_head_trim s, fun _ => not_isBlank_getLast_trim s⟩

lemma trimStart_eq_self {s : List Char} (h : ∀ c, s.head? = some c → isBlank c = false) :
    trimStart s = s := by
  cases s with
  | nil => rfl
  | cons c s => exact trimStart_cons_of_not_isBlank (h c rfl) s

lemma trimEnd_eq_self {s : List Char} (h : ∀ c, s.getLast? = some c → isBlank c = false) :
    trimEnd s = s := by
  have hr : trimStart s.reverse = s.reverse :=
    trimStart_eq_self fun c hc => h c (by rwa [List.head?_reverse] at hc)
  rw [trimEnd, ← trimStart, hr, List.reverse_reverse]

/-- There is nothing to trim from a trimmed text. -/
lemma IsTrimmed.trim_eq {s : List Char} (h : IsTrimmed s) : trim s = s := by
  rw [trim, trimStart_eq_self h.1, trimEnd_eq_self h.2]

@[simp] lemma trim_trim (s : List Char) : trim (trim s) = trim s := (isTrimmed_trim s).trim_eq

lemma trimStart_blanks_append {bs : List Char} (hb : ∀ b ∈ bs, isBlank b = true) (s : List Char) :
    trimStart (bs ++ s) = trimStart s := by
  rw [trimStart, List.dropWhile_append_of_pos hb, trimStart]

lemma trimEnd_append_blanks {bs : List Char} (hb : ∀ b ∈ bs, isBlank b = true) (s : List Char) :
    trimEnd (s ++ bs) = trimEnd s := by
  have hr : ∀ b ∈ bs.reverse, isBlank b = true := fun b h => hb b (List.mem_reverse.mp h)
  rw [trimEnd, List.reverse_append, List.dropWhile_append_of_pos hr, trimEnd]

lemma trim_append_blanks {bs : List Char} (hb : ∀ b ∈ bs, isBlank b = true) (s : List Char) :
    trim (s ++ bs) = trim s := by
  by_cases hs : ∀ c ∈ s, isBlank c = true
  · have hnil {t : List Char} (ht : ∀ c ∈ t, isBlank c = true) : trimStart t = [] :=
      List.dropWhile_eq_nil_iff.mpr ht
    rw [trim, trim, hnil hs, hnil fun c hc => (List.mem_append.mp hc).elim (hs c) (hb c)]
  · rw [trim, trimStart, List.dropWhile_append, if_neg, trimEnd_append_blanks hb, trim, trimStart]
    simpa [List.dropWhile_eq_nil_iff] using hs

/-- A text is what trimming leaves of it, between the blanks that it begins with and others. -/
lemma exists_eq_append_trim (s : List Char) : ∃ after, (∀ b ∈ after, isBlank b = true) ∧
    s = s.takeWhile isBlank ++ trim s ++ after := by
  refine ⟨((trimStart s).reverse.takeWhile isBlank).reverse,
    fun b hb => List.mem_takeWhile_imp (List.mem_reverse.mp hb), ?_⟩
  rw [List.append_assoc, trim, trimEnd, ← List.reverse_append, List.takeWhile_append_dropWhile,
    List.reverse_reverse, trimStart, List.takeWhile_append_dropWhile]

/-- Only blanks are trimmed to nothing. -/
lemma isBlank_of_trim_eq_nil {s : List Char} (h : trim s = []) {c : Char} (hc : c ∈ s) :
    isBlank c = true := by
  have hstart : ∀ b ∈ trimStart s, isBlank b = true := by
    rw [trim, trimEnd, List.reverse_eq_nil_iff, List.dropWhile_eq_nil_iff] at h
    exact fun b hb => h b (List.mem_reverse.mpr hb)
  rw [← List.takeWhile_append_dropWhile (p := isBlank) (l := s)] at hc
  rcases List.mem_append.mp hc with hc | hc
  · exact List.mem_takeWhile_imp hc
  · exact hstart c hc

/-- What stands at the end of a trimmed text is not trimmed to nothing. -/
lemma IsTrimmed.trim_ne_nil {text s : List Char} (h : IsTrimmed text) (hs : s <:+ text)
    (hne : s ≠ []) : trim s ≠ [] := by
  intro hnil
  obtain ⟨before, rfl⟩ := hs
  -- the last character of the part is that of the text, which is not blank
  have hlast : isBlank (s.getLast hne) = false :=
    h.2 _ (by rw [List.getLast?_append, List.getLast?_eq_some_getLast hne, Option.some_or])
  rw [isBlank_of_trim_eq_nil hnil (List.getLast_mem hne)] at hlast
  cases hlast

lemma isBlank_of_mem_space {b : Char} (h : b ∈ [' ']) : isBlank b = true := by
  rw [List.mem_singleton.mp h]
  decide

/-- Blanks around a trimmed text are all that trimming removes. -/
lemma trim_blanks_append {before after s : List Char} (hb : ∀ b ∈ before, isBlank b = true)
    (ha : ∀ b ∈ after, isBlank b = true) (hs : IsTrimmed s) : trim (before ++ s ++ after) = s := by
  rw [trim, List.append_assoc, trimStart_blanks_append hb]
  cases s with
  | nil =>
    have hnil : trimStart after = [] := by
      rw [← List.append_nil after, trimStart_blanks_append ha]
      rfl
    simp [hnil, trimEnd]
  | cons c s =>
    rw [List.cons_append, trimStart_cons_of_not_isBlank (hs.1 c rfl), ← List.cons_append,
      trimEnd_append_blanks ha, trimEnd_eq_self hs.2]

end Cascade.Text
