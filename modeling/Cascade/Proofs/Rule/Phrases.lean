import Cascade.Proofs.Rule.Names
import Cascade.Proofs.Rule.Operands
import Cascade.Proofs.Rule.Words

/-!
# Phrases

A phrase is a text that can stand on a line between spaces: it is not empty and has no blanks at its
ends, it holds no line boundary, its quotes and parentheses are in order, and outside of them none
of its words is out of a given list.  Literals, names and whatever stands in parentheses behind a
scope are phrases for the words of the language (`isPhrase_quotedLiteral`, `isPhrase_of_nameChars`,
`isPhrase_selector`), and phrases with a space between them are a phrase (`IsPhrase.join`).
-/

namespace Cascade

open Text (IsTrimmed isLineBreak isBlank isWord)

/-- A text that stands on a line by itself and is quiet for a list of words. -/
structure IsPhrase (words : List (List Char)) (t : List Char) : Prop where
  nonempty : t ≠ []
  trimmed : IsTrimmed t
  unbroken : ∀ c ∈ t, isLineBreak c = false
  balanced : Balanced t
  quiet : ∀ last rest, endsWord rest = true → Quiet (WordHit words) .outside last t rest

variable {words words' : List (List Char)} {s t m : List Char}

lemma IsPhrase.mono (h : IsPhrase words t) (hsub : words' ⊆ words) : IsPhrase words' t where
  nonempty := h.nonempty
  trimmed := h.trimmed
  unbroken := h.unbroken
  balanced := h.balanced
  quiet last rest hrest := (h.quiet last rest hrest).mono fun _ _ hhit => hhit.mono hsub

/-! ## Trimmed and unbroken texts -/

/-- A text between two trimmed ones is trimmed with them. -/
lemma isTrimmed_append_append (hs : IsTrimmed s) (ht : IsTrimmed t) (hs' : s ≠ []) (ht' : t ≠ []) :
    IsTrimmed (s ++ m ++ t) := by
  obtain ⟨c, s, rfl⟩ := List.exists_cons_of_ne_nil hs'
  refine ⟨fun d hd => hs.1 d (by simpa using hd), fun d hd => ht.2 d ?_⟩
  rwa [List.getLast?_append_of_ne_nil _ ht'] at hd

lemma isTrimmed_append_space (hs : IsTrimmed s) (ht : IsTrimmed t) (hs' : s ≠ []) (ht' : t ≠ []) :
    IsTrimmed (s ++ ' ' :: t) := by
  have := isTrimmed_append_append (m := [' ']) hs ht hs' ht'
  simpa using this

lemma unbroken_append_space (hs : ∀ c ∈ s, isLineBreak c = false)
    (ht : ∀ c ∈ t, isLineBreak c = false) : ∀ c ∈ s ++ ' ' :: t, isLineBreak c = false := by
  intro c hc
  rcases List.mem_append.mp hc with hc | hc
  · exact hs c hc
  rcases List.mem_cons.mp hc with rfl | hc
  · decide
  · exact ht c hc

lemma unbroken_of_all (h : t.all (!isLineBreak ·) = true) : ∀ c ∈ t, isLineBreak c = false := by
  simpa using h

/-- A text of characters that are no blanks is trimmed and has no line boundary. -/
lemma isTrimmed_of_forall (h : ∀ c ∈ t, isBlank c = false) : IsTrimmed t :=
  ⟨fun c hc => h c (List.mem_of_mem_head? hc), fun c hc => h c (List.mem_of_getLast? hc)⟩

lemma isLineBreak_eq_false {c : Char} (h : isBlank c = false) : isLineBreak c = false := by
  cases hb : isLineBreak c with
  | false => rfl
  | true =>
    rw [Text.isBlank_of_isLineBreak hb] at h
    cases h

/-! ## Joining phrases -/

/-- A phrase is quiet with the space behind it, whatever follows. -/
lemma IsPhrase.quiet_space (h : IsPhrase words t) (hnil : [] ∉ words) (last : Option Char)
    (rest : List Char) : Quiet (WordHit words) .outside last (t ++ [' ']) rest := by
  rw [quiet_append]
  refine ⟨h.quiet _ _ endsWord_space, fun _ hhit => ?_, trivial⟩
  have hmem := hhit.2
  rw [List.nil_append, takeWhile_isWord_eq_nil endsWord_space] at hmem
  exact hnil hmem

lemma IsPhrase.steps_space (h : IsPhrase words t) :
    Nesting.outside.steps (t ++ [' ']) = .outside := by
  rw [Nesting.steps_append, h.balanced.steps_outside]
  decide

lemma lastOf_space (last : Option Char) (t : List Char) : lastOf last (t ++ [' ']) = some ' ' :=
  lastOf_append

lemma IsPhrase.trim_append_space (h : IsPhrase words t) : Text.trim (t ++ [' ']) = t := by
  rw [Text.trim_append_blanks fun _ => Text.isBlank_of_mem_space, h.trimmed.trim_eq]

lemma IsPhrase.trim_space_cons (h : IsPhrase words t) : Text.trim (' ' :: t) = t := by
  have hblank : ∀ b ∈ [' '], isBlank b = true := fun _ => Text.isBlank_of_mem_space
  have htrim := Text.trim_blanks_append hblank (List.forall_mem_nil _) h.trimmed
  rwa [List.append_nil] at htrim

/-- Two phrases with a space between them are a phrase. -/
lemma IsPhrase.join (hs : IsPhrase words s) (ht : IsPhrase words t) (hnil : [] ∉ words) :
    IsPhrase words (s ++ ' ' :: t) where
  nonempty := by simp
  trimmed := isTrimmed_append_space hs.trimmed ht.trimmed hs.nonempty ht.nonempty
  unbroken := unbroken_append_space hs.unbroken ht.unbroken
  balanced := by
    refine hs.balanced.append (.plain ?_ ?_ ?_ ht.balanced) <;> decide
  quiet last rest hrest := by
    rw [← List.singleton_append, ← List.append_assoc, quiet_append, hs.steps_space]
    exact ⟨hs.quiet_space hnil _ _, ht.quiet _ _ hrest⟩

/-! ## Plain phrases -/

/-- A trimmed text without quotes, parentheses and line boundaries is a phrase for the words that
are none of its runs. -/
lemma isPhrase_of_plain (hne : t ≠ []) (htrim : IsTrimmed t)
    (hbreak : ∀ c ∈ t, isLineBreak c = false) (hplain : ∀ c ∈ t, IsPlain c)
    (hruns : ∀ run ∈ wordRuns t, run ∉ words) (hnil : [] ∉ words) : IsPhrase words t where
  nonempty := hne
  trimmed := htrim
  unbroken := hbreak
  balanced := balanced_of_plain hplain
  quiet last _ hrest := quiet_of_wordRuns hplain hruns hnil hrest last

/-- Whether a text of the language's own, which is no name and no literal, is a phrase. -/
def isPlainPhrase (words : List (List Char)) (t : List Char) : Bool :=
  t.head?.any (!isBlank ·) && t.getLast?.any (!isBlank ·) &&
    t.all (fun c => !isLineBreak c && c != '"' && c != '(' && c != ')') &&
    (wordRuns t).all (!words.contains ·) && !words.contains []

lemma isPhrase_of_isPlainPhrase (h : isPlainPhrase words t = true) : IsPhrase words t := by
  simp only [isPlainPhrase, Bool.and_eq_true, List.all_eq_true, Bool.not_eq_true', bne_iff_ne,
    List.contains_eq_mem, decide_eq_false_iff_not, Option.any_eq_true] at h
  obtain ⟨⟨⟨⟨⟨c, hc, hfirst⟩, d, hd, hlast⟩, hchars⟩, hruns⟩, hnil⟩ := h
  have hne : t ≠ [] := by
    rintro rfl
    cases hc
  have htrim : IsTrimmed t := by
    refine ⟨fun c' hc' => ?_, fun d' hd' => ?_⟩
    · rw [hc] at hc'
      rwa [← Option.some.inj hc']
    · rw [hd] at hd'
      rwa [← Option.some.inj hd']
  have hplain : ∀ c ∈ t, IsPlain c := fun c hc =>
    ⟨(hchars c hc).1.1.2, (hchars c hc).1.2, (hchars c hc).2⟩
  exact isPhrase_of_plain hne htrim (fun c hc => (hchars c hc).1.1.1) hplain hruns hnil

/-- The characters of names. -/
def IsNameChar (c : Char) : Prop := isWord c = true ∨ c = '.' ∨ c = '-'

lemma IsNameChar.isBlank_eq_false {c : Char} (h : IsNameChar c) : isBlank c = false := by
  rcases h with h | rfl | rfl
  · exact Text.isBlank_eq_false_of_isWord h
  · decide
  · decide

lemma IsNameChar.ne {c d : Char} (h : IsNameChar c)
    (hd : (isWord d || d == '.' || d == '-') = false) : c ≠ d := by
  rintro rfl
  rcases h with h | rfl | rfl
  · simp [h] at hd
  · simp at hd
  · simp at hd

lemma IsNameChar.isPlain {c : Char} (h : IsNameChar c) : IsPlain c :=
  ⟨h.ne (by decide), h.ne (by decide), h.ne (by decide)⟩

/-- A text of such characters is a phrase for the words that are none of its runs. -/
lemma isPhrase_of_nameChars (hne : t ≠ []) (ht : ∀ c ∈ t, IsNameChar c)
    (hruns : ∀ run ∈ wordRuns t, run ∉ words) (hnil : [] ∉ words) : IsPhrase words t := by
  have hblank : ∀ c ∈ t, isBlank c = false := fun c hc => (ht c hc).isBlank_eq_false
  exact isPhrase_of_plain hne (isTrimmed_of_forall hblank)
    (fun c hc => isLineBreak_eq_false (hblank c hc)) (fun c hc => (ht c hc).isPlain) hruns hnil

/-! ## Literals and selectors -/

/-- A literal without quotes and line boundaries inside is a phrase, whatever its words. -/
lemma isPhrase_quotedLiteral {v : List Char} (hv : ∀ c ∈ v, c ≠ '"' ∧ isLineBreak c = false) :
    IsPhrase words (quotedLiteral v) where
  nonempty := List.cons_ne_nil _ _
  trimmed := isTrimmed_quotedLiteral v
  unbroken c hc := by
    simp only [quotedLiteral, List.mem_cons, List.mem_append, List.not_mem_nil, or_false] at hc
    rcases hc with rfl | hc | rfl
    · decide
    · exact (hv c hc).2
    · decide
  balanced := .quoted (fun hq => (hv _ hq).1 rfl) .nil
  quiet last rest _ := quiet_quoted (fun hq => (hv _ hq).1 rfl) last rest

/-- What is between the parentheses of a selector does not matter for being a phrase, if it is
balanced. -/
lemma isPhrase_selector (hs : IsPhrase words s) (ht : IsPhrase words t) (hm : Balanced m)
    (hbreak : ∀ c ∈ m, isLineBreak c = false) :
    IsPhrase words (s ++ ('(' :: (m ++ [')'])) ++ t) where
  nonempty := by simp
  trimmed := isTrimmed_append_append hs.trimmed ht.trimmed hs.nonempty ht.nonempty
  unbroken c hc := by
    simp only [List.mem_append, List.mem_cons, List.not_mem_nil, or_false] at hc
    rcases hc with (hc | rfl | hc | rfl) | hc
    · exact hs.unbroken c hc
    · decide
    · exact hbreak c hc
    · decide
    · exact ht.unbroken c hc
  balanced := (hs.balanced.append (.parens hm .nil)).append ht.balanced
  quiet last rest hrest := by
    have hparens : Balanced ('(' :: (m ++ [')'])) := .parens hm .nil
    rw [quiet_append, quiet_append, Nesting.steps_append, hs.balanced.steps_outside,
      hparens.steps_outside]
    refine ⟨⟨hs.quiet _ _ ?_, quiet_parens hm _ _⟩, ht.quiet _ _ hrest⟩
    rw [List.cons_append, endsWord_cons]
    decide

end Cascade
