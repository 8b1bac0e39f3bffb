import Cascade.Proofs.Rule.Pieces
import Cascade.Proofs.Rule.Words

/-!
# The operator of a condition

The operator of a condition is found place by place.  What it is can be said without the search: a
comparison *occurs* at a place if its words stand there with white space between them, and no word
goes on over either end (`IsOccurrence`).  The operator is the occurrence at the first place at top
level that has one, and of the comparisons that occur there it is the first in the order in which
they are tried (`findOperator_eq_some_iff`, `findOperator_eq_none_iff`).

Occurrences consist of plain characters, so they stand at top level as a whole or not at all.  Hence
the same operator is found if occurrences are taken one behind the other, quoted or not, and the
first one at top level is kept (`findOperator_eq_find_occurrences`): one that is passed over hides
no other. It follows too that the text on the left of an operator has none
(`IsLeftmostOperator.findOperator_left`).
-/

namespace Cascade

open Text (isBlank isWord)

variable {n : Nesting} {last : Option Char} {c : Comparison} {i : Nat}
  {text rest before after written word : List Char} {words : List (List Char)} {m : OperatorMatch}

/-! ## Words with white space between them -/

/-- A text in which words stand one after another, with white space between any two of them. -/
inductive WritesWords : List (List Char) → List Char → Prop
  | one (word : List Char) : WritesWords [word] word
  | cons (word : List Char) {gap written : List Char} {words : List (List Char)} :
    gap ≠ [] → (∀ b ∈ gap, isBlank b = true) → WritesWords words written →
      WritesWords (word :: words) (word ++ gap ++ written)

/-- Words that are made of word characters, of one at least. -/
def AreWords (words : List (List Char)) : Prop := ∀ word ∈ words, word ≠ [] ∧ word.all isWord = true

lemma areWords_words (c : Comparison) : AreWords (c.words.map String.toList) := by
  intro word hword
  cases c <;> revert word <;> decide

lemma isPlain_of_isWord {c : Char} (h : isWord c = true) : IsPlain c := by
  refine ⟨?_, ?_, ?_⟩ <;> · rintro rfl; revert h; decide

namespace WritesWords

/-- What is written begins with a word character. -/
lemma exists_head (h : WritesWords words written) (hwords : AreWords words) :
    ∃ c t, written = c :: t ∧ isWord c = true := by
  have hword {word : List Char} (hmem : word ∈ words) : ∃ c t, word = c :: t ∧ isWord c = true := by
    obtain ⟨hne, hall⟩ := hwords word hmem
    obtain ⟨c, t, rfl⟩ := List.exists_cons_of_ne_nil hne
    exact ⟨c, t, rfl, (List.all_eq_true.mp hall) c List.mem_cons_self⟩
  cases h with
  | one word => exact hword List.mem_cons_self
  | cons word _ _ _ =>
    obtain ⟨c, t, rfl, hc⟩ := hword List.mem_cons_self
    exact ⟨c, _, rfl, hc⟩

/-- What is written ends with a word character. -/
lemma exists_last (h : WritesWords words written) (hwords : AreWords words) :
    ∃ c, written.getLast? = some c ∧ isWord c = true := by
  induction h with
  | one word =>
    obtain ⟨hne, hall⟩ := hwords word List.mem_cons_self
    exact ⟨word.getLast hne, List.getLast?_eq_some_getLast hne,
      List.all_eq_true.mp hall _ (List.getLast_mem hne)⟩
  | cons word _ _ _ ih =>
    obtain ⟨c, hlast, hc⟩ := ih fun w hw => hwords w (List.mem_cons_of_mem word hw)
    exact ⟨c, by rw [List.getLast?_append, hlast, Option.some_or], hc⟩

/-- What is written has no quotes and no parentheses. -/
lemma isPlain_of_mem (h : WritesWords words written) (hwords : AreWords words) :
    ∀ c ∈ written, IsPlain c := by
  have hword {word : List Char} (hmem : word ∈ words) : ∀ c ∈ word, IsPlain c := fun c hc =>
    isPlain_of_isWord (List.all_eq_true.mp (hwords word hmem).2 c hc)
  induction h with
  | one word => exact hword List.mem_cons_self
  | cons word _ hgap _ ih =>
    have hrest := ih (fun w hw => hwords w (List.mem_cons_of_mem word hw))
      fun hmem => hword (List.mem_cons_of_mem word hmem)
    exact List.forall_mem_append.mpr ⟨List.forall_mem_append.mpr
      ⟨hword List.mem_cons_self, fun c hc => isPlain_of_isBlank (hgap c hc)⟩, hrest⟩

/-- What is written is found before whatever stands behind it. -/
lemma afterWords?_append (h : WritesWords words written) (hwords : AreWords words)
    (rest : List Char) : afterWords? words (written ++ rest) = some rest := by
  induction h with
  | one word => exact Text.after?_append word rest
  | @cons word gap written words hgap hblank hwritten ih =>
    have hrest : AreWords words := fun w hw => hwords w (List.mem_cons_of_mem word hw)
    obtain ⟨second, words, rfl⟩ : ∃ second more, words = second :: more := by
      cases hwritten <;> exact ⟨_, _, rfl⟩
    obtain ⟨b, gap, rfl⟩ := List.exists_cons_of_ne_nil hgap
    obtain ⟨d, tail, hd, hword⟩ := hwritten.exists_head hrest
    obtain ⟨hb, hmore⟩ := List.forall_mem_cons.mp hblank
    have hafter : Text.after? word (word ++ (b :: gap) ++ written ++ rest) =
        some (b :: (gap ++ (written ++ rest))) := by
      have htext : word ++ (b :: gap) ++ written ++ rest =
          word ++ (b :: (gap ++ (written ++ rest))) := by simp
      rw [htext, Text.after?_append]
    have htrim : Text.trimStart (gap ++ (written ++ rest)) = written ++ rest := by
      rw [Text.trimStart_blanks_append hmore, hd, List.cons_append,
        Text.trimStart_cons_of_not_isBlank (Text.isBlank_eq_false_of_isWord hword)]
    refine afterWords?_cons_cons.mpr ⟨b, _, hafter, hb, ?_⟩
    rw [htrim]
    exact ih hrest

/-- What is found is written with the words. -/
lemma of_afterWords? (hne : words ≠ []) (h : afterWords? words text = some rest) :
    ∃ written, text = written ++ rest ∧ WritesWords words written := by
  induction words generalizing text with
  | nil => exact absurd rfl hne
  | cons word words ih =>
    cases words with
    | nil => exact ⟨word, Text.eq_append_of_after? h, .one word⟩
    | cons second words =>
      obtain ⟨b, behind, hafter, hb, h⟩ := afterWords?_cons_cons.mp h
      obtain ⟨written, hbehind, hwritten⟩ := ih (List.cons_ne_nil _ _) h
      refine ⟨word ++ (b :: behind.takeWhile isBlank) ++ written, ?_,
        .cons word (List.cons_ne_nil _ _) ?_ hwritten⟩
      · rw [Text.eq_append_of_after? hafter, List.append_assoc, List.append_assoc,
          List.cons_append, ← hbehind, Text.trimStart, List.takeWhile_append_dropWhile]
      · exact List.forall_mem_cons.mpr ⟨hb, fun _ hc => List.mem_takeWhile_imp hc⟩

end WritesWords

/-- Words are found at the start of a text exactly when it begins with them. -/
lemma afterWords?_eq_some_iff (hwords : AreWords words) (hne : words ≠ []) :
    afterWords? words text = some rest ↔
      ∃ written, text = written ++ rest ∧ WritesWords words written := by
  refine ⟨WritesWords.of_afterWords? hne, ?_⟩
  rintro ⟨written, rfl, hwritten⟩
  exact hwritten.afterWords?_append hwords rest

/-! ## Occurrences of comparisons -/

/-- Where two texts meet a word begins or ends: one side of the seam is a word character, and the
other is not. -/
def IsWordBoundary (before after : List Char) : Prop :=
  isInsideWord before.getLast? ≠ isInsideWord after.head?

/-- A text is cut at a comparison that stands there as words of its own. -/
structure IsOccurrence (text : List Char) (m : OperatorMatch) : Prop where
  text_eq : text = m.before ++ (m.written ++ m.after)
  spelled : WritesWords (m.comparison.words.map String.toList) m.written
  begins : IsWordBoundary m.before (m.written ++ m.after)
  ends : IsWordBoundary (m.before ++ m.written) m.after

/-- A comparison stands at a place of a text as words of its own. -/
def Comparison.OccursAt (c : Comparison) (text : List Char) (i : Nat) : Prop :=
  ∃ m, IsOccurrence text m ∧ m.comparison = c ∧ m.before.length = i

/-- A comparison is found at the start of a text, and no word goes on behind it. -/
def Comparison.Opens (c : Comparison) (text after : List Char) : Prop :=
  afterWords? (c.words.map String.toList) text = some after ∧ endsWord after = true

lemma words_ne_nil (c : Comparison) : c.words.map String.toList ≠ [] := by
  cases c <;> decide

lemma Comparison.opens_iff : c.Opens text after ↔
    (∃ written, text = written ++ after ∧ WritesWords (c.words.map String.toList) written) ∧
      endsWord after = true :=
  and_congr_left' (afterWords?_eq_some_iff (areWords_words c) (words_ne_nil c))

lemma endsWord_iff : endsWord text = true ↔ isInsideWord text.head? = false := by
  rw [endsWord, Bool.not_eq_true']
  rfl

/-- What is written for a comparison begins and ends with a word character, so it is an occurrence
if there is none on either side of it. -/
lemma isOccurrence_iff : IsOccurrence text m ↔ text = m.before ++ (m.written ++ m.after) ∧
    isInsideWord m.before.getLast? = false ∧ m.comparison.Opens (m.written ++ m.after) m.after := by
  have hwords := areWords_words m.comparison
  have hbegins (h : WritesWords (m.comparison.words.map String.toList) m.written) :
      IsWordBoundary m.before (m.written ++ m.after) ↔ isInsideWord m.before.getLast? = false := by
    obtain ⟨c, t, hc, hword⟩ := h.exists_head hwords
    rw [IsWordBoundary, hc]
    simp [isInsideWord, hword]
  have hends (h : WritesWords (m.comparison.words.map String.toList) m.written) :
      IsWordBoundary (m.before ++ m.written) m.after ↔ endsWord m.after = true := by
    obtain ⟨c, hc, hword⟩ := h.exists_last hwords
    rw [IsWordBoundary, List.getLast?_append, hc, Option.some_or, endsWord_iff]
    simp [isInsideWord, hword]
  rw [Comparison.opens_iff]
  constructor
  · rintro ⟨htext, hspelled, hbefore, hafter⟩
    exact ⟨htext, (hbegins hspelled).mp hbefore, ⟨m.written, rfl, hspelled⟩,
      (hends hspelled).mp hafter⟩
  · rintro ⟨htext, hbefore, ⟨written, heq, hspelled⟩, hafter⟩
    obtain rfl := List.append_cancel_right heq
    exact ⟨htext, hspelled, (hbegins hspelled).mpr hbefore, (hends hspelled).mpr hafter⟩

/-- Of the comparisons for which something holds, this is the first in the order in which they are
tried. -/
def Comparison.IsFirst (c : Comparison) (P : Comparison → Prop) : Prop :=
  ∃ earlier later, Comparison.all = earlier ++ c :: later ∧ ∀ c' ∈ earlier, ¬ P c'

lemma Comparison.mem_all (c : Comparison) : c ∈ Comparison.all := by
  cases c <;> decide

/-- The comparison that is found at the start of a text is the first that is there. -/
lemma comparisonAt?_eq_some_iff : comparisonAt? text = some (c, after) ↔
    c.Opens text after ∧ c.IsFirst fun c' => ∃ a, c'.Opens text a := by
  rw [comparisonAt?_eq_findSome?, List.findSome?_eq_some_iff]
  constructor
  · rintro ⟨earlier, c', later, hall, hc, hearlier⟩
    obtain ⟨rfl, hopens⟩ := tryComparison_eq_some_iff.mp hc
    refine ⟨hopens, earlier, later, hall, fun d hd ⟨a, ha⟩ => ?_⟩
    have hfound := tryComparison_eq_some_iff.mpr ⟨rfl, ha⟩
    rw [hearlier d hd] at hfound
    cases hfound
  · rintro ⟨hopens, earlier, later, hall, hearlier⟩
    refine ⟨earlier, c, later, hall, tryComparison_eq_some_iff.mpr ⟨rfl, hopens⟩, fun d hd => ?_⟩
    exact Option.eq_none_iff_forall_ne_some.mpr fun p hp =>
      hearlier d hd ⟨p.2, (tryComparison_eq_some_iff.mp hp).2⟩

lemma isSome_comparisonAt?_iff :
    (comparisonAt? text).isSome = true ↔ ∃ c : Comparison, ∃ a, c.Opens text a := by
  constructor
  · intro h
    obtain ⟨⟨c, a⟩, hca⟩ := Option.isSome_iff_exists.mp h
    exact ⟨c, a, (comparisonAt?_eq_some_iff.mp hca).1⟩
  · rintro ⟨c, a, h⟩
    refine Option.isSome_iff_ne_none.mpr fun hnone => ?_
    rw [comparisonAt?_eq_findSome?] at hnone
    have hfound := tryComparison_eq_some_iff.mpr ⟨rfl, h⟩
    rw [List.findSome?_eq_none_iff.mp hnone c c.mem_all] at hfound
    cases hfound

lemma lastOf_none (text : List Char) : lastOf none text = text.getLast? := by
  rw [lastOf_eq, Option.or_none]

lemma Comparison.occursAt_iff (hi : i ≤ text.length) : c.OccursAt text i ↔
    isInsideWord (text.take i).getLast? = false ∧ ∃ a, c.Opens (text.drop i) a := by
  constructor
  · rintro ⟨m, hm, rfl, rfl⟩
    obtain ⟨htext, hbefore, hopens⟩ := isOccurrence_iff.mp hm
    rw [htext, List.take_left, List.drop_left]
    exact ⟨hbefore, m.after, hopens⟩
  · rintro ⟨hbefore, a, hopens⟩
    obtain ⟨⟨written, hdrop, -⟩, -⟩ := Comparison.opens_iff.mp hopens
    refine ⟨⟨text.take i, c, written, a⟩, isOccurrence_iff.mpr ⟨?_, hbefore, ?_⟩, rfl, ?_⟩
    · rw [← hdrop, List.take_append_drop]
    · rwa [← hdrop]
    · rw [List.length_take, Nat.min_eq_left hi]

/-- A hit of the search for an operator is a place where a comparison occurs. -/
lemma operatorHit_iff (hi : i ≤ text.length) :
    OperatorHit (lastOf none (text.take i)) (text.drop i) ↔
      ∃ c : Comparison, c.OccursAt text i := by
  rw [OperatorHit, lastOf_none, isSome_comparisonAt?_iff]
  simp only [Comparison.occursAt_iff hi]
  exact exists_and_left.symm

/-! ## The search from place to place -/

/-- A stretch of text is quiet if there is no hit at any of its places at top level. -/
lemma quiet_iff {hit : Hit} : Quiet hit n last text rest ↔ ∀ i < text.length,
    (maskFrom n text)[i]? = some true →
      ¬ hit (lastOf last (text.take i)) (text.drop i ++ rest) := by
  induction text generalizing n last with
  | nil => exact iff_of_true trivial fun i hi => absurd hi (Nat.not_lt_zero i)
  | cons c text ih =>
    rw [Quiet, ih]
    constructor
    · rintro ⟨hfirst, hmore⟩ i hi hmask
      cases i with
      | zero => exact hfirst (Option.some.inj hmask)
      | succ i => exact hmore i (Nat.lt_of_succ_lt_succ hi) hmask
    · intro h
      exact ⟨fun htop => h 0 (Nat.succ_pos _) (congrArg some htop),
        fun i hi => h (i + 1) (Nat.succ_lt_succ hi)⟩

/-- A hit at top level ends the search. -/
lemma findOperatorFrom_of_hit {d : Char} {text : List Char} (htop : n.isTopLevel d = true)
    (hlast : isInsideWord last = false) (hfound : comparisonAt? (d :: text) = some (c, after))
    (hwritten : d :: text = written ++ after) :
    findOperatorFrom n last (d :: text) = some ⟨[], c, written, after⟩ := by
  have hhere : (n.isTopLevel d && !(last.map isWord).getD false) = true := by
    rw [isInsideWord] at hlast
    rw [htop, hlast]
    rfl
  have htake : (d :: text).take ((d :: text).length - after.length) = written := by
    rw [hwritten, List.length_append, Nat.add_sub_cancel, List.take_left]
  rw [findOperatorFrom, if_pos hhere, hfound]
  simp only [htake]

/-- Where there is no hit the search goes on. -/
lemma findOperatorFrom_of_not_hit {d : Char} {text : List Char}
    (h : n.isTopLevel d = true → ¬ OperatorHit last (d :: text)) :
    findOperatorFrom n last (d :: text) =
      (findOperatorFrom (n.step d) (some d) text).map fun m => { m with before := d :: m.before } :=
  findOperatorFrom_append (t := [d]) ⟨h, trivial⟩

/-- What is found at the start of a text is written there. -/
lemma exists_written (h : comparisonAt? text = some (c, after)) :
    ∃ written, text = written ++ after ∧ WritesWords (c.words.map String.toList) written :=
  (Comparison.opens_iff.mp (comparisonAt?_eq_some_iff.mp h).1).1

/-- All of what is found at the start of a text is plain. -/
lemma exists_plain_tail {d : Char} (h : comparisonAt? (d :: text) = some (c, after)) :
    IsPlain d ∧ ∃ tail, text = tail ++ after ∧ ∀ e ∈ tail, IsPlain e := by
  obtain ⟨written, hwritten, hspelled⟩ := exists_written h
  have hplain := hspelled.isPlain_of_mem (areWords_words c)
  obtain ⟨d', tail, rfl, -⟩ := hspelled.exists_head (areWords_words c)
  obtain ⟨rfl, htext⟩ := List.cons.inj hwritten
  obtain ⟨hd, htail⟩ := List.forall_mem_cons.mp hplain
  exact ⟨hd, tail, htext, htail⟩

lemma findOperatorFrom_eq_none_iff :
    findOperatorFrom n last text = none ↔ Quiet OperatorHit n last text [] := by
  induction text generalizing n last with
  | nil => exact iff_of_true rfl trivial
  | cons d text ih =>
    rw [Quiet, List.append_nil]
    by_cases hhit : n.isTopLevel d = true ∧ OperatorHit last (d :: text)
    · obtain ⟨htop, hlast, hsome⟩ := hhit
      obtain ⟨⟨c, after⟩, hfound⟩ := Option.isSome_iff_exists.mp hsome
      obtain ⟨written, hwritten, -⟩ := exists_written hfound
      rw [findOperatorFrom_of_hit htop hlast hfound hwritten]
      exact iff_of_false (Option.some_ne_none _) fun h => h.1 htop ⟨hlast, hsome⟩
    · have hno := not_and.mp hhit
      rw [findOperatorFrom_of_not_hit hno, Option.map_eq_none_iff, ih]
      exact (and_iff_right hno).symm

/-- An operator is found behind a stretch without hits. -/
lemma findOperatorFrom_eq_some_iff : findOperatorFrom n last text = some m ↔
    text = m.before ++ (m.written ++ m.after) ∧
      Quiet OperatorHit n last m.before (m.written ++ m.after) ∧
      (∃ d rest, m.written ++ m.after = d :: rest ∧ (n.steps m.before).isTopLevel d = true) ∧
      isInsideWord (lastOf last m.before) = false ∧
      comparisonAt? (m.written ++ m.after) = some (m.comparison, m.after) := by
  constructor
  · intro h
    induction text generalizing n last m with
    | nil => cases h
    | cons d text ih =>
      by_cases hhit : n.isTopLevel d = true ∧ OperatorHit last (d :: text)
      · obtain ⟨htop, hlast, hsome⟩ := hhit
        obtain ⟨⟨c, after⟩, hfound⟩ := Option.isSome_iff_exists.mp hsome
        obtain ⟨written, hwritten, -⟩ := exists_written hfound
        rw [findOperatorFrom_of_hit htop hlast hfound hwritten] at h
        obtain rfl := Option.some.inj h
        exact ⟨hwritten, trivial, ⟨d, text, hwritten.symm, htop⟩, hlast, hwritten ▸ hfound⟩
      · have hno := not_and.mp hhit
        rw [findOperatorFrom_of_not_hit hno] at h
        obtain ⟨m', hm', rfl⟩ := Option.map_eq_some_iff.mp h
        obtain ⟨htext, hquiet, hthere⟩ := ih hm'
        exact ⟨congrArg (d :: ·) htext, ⟨htext ▸ hno, hquiet⟩, hthere⟩
  · rintro ⟨rfl, hquiet, ⟨d, rest, hrest, htop⟩, hlast, hfound⟩
    rw [findOperatorFrom_append hquiet]
    have hwritten : d :: rest = m.written ++ m.after := hrest.symm
    have hhere := findOperatorFrom_of_hit htop hlast (hrest ▸ hfound) hwritten
    rw [hrest, hhere]
    simp

/-- The operator of a text, said without the search. -/
structure IsLeftmostOperator (text : List Char) (m : OperatorMatch) : Prop where
  occurs : IsOccurrence text m
  topLevel : IsTopLevelAt text m.before.length
  /-- No comparison occurs at a place at top level before this one. -/
  least : ∀ i < m.before.length, IsTopLevelAt text i → ∀ c : Comparison, ¬ c.OccursAt text i
  /-- None that is tried earlier occurs at this place. -/
  first : m.comparison.IsFirst fun c => c.OccursAt text m.before.length

lemma isTopLevelAt_length_append : IsTopLevelAt (before ++ rest) before.length ↔
    ∃ d tail, rest = d :: tail ∧ (Nesting.outside.steps before).isTopLevel d = true := by
  rw [isTopLevelAt_iff, List.take_left, List.getElem?_append_right (Nat.le_refl _), Nat.sub_self]
  simp only [Nesting.isTopLevel_iff]
  cases rest with
  | nil => simp
  | cons d tail => simp

/-- A stretch is quiet for the search if no comparison occurs in it at top level. -/
lemma quiet_operatorHit_iff : Quiet OperatorHit .outside none before rest ↔
    ∀ i < before.length, IsTopLevelAt (before ++ rest) i →
      ∀ c : Comparison, ¬ c.OccursAt (before ++ rest) i := by
  rw [quiet_iff]
  refine forall_congr' fun i => forall_congr' fun hi => ?_
  have hmask : IsTopLevelAt (before ++ rest) i ↔ (maskFrom .outside before)[i]? = some true := by
    rw [IsTopLevelAt, topLevelMask, maskFrom_append, List.getElem?_append_left]
    rwa [length_maskFrom]
  have hlen : i ≤ (before ++ rest).length := by
    rw [List.length_append]
    omega
  have hhit := operatorHit_iff hlen
  rw [List.take_append_of_le_length (Nat.le_of_lt hi),
    List.drop_append_of_le_length (Nat.le_of_lt hi)] at hhit
  rw [hmask, hhit, not_exists]

lemma Comparison.occursAt_length_append (h : isInsideWord before.getLast? = false) :
    c.OccursAt (before ++ rest) before.length ↔ ∃ a, c.Opens rest a := by
  rw [occursAt_iff (by simp), List.take_left, List.drop_left]
  exact and_iff_right h

/-- The operator of a text is at the first place at top level where comparisons occur, and of those
that occur there it is the first in order. -/
lemma findOperator_eq_some_iff : findOperator text = some m ↔ IsLeftmostOperator text m := by
  rw [findOperator, findOperatorFrom_eq_some_iff, lastOf_none, comparisonAt?_eq_some_iff]
  constructor
  · rintro ⟨htext, hquiet, htop, hlast, hopens, earlier, later, hall, hearlier⟩
    have hoccurs := isOccurrence_iff.mpr ⟨htext, hlast, hopens⟩
    subst htext
    exact ⟨hoccurs, isTopLevelAt_length_append.mpr htop, quiet_operatorHit_iff.mp hquiet,
      earlier, later, hall, fun c hc h =>
        hearlier c hc ((Comparison.occursAt_length_append hlast).mp h)⟩
  · rintro ⟨hoccurs, htop, hleast, earlier, later, hall, hearlier⟩
    obtain ⟨htext, hlast, hopens⟩ := isOccurrence_iff.mp hoccurs
    subst htext
    exact ⟨rfl, quiet_operatorHit_iff.mpr hleast, isTopLevelAt_length_append.mp htop, hlast, hopens,
      earlier, later, hall, fun c hc h =>
        hearlier c hc ((Comparison.occursAt_length_append hlast).mpr h)⟩

lemma findOperator_eq_none_iff : findOperator text = none ↔
    ∀ i, IsTopLevelAt text i → ∀ c : Comparison, ¬ c.OccursAt text i := by
  rw [findOperator, findOperatorFrom_eq_none_iff, quiet_iff]
  constructor
  · intro h i htop c hc
    have hi := htop.lt_length
    refine h i hi htop ?_
    rw [List.append_nil, operatorHit_iff (Nat.le_of_lt hi)]
    exact ⟨c, hc⟩
  · intro h i hi htop hhit
    rw [List.append_nil, operatorHit_iff (Nat.le_of_lt hi)] at hhit
    obtain ⟨c, hc⟩ := hhit
    exact h i htop c hc

/-! ## Occurrences stand at top level as a whole -/

/-- Every character of an occurrence stands at top level if the first one does. -/
lemma IsOccurrence.isTopLevelAt (h : IsOccurrence text m) (htop : IsTopLevelAt text m.before.length)
    {k : Nat} (hle : m.before.length ≤ k) (hlt : k < (m.before ++ m.written).length) :
    IsTopLevelAt text k := by
  have hplain := h.spelled.isPlain_of_mem (areWords_words m.comparison)
  have hout := steps_take_of_isTopLevelAt htop
  obtain ⟨j, rfl⟩ := Nat.exists_eq_add_of_le hle
  have hj : j < m.written.length := by
    rw [List.length_append] at hlt
    omega
  rw [h.text_eq, List.take_left] at hout
  rw [h.text_eq, isTopLevelAt_iff]
  refine ⟨?_, m.written[j], ?_, hplain _ (List.getElem_mem hj)⟩
  · rw [List.take_append, List.take_of_length_le (Nat.le_add_right _ _), Nat.add_sub_cancel_left,
      List.take_append_of_le_length (Nat.le_of_lt hj), Nesting.steps_append, hout]
    exact Nesting.steps_of_isPlain fun c hc => hplain c (List.mem_of_mem_take hc)
  · rw [List.getElem?_append_right (Nat.le_add_right _ _), Nat.add_sub_cancel_left,
      List.getElem?_append_left hj, List.getElem?_eq_getElem hj]

/-- A comparison that occurs in a part of the text on the left of an operator, with nothing but
blanks on either side of the part, occurs in the whole text. -/
lemma IsOccurrence.occursAt_of_left {lead left trail : List Char} {m' : OperatorMatch}
    (hm : IsOccurrence text m) (hbefore : m.before = lead ++ left ++ trail)
    (hlead : ∀ b ∈ lead, isBlank b = true) (htrail : ∀ b ∈ trail, isBlank b = true)
    (hm' : IsOccurrence left m') :
    m'.comparison.OccursAt text (lead.length + m'.before.length) := by
  obtain ⟨htext, hlast, -⟩ := isOccurrence_iff.mp hm
  obtain ⟨hleft, hlast', hopens⟩ := isOccurrence_iff.mp hm'
  obtain ⟨-, hends⟩ := Comparison.opens_iff.mp hopens
  refine ⟨⟨lead ++ m'.before, m'.comparison, m'.written,
      m'.after ++ trail ++ (m.written ++ m.after)⟩,
    isOccurrence_iff.mpr ⟨?_, ?_, Comparison.opens_iff.mpr ⟨⟨m'.written, rfl, hm'.spelled⟩, ?_⟩⟩,
    rfl, List.length_append⟩
  · rw [htext, hbefore, hleft]
    simp
  · -- the part begins behind blanks
    rw [List.getLast?_append]
    cases hb : m'.before.getLast? with
    | some d => rwa [Option.some_or, ← hb]
    | none =>
      cases hl : lead.getLast? with
      | none => rfl
      | some b => exact Text.isWord_eq_false_of_isBlank (hlead b (List.mem_of_getLast? hl))
  · -- the part ends before a blank, or before the operator, where no word can go on
    cases hafter : m'.after with
    | cons d rest =>
      rw [hafter] at hends
      exact hends
    | nil =>
      cases trail with
      | cons b trail => exact endsWord_of_isBlank (htrail b List.mem_cons_self)
      | nil =>
        obtain ⟨d, hd, hword⟩ := hm'.spelled.exists_last (areWords_words _)
        rw [hbefore, hleft, hafter, List.append_nil, List.append_nil, List.getLast?_append,
          List.getLast?_append, hd, isInsideWord] at hlast
        simp [hword] at hlast

/-- On the left of an operator no comparison occurs at top level, trimmed or not. -/
lemma IsLeftmostOperator.findOperator_left {lead left trail : List Char}
    (h : IsLeftmostOperator text m) (hbefore : m.before = lead ++ left ++ trail)
    (hlead : ∀ b ∈ lead, isBlank b = true) (htrail : ∀ b ∈ trail, isBlank b = true) :
    findOperator left = none := by
  rw [findOperator_eq_none_iff]
  rintro i htop c ⟨m', hm', rfl, rfl⟩
  have halike : StandsAlike left text lead.length := by
    rw [h.occurs.text_eq, hbefore, List.append_assoc (lead ++ left)]
    exact standsAlike_append
      (Nesting.steps_of_isPlain fun b hb => isPlain_of_isBlank (hlead b hb)) left _
  have hplace : lead.length + m'.before.length < m.before.length := by
    have hlt := htop.lt_length
    rw [hbefore, List.length_append, List.length_append]
    omega
  exact h.least _ hplace (halike.isTopLevelAt htop) m'.comparison
    (h.occurs.occursAt_of_left hbefore hlead htrail hm')

/-! ## Occurrences one behind the other -/

/-- The comparisons that are found in a text, at top level or not, each one behind the one before;
`skip` characters are the rest of one that has been found. -/
def occurrencesFrom (last : Option Char) (skip : Nat) : List Char → List OperatorMatch
  | [] => []
  | d :: rest =>
    let later (skip : Nat) := (occurrencesFrom (some d) skip rest).map fun m =>
      { m with before := d :: m.before }
    match skip with
    | skip + 1 => later skip
    | 0 =>
      if isInsideWord last then later 0
      else
        match comparisonAt? (d :: rest) with
        | some (c, after) =>
          let length := (d :: rest).length - after.length
          ⟨[], c, (d :: rest).take length, after⟩ :: later (length - 1)
        | none => later 0

/-- The comparisons in a text, at top level or not. -/
def occurrences (text : List Char) : List OperatorMatch := occurrencesFrom none 0 text

/-- A character is put in front of a text and of all that is found in it. -/
lemma find_map_before {d : Char} (n : Nesting) (text : List Char) (found : List OperatorMatch) :
    (found.map fun m => { m with before := d :: m.before }).find?
        (fun m => (maskFrom n (d :: text))[m.before.length]? == some true) =
      (found.find? fun m => (maskFrom (n.step d) text)[m.before.length]? == some true).map
        fun m => { m with before := d :: m.before } := by
  rw [List.find?_map]
  rfl

/-- Of the comparisons that are found one behind the other, the first at top level is the operator.
What is left of one inside quotes or parentheses is plain and stays there. -/
lemma find_occurrencesFrom {skip : Nat}
    (h : skip = 0 ∨ n ≠ .outside ∧ ∀ c ∈ text.take skip, IsPlain c) :
    (occurrencesFrom last skip text).find?
        (fun m => (maskFrom n text)[m.before.length]? == some true) =
          findOperatorFrom n last text := by
  induction text generalizing n last skip with
  | nil => rfl
  | cons d text ih =>
    have hlater {skip : Nat} (hno : n.isTopLevel d = true → ¬ OperatorHit last (d :: text))
        (hskip : skip = 0 ∨ n.step d ≠ .outside ∧ ∀ c ∈ text.take skip, IsPlain c) :
        ((occurrencesFrom (some d) skip text).map fun m => { m with before := d :: m.before }).find?
            (fun m => (maskFrom n (d :: text))[m.before.length]? == some true) =
          findOperatorFrom n last (d :: text) := by
      rw [find_map_before, ih hskip, findOperatorFrom_of_not_hit hno]
    cases skip with
    | succ skip =>
      obtain ⟨hn, hplain⟩ := h.resolve_left (Nat.succ_ne_zero skip)
      obtain ⟨hd, hrest⟩ := List.forall_mem_cons.mp hplain
      refine hlater (fun htop => absurd (Nesting.isTopLevel_iff.mp htop).1 hn) (.inr ⟨?_, hrest⟩)
      rwa [Nesting.step_of_isPlain hd]
    | zero =>
      rw [occurrencesFrom]
      split
      · next hinside =>
        exact hlater (fun _ hhit => Bool.false_ne_true (hhit.1.symm.trans hinside)) (.inl rfl)
      · next houtside =>
        have hlast : isInsideWord last = false := Bool.eq_false_iff.mpr houtside
        split
        · next c after hfound =>
          obtain ⟨hd, tail, rfl, htail⟩ := exists_plain_tail hfound
          have hlength : (d :: (tail ++ after)).length - after.length = tail.length + 1 := by
            rw [← List.cons_append, List.length_append, Nat.add_sub_cancel, List.length_cons]
          simp only [hlength, Nat.add_sub_cancel, List.take_succ_cons, List.take_left]
          by_cases htop : n.isTopLevel d = true
          · have hwritten : d :: (tail ++ after) = d :: tail ++ after := (List.cons_append ..).symm
            rw [findOperatorFrom_of_hit htop hlast hfound hwritten, List.find?_cons_of_pos]
            simp [maskFrom, htop]
          · have hn : n ≠ .outside := fun hn => htop (Nesting.isTopLevel_iff.mpr ⟨hn, hd⟩)
            rw [List.find?_cons_of_neg]
            · refine hlater (fun h => absurd h htop) (.inr ⟨?_, ?_⟩)
              · rwa [Nesting.step_of_isPlain hd]
              · rwa [List.take_left]
            · simp [maskFrom, htop]
        · next hnone =>
          refine hlater (fun _ hhit => ?_) (.inl rfl)
          have hsome := hhit.2
          rw [hnone] at hsome
          cases hsome

/-- The operator is also the first at top level of the comparisons that are found one behind the
other. -/
lemma findOperator_eq_find_occurrences (text : List Char) : findOperator text =
    (occurrences text).find? fun m => (topLevelMask text)[m.before.length]? == some true :=
  (find_occurrencesFrom (.inl rfl)).symm

/-- **The operator of a condition.**  It is the leftmost one at top level, with the longest
spelling; there is none exactly if no comparison occurs at top level.  It is found as well by taking
comparisons one behind the other and keeping the first at top level.  All of it stands at top level,
and on the left of it, trimmed or not, there is no operator. -/
theorem operator_is_leftmost_at_top_level (text : List Char) :
    (∀ m, findOperator text = some m ↔ IsLeftmostOperator text m) ∧
    (findOperator text = none ↔
      ∀ i, IsTopLevelAt text i → ∀ c : Comparison, ¬ c.OccursAt text i) ∧
    (findOperator text =
      (occurrences text).find? fun m => (topLevelMask text)[m.before.length]? == some true) ∧
    ∀ m, findOperator text = some m →
      (∀ k, m.before.length ≤ k → k < (m.before ++ m.written).length → IsTopLevelAt text k) ∧
        findOperator m.before = none ∧ findOperator (Text.trim m.before) = none := by
  refine ⟨fun m => findOperator_eq_some_iff, findOperator_eq_none_iff,
    findOperator_eq_find_occurrences text, fun m hm => ?_⟩
  have hoperator := findOperator_eq_some_iff.mp hm
  obtain ⟨after, hafter, htrim⟩ := Text.exists_eq_append_trim m.before
  refine ⟨fun k => hoperator.occurs.isTopLevelAt hoperator.topLevel, ?_, ?_⟩
  · have hbefore : m.before = [] ++ m.before ++ [] := by simp
    exact hoperator.findOperator_left hbefore (List.forall_mem_nil _) (List.forall_mem_nil _)
  · exact hoperator.findOperator_left htrim (fun _ hb => List.mem_takeWhile_imp hb) hafter

/-- Where no word ends behind the longer spelling, the shorter one is the operator. -/
example : findOperator "(a is b) island is nothing".toList =
    some ⟨"(a is b) island ".toList, .equal, "is".toList, " nothing".toList⟩ := by decide

end Cascade
