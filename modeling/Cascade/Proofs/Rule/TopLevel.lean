import Mathlib.Data.List.Infix
import Mathlib.Data.Nat.Find
import Cascade.Proofs.Rule.Scan

/-!
# A text and its parts are scanned alike

A text is scanned as a whole when it is cut, and its parts are scanned again by themselves when they
are read.  Both scans see the same in a part if the first one is outside of quotes and parentheses
where the part begins (`standsAlike_append`).  So it is behind a character at top level
(`steps_take_of_isTopLevelAt`) and, from there on, behind any plain characters
(`Nesting.steps_of_isPlain`).

The same goes for the search for a closing parenthesis, which is a scan of its own that begins in
the middle of a text and could count below zero.  As long as parentheses are open, both scans are in
the same state, and the search ends where the scan for the mask comes back to top level
(`closingFrom_cons`).  So what is found is the least place with that property, and the text may be cut
behind it (`closing_parens_agree_with_mask`).
-/

namespace Cascade

/-- The character at a place of a text stands at top level. -/
def IsTopLevelAt (text : List Char) (i : Nat) : Prop := (topLevelMask text)[i]? = some true

/-- Where the scan of a text stands behind the character at a place. -/
def scanBehind (text : List Char) (i : Nat) : Nesting := Nesting.outside.steps (text.take (i + 1))

variable {n : Nesting} {c : Char} {s t text part : List Char} {i j : Nat}

/-! ## Masks, place by place -/

lemma Nesting.isTopLevel_iff : n.isTopLevel c = true ↔ n = .outside ∧ IsPlain c := by
  simp [isTopLevel, IsPlain, and_assoc]

lemma getElem?_maskFrom (n : Nesting) (text : List Char) (i : Nat) :
    (maskFrom n text)[i]? = text[i]?.map (n.steps (text.take i)).isTopLevel := by
  induction text generalizing n i with
  | nil => rfl
  | cons c text ih =>
    cases i with
    | zero => rfl
    | succ i => exact ih (n.step c) i

/-- What stands at top level is a plain character, met outside of quotes and parentheses. -/
lemma isTopLevelAt_iff : IsTopLevelAt text i ↔
    Nesting.outside.steps (text.take i) = .outside ∧ ∃ c, text[i]? = some c ∧ IsPlain c := by
  rw [IsTopLevelAt, topLevelMask, getElem?_maskFrom, Option.map_eq_some_iff]
  simp only [Nesting.isTopLevel_iff]
  exact ⟨fun ⟨c, hc, hout, hplain⟩ => ⟨hout, c, hc, hplain⟩,
    fun ⟨hout, c, hc, hplain⟩ => ⟨c, hc, hout, hplain⟩⟩

lemma steps_take_of_isTopLevelAt (h : IsTopLevelAt text i) :
    Nesting.outside.steps (text.take i) = .outside := (isTopLevelAt_iff.mp h).1

lemma IsTopLevelAt.lt_length (h : IsTopLevelAt text i) : i < text.length := by
  obtain ⟨-, c, hc, -⟩ := isTopLevelAt_iff.mp h
  exact (List.getElem?_eq_some_iff.mp hc).1

/-- A place where the scan is not outside is masked out, and so is any that holds a quote or a
parenthesis. -/
lemma getElem?_topLevelMask_eq_false (hi : i < text.length) (h : ¬ IsTopLevelAt text i) :
    (topLevelMask text)[i]? = some false := by
  have hlen : i < (topLevelMask text).length := by rwa [topLevelMask, length_maskFrom]
  rw [IsTopLevelAt, List.getElem?_eq_getElem hlen, Option.some.injEq, Bool.not_eq_true] at h
  rw [List.getElem?_eq_getElem hlen, h]

/-! ## Masks of parts -/

/-- Where the scan is outside, the mask of a text may be cut. -/
lemma topLevelMask_append (h : Nesting.outside.steps s = .outside) :
    topLevelMask (s ++ t) = topLevelMask s ++ topLevelMask t := by
  rw [topLevelMask, maskFrom_append, h]
  rfl

/-- What follows a text does not matter for its mask. -/
lemma topLevelMask_prefix_append (s t : List Char) : topLevelMask s <+: topLevelMask (s ++ t) := by
  rw [topLevelMask, topLevelMask, maskFrom_append]
  exact List.prefix_append _ _

lemma topLevelMask_take_append_drop (h : Nesting.outside.steps (text.take i) = .outside) :
    topLevelMask text = topLevelMask (text.take i) ++ topLevelMask (text.drop i) := by
  rw [← topLevelMask_append h, List.take_append_drop]

/-- A part stands at a place of a text, and a scan of the part alone sees as quoted or in
parentheses what a scan of the text sees so there. -/
structure StandsAlike (part text : List Char) (i : Nat) : Prop where
  stands : part <+: text.drop i
  mask : topLevelMask part <+: (topLevelMask text).drop i

lemma standsAlike_append (h : Nesting.outside.steps s = .outside) (part t : List Char) :
    StandsAlike part (s ++ part ++ t) s.length where
  stands := by
    rw [List.append_assoc, List.drop_left]
    exact List.prefix_append part t
  mask := by
    have hlen : (topLevelMask s).length = s.length := length_maskFrom _ s
    rw [List.append_assoc, topLevelMask_append h, List.drop_left' hlen]
    exact topLevelMask_prefix_append part t

/-- What stands in a part that stands in a text stands in the text. -/
lemma StandsAlike.trans {inner : List Char} (hinner : StandsAlike inner part j)
    (hpart : StandsAlike part text i) : StandsAlike inner text (i + j) where
  stands := by
    rw [← List.drop_drop]
    exact hinner.stands.trans (hpart.stands.drop j)
  mask := by
    rw [← List.drop_drop]
    exact hinner.mask.trans (hpart.mask.drop j)

lemma StandsAlike.isTopLevelAt (h : StandsAlike part text i) (htop : IsTopLevelAt part j) :
    IsTopLevelAt text (i + j) := by
  obtain ⟨behind, hmask⟩ := h.mask
  have hj : j < (topLevelMask part).length := by
    rw [topLevelMask, length_maskFrom]
    exact htop.lt_length
  rw [IsTopLevelAt, ← List.getElem?_drop, ← hmask, List.getElem?_append_left hj]
  exact htop

/-! ## Closing parentheses -/

/-- With parentheses open, only the one that closes the last of them leads back to top level. -/
lemma Nesting.depth_step_pos (hn : 0 < n.depth) (h : ¬ (n = ⟨false, 1⟩ ∧ c = ')')) :
    0 < (n.step c).depth := by
  unfold step
  split
  · exact hn
  split
  · exact hn
  split
  · exact Nat.succ_pos _
  split
  · next hquoted _ hclose =>
    have hdepth : n.depth ≠ 1 := by
      refine fun hdepth => h ⟨?_, hclose⟩
      rw [← hdepth, ← Bool.eq_false_iff.mpr hquoted]
    show 0 < n.depth - 1
    omega
  · exact hn

lemma Nesting.step_eq_outside_iff (hn : 0 < n.depth) :
    n.step c = .outside ↔ n = ⟨false, 1⟩ ∧ c = ')' := by
  refine ⟨fun hout => ?_, fun ⟨hn, hc⟩ => by rw [hn, hc]; rfl⟩
  by_contra h
  have hdepth := depth_step_pos hn h
  rw [hout] at hdepth
  exact absurd hdepth (Nat.lt_irrefl 0)

/-- One step of the search for a closing parenthesis: it stops where the scan for the mask comes
back to top level, and otherwise both go on in the same state. -/
lemma closingFrom_cons (hn : 0 < n.depth) (index : Nat) (c : Char) (rest : List Char) :
    closingFrom n.quoted n.depth index (c :: rest) =
      if n.step c = .outside then some index
      else closingFrom (n.step c).quoted (n.step c).depth (index + 1) rest := by
  rw [if_congr (Nesting.step_eq_outside_iff hn) rfl rfl]
  obtain ⟨quoted, depth⟩ := n
  rw [closingFrom, Nesting.step]
  by_cases hquote : c = '"'
  · simp [hquote]
  cases quoted with
  | true => simp [hquote]
  | false =>
    by_cases hopen : c = '('
    · simp [hopen]
    by_cases hclose : c = ')'
    · by_cases hone : depth = 1
      · simp [hclose, hone]
      · have hpred : ((depth - 1 : Nat) : Int) = (depth : Int) - 1 := by
          simp only at hn
          omega
        have hcast : (depth : Int) ≠ 1 := by omega
        simp [hclose, hone, hpred, hcast]
    · simp [hquote, hopen, hclose]

/-- While the scan does not come back to top level, parentheses are open. -/
lemma depth_steps_pos (hn : 0 < n.depth)
    (h : ∀ k < text.length, n.steps (text.take (k + 1)) ≠ .outside) : 0 < (n.steps text).depth := by
  induction text generalizing n with
  | nil => exact hn
  | cons c text ih =>
    have hfirst : n.step c ≠ .outside := h 0 (Nat.succ_pos _)
    have hdepth : 0 < (n.step c).depth :=
      Nesting.depth_step_pos hn fun hc => hfirst ((Nesting.step_eq_outside_iff hn).mpr hc)
    exact ih hdepth fun k hk => h (k + 1) (Nat.succ_lt_succ hk)

/-- The search finds the first place behind which the scan for the mask is at top level. -/
lemma closingFrom_eq_some_iff (text : List Char) (hn : 0 < n.depth) (index stop : Nat) :
    closingFrom n.quoted n.depth index text = some stop ↔
      ∃ k < text.length, stop = index + k ∧ n.steps (text.take (k + 1)) = .outside ∧
        ∀ j < k, n.steps (text.take (j + 1)) ≠ .outside := by
  induction text generalizing n index with
  | nil => simp [closingFrom]
  | cons c text ih =>
    rw [closingFrom_cons hn]
    split
    · next hout =>
      rw [Option.some.injEq]
      constructor
      · rintro rfl
        exact ⟨0, Nat.succ_pos _, rfl, hout, fun j hj => absurd hj (Nat.not_lt_zero j)⟩
      · rintro ⟨k, -, rfl, -, hleast⟩
        cases k with
        | zero => rfl
        | succ k => exact absurd hout (hleast 0 (Nat.succ_pos k))
    · next hout =>
      have hdepth : 0 < (n.step c).depth :=
        Nesting.depth_step_pos hn fun hc => hout ((Nesting.step_eq_outside_iff hn).mpr hc)
      rw [ih hdepth (index + 1)]
      constructor
      · rintro ⟨k, hk, rfl, hback, hleast⟩
        refine ⟨k + 1, Nat.succ_lt_succ hk, by omega, hback, fun j hj => ?_⟩
        cases j with
        | zero => exact hout
        | succ j => exact hleast j (Nat.lt_of_succ_lt_succ hj)
      · rintro ⟨k, hk, rfl, hback, hleast⟩
        cases k with
        | zero => exact absurd hback hout
        | succ k =>
          exact ⟨k, Nat.lt_of_succ_lt_succ hk, by omega, hback,
            fun j hj => hleast (j + 1) (Nat.succ_lt_succ hj)⟩

lemma closingFrom_eq_none_iff (text : List Char) (hn : 0 < n.depth) (index : Nat) :
    closingFrom n.quoted n.depth index text = none ↔
      ∀ k < text.length, n.steps (text.take (k + 1)) ≠ .outside := by
  constructor
  · intro hnone k hk hback
    have hsome : ∃ k, k < text.length ∧ n.steps (text.take (k + 1)) = .outside := ⟨k, hk, hback⟩
    obtain ⟨hlt, hfirst⟩ := Nat.find_spec hsome
    have hfound := (closingFrom_eq_some_iff text hn index _).mpr
      ⟨_, hlt, rfl, hfirst, fun j hj hback' => Nat.find_min hsome hj ⟨hj.trans hlt, hback'⟩⟩
    rw [hnone] at hfound
    cases hfound
  · intro hnever
    refine Option.eq_none_iff_forall_ne_some.mpr fun stop hstop => ?_
    obtain ⟨k, hk, -, hback, -⟩ := (closingFrom_eq_some_iff text hn index stop).mp hstop
    exact hnever k hk hback

/-- The parenthesis at one place is closed at another: from the one to the other nothing stands at
top level, behind the other the scan is there again, for the first time, and the text may be cut
there. -/
structure ClosesAt (text : List Char) (o j : Nat) : Prop where
  behind : o < j
  isParen : text[j]? = some ')'
  unquoted : (Nesting.outside.steps (text.take j)).quoted = false
  masked : ∀ k, o ≤ k → k ≤ j → (topLevelMask text)[k]? = some false
  back : scanBehind text j = .outside
  least : ∀ k, o ≤ k → k < j → scanBehind text k ≠ .outside
  mask : topLevelMask text = topLevelMask (text.take (j + 1)) ++ topLevelMask (text.drop (j + 1))

section Parentheses

variable {o : Nat} (hopen : text[o]? = some '(')
    (hout : Nesting.outside.steps (text.take o) = .outside)

include hopen hout

/-- Behind an opening parenthesis at top level the scan goes on with one parenthesis open. -/
lemma scanBehind_open : scanBehind text o = ⟨false, 1⟩ := by
  rw [scanBehind, List.take_add_one, hopen, Nesting.steps_append, hout]
  rfl

lemma scanBehind_inside (k : Nat) :
    scanBehind text (o + 1 + k) = Nesting.steps ⟨false, 1⟩ ((text.drop (o + 1)).take (k + 1)) := by
  rw [scanBehind, Nat.add_assoc, List.take_add, Nesting.steps_append]
  exact congrArg (Nesting.steps · _) (scanBehind_open hopen hout)

omit hout in
lemma closingParen?_eq_closingFrom :
    closingParen? text o = closingFrom false 1 (o + 1) (text.drop (o + 1)) := by
  obtain ⟨ho, hchar⟩ := List.getElem?_eq_some_iff.mp hopen
  rw [closingParen?, List.drop_eq_getElem_cons ho, hchar]
  rfl

lemma closingParen?_eq_some_iff : closingParen? text o = some j ↔
    o < j ∧ j < text.length ∧ scanBehind text j = .outside ∧
      ∀ k, o < k → k < j → scanBehind text k ≠ .outside := by
  have hinside := scanBehind_inside hopen hout
  have hsearch :=
    closingFrom_eq_some_iff (n := ⟨false, 1⟩) (text.drop (o + 1)) Nat.one_pos (o + 1) j
  simp only [← hinside] at hsearch
  rw [closingParen?_eq_closingFrom hopen]
  refine hsearch.trans ⟨?_, ?_⟩
  · rintro ⟨k, hk, rfl, hback, hleast⟩
    rw [List.length_drop] at hk
    refine ⟨by omega, by omega, hback, fun i hi hik => ?_⟩
    obtain ⟨m, rfl⟩ := Nat.exists_eq_add_of_le hi
    exact hleast m (by omega)
  · rintro ⟨hj, hlen, hback, hleast⟩
    obtain ⟨k, rfl⟩ := Nat.exists_eq_add_of_le hj
    refine ⟨k, ?_, rfl, hback, fun i hi => hleast _ (by omega) (by omega)⟩
    rw [List.length_drop]
    omega

lemma closingParen?_eq_none_iff : closingParen? text o = none ↔
    ∀ k, o < k → k < text.length → scanBehind text k ≠ .outside := by
  have hsearch := closingFrom_eq_none_iff (n := ⟨false, 1⟩) (text.drop (o + 1)) Nat.one_pos (o + 1)
  simp only [← scanBehind_inside hopen hout, List.length_drop] at hsearch
  rw [closingParen?_eq_closingFrom hopen]
  refine hsearch.trans ⟨fun h k hk hlen => ?_, fun h k hk => h _ (by omega) (by omega)⟩
  obtain ⟨m, rfl⟩ := Nat.exists_eq_add_of_le hk
  exact h m (by omega)

/-- Up to the place where the scan comes back to top level, parentheses are open behind every
character. -/
lemma depth_pos_of_unreturned (hnever : ∀ k, o < k → k < j → scanBehind text k ≠ .outside)
    (hj : o < j)
    (hlen : j ≤ text.length) : 0 < (Nesting.outside.steps (text.take j)).depth := by
  obtain ⟨k, rfl⟩ := Nat.exists_eq_add_of_lt hj
  show 0 < (scanBehind text (o + k)).depth
  cases k with
  | zero =>
    rw [Nat.add_zero, scanBehind_open hopen hout]
    exact Nat.one_pos
  | succ k =>
    have hinside := scanBehind_inside hopen hout
    rw [show o + (k + 1) = o + 1 + k by omega, hinside]
    refine depth_steps_pos Nat.one_pos fun i hi => ?_
    rw [List.length_take] at hi
    rw [List.take_take, Nat.min_eq_left (by omega), ← hinside]
    exact hnever _ (by omega) (by omega)

/-- Nothing stands at top level from the parenthesis on until the scan comes back. -/
lemma masked_of_unreturned (hnever : ∀ k, o < k → k < j → scanBehind text k ≠ .outside) {k : Nat}
    (hok : o ≤ k) (hkj : k ≤ j) (hlen : k < text.length) :
    (topLevelMask text)[k]? = some false := by
  refine getElem?_topLevelMask_eq_false hlen fun htop => ?_
  rcases Nat.eq_or_lt_of_le hok with rfl | hlt
  · obtain ⟨-, c, hc, hplain⟩ := isTopLevelAt_iff.mp htop
    obtain rfl : '(' = c := Option.some.inj (hopen.symm.trans hc)
    exact hplain.2.1 rfl
  · have hdepth := depth_pos_of_unreturned hopen hout
      (fun i hi hik => hnever i hi (by omega)) hlt (Nat.le_of_lt hlen)
    rw [steps_take_of_isTopLevelAt htop] at hdepth
    exact absurd hdepth (Nat.lt_irrefl 0)

/-- The scan is not at top level behind the parenthesis either. -/
lemma unreturned_from (hnever : ∀ k, o < k → k < j → scanBehind text k ≠ .outside) {k : Nat}
    (hok : o ≤ k) (hkj : k < j) : scanBehind text k ≠ .outside := by
  rcases Nat.eq_or_lt_of_le hok with rfl | hlt
  · rw [scanBehind_open hopen hout]
    decide
  · exact hnever k hlt hkj

/-- The parenthesis that is found closes the other one. -/
lemma closesAt_of_closingParen? (h : closingParen? text o = some j) : ClosesAt text o j := by
  obtain ⟨hbehind, hlen, hback, hleast⟩ := (closingParen?_eq_some_iff hopen hout).mp h
  -- the scan comes back with the character at `j`, so that is the last parenthesis to be closed
  have hdepth := depth_pos_of_unreturned hopen hout hleast hbehind (Nat.le_of_lt hlen)
  have hstep := hback
  rw [scanBehind, List.take_add_one, List.getElem?_eq_getElem hlen, Nesting.steps_append] at hstep
  obtain ⟨hinside, hchar⟩ := (Nesting.step_eq_outside_iff hdepth).mp hstep
  exact {
    behind := hbehind
    isParen := by rw [List.getElem?_eq_getElem hlen, hchar]
    unquoted := congrArg Nesting.quoted hinside
    masked := fun k hok hkj =>
      masked_of_unreturned hopen hout hleast hok hkj (Nat.lt_of_le_of_lt hkj hlen)
    back := hback
    least := fun k => unreturned_from hopen hout hleast
    mask := topLevelMask_take_append_drop hback }

end Parentheses

/-- **The search for a closing parenthesis agrees with the mask.**  For a parenthesis that opens at
top level, what is found is the place behind which the scan for the mask comes back to top level,
and the text may be cut there.  Nothing is found only if the scan never comes back, and then all of
the text from the parenthesis on is masked out. -/
theorem closing_parens_agree_with_mask {text : List Char} {o : Nat} (hopen : text[o]? = some '(')
    (hout : Nesting.outside.steps (text.take o) = .outside) :
    (∀ j, closingParen? text o = some j ↔ ClosesAt text o j) ∧
      (closingParen? text o = none ↔
        ∀ k, o ≤ k → k < text.length → scanBehind text k ≠ .outside) ∧
      (closingParen? text o = none →
        ∀ k, o ≤ k → k < text.length → (topLevelMask text)[k]? = some false) := by
  have hnone := closingParen?_eq_none_iff hopen hout
  refine ⟨fun j => ⟨closesAt_of_closingParen? hopen hout, fun h => ?_⟩, ?_, fun h k hok hlen => ?_⟩
  · have hlen := (List.getElem?_eq_some_iff.mp h.isParen).1
    exact (closingParen?_eq_some_iff hopen hout).mpr
      ⟨h.behind, hlen, h.back, fun k hok => h.least k (Nat.le_of_lt hok)⟩
  · exact hnone.trans ⟨fun h k hok hlen => unreturned_from hopen hout h hok hlen,
      fun h k hok => h k (Nat.le_of_lt hok)⟩
  · have hnever := hnone.mp h
    exact masked_of_unreturned hopen hout (fun i hi hik => hnever i hi (hik.trans hlen)) hok
      (Nat.le_refl k) hlen

/-- Parentheses and quotes are nested in each other, and a stray parenthesis stands in front. -/
theorem closing_parens_of_nested_selector :
    let text := ") child(a is \")\" and child(b).c is d).e".toList
    (text[7]? = some '(' ∧ Nesting.outside.steps (text.take 7) = .outside) ∧
      ClosesAt text 7 36 := by
  intro text
  have hopen : text[7]? = some '(' := by decide
  have hout : Nesting.outside.steps (text.take 7) = .outside := by decide
  obtain ⟨hfound, -⟩ := closing_parens_agree_with_mask hopen hout
  exact ⟨⟨hopen, hout⟩, (hfound 36).mp (by decide)⟩

end Cascade
