import Cascade.Proofs.Rule.Parts
import Cascade.Proofs.Rule.TopLevel
import Cascade.Proofs.Rule.Words
import Cascade.Proofs.Text.Lines

/-!
# The pieces of a clause

A clause is cut into conditions or actions, and each piece is trimmed and read by itself.  Nothing
is lost in cutting but the conjunctions, and every cut is where it should be: at each conjunction at
top level but none that overlaps one before it (`cutsAtConjunctions_cutConditions`), and before each
action keyword at top level (`cutsBeforeActions_cutActions`).

At a cut the scan is outside of quotes and parentheses, which is where a fresh one begins.  So what
is quoted or in parentheses in a piece does not depend on whether the piece is scanned alone or with
the text around it (`standsAlike_condition`, `standsAlike_action`).  The same is true of a trimmed
piece and of the body of an action, since only plain characters are taken off (`standsAlike_trim`,
`standsAlike_body`).  All of this together is `cutting_is_lossless_and_local`.
-/

namespace Cascade

open Text (isBlank)

variable {n : Nesting} {last : Option Char} {skip i : Nat} {c : Char}
  {text piece sep : List Char} {front back pieces : List (List Char)}

/-! ## Pieces and places -/

/-- What stands before a piece of a text: the pieces before it, each with a separator behind it. -/
def leadOf (sep : List Char) (front : List (List Char)) : List Char := front.flatMap (· ++ sep)

/-- A piece begins at a place, and it is not the first one. -/
def IsPieceStart (pieces : List (List Char)) (i : Nat) : Prop :=
  ∃ front back, pieces = front ++ back ∧ front ≠ [] ∧ back ≠ [] ∧ front.flatten.length = i

lemma leadOf_nil_left (front : List (List Char)) : leadOf [] front = front.flatten := by
  simp only [leadOf, List.append_nil, List.flatMap_id']

lemma leadOf_cons (sep first : List Char) (front : List (List Char)) :
    leadOf sep (first :: front) = first ++ sep ++ leadOf sep front := List.flatMap_cons

lemma leadOf_eq_joinWith (h : front ≠ []) : leadOf sep front = Text.joinWith sep front ++ sep := by
  induction front with
  | nil => exact absurd rfl h
  | cons first front ih =>
    rw [leadOf_cons]
    cases front with
    | nil => simp [leadOf, Text.joinWith]
    | cons second front =>
      rw [ih (List.cons_ne_nil _ _), Text.joinWith_cons_cons, List.append_assoc, List.append_assoc,
        List.append_assoc]

lemma joinWith_cons_eq_flatMap (sep piece : List Char) (back : List (List Char)) :
    Text.joinWith sep (piece :: back) = piece ++ back.flatMap (sep ++ ·) := by
  induction back generalizing piece with
  | nil => simp [Text.joinWith]
  | cons second back ih => simp [Text.joinWith_cons_cons, ih]

/-- Joined pieces, seen from one of them. -/
lemma joinWith_append_cons (sep : List Char) (front : List (List Char)) (piece : List Char)
    (back : List (List Char)) :
    Text.joinWith sep (front ++ piece :: back) =
      leadOf sep front ++ piece ++ back.flatMap (sep ++ ·) := by
  induction front with
  | nil => exact joinWith_cons_eq_flatMap sep piece back
  | cons first front ih =>
    rw [List.cons_append, Text.joinWith_cons_of_ne_nil (by simp), ih, leadOf_cons]
    simp only [List.append_assoc]

lemma isPieceStart_nil_cons (h : pieces ≠ []) :
    IsPieceStart ([] :: pieces) i ↔ i = 0 ∨ IsPieceStart pieces i := by
  constructor
  · rintro ⟨front, back, heq, hfront, hback, rfl⟩
    obtain ⟨first, front, rfl⟩ := List.exists_cons_of_ne_nil hfront
    obtain ⟨rfl, rfl⟩ := List.cons.inj heq
    by_cases hrest : front = []
    · exact .inl (by simp [hrest])
    · exact .inr ⟨front, back, rfl, hrest, hback, by simp⟩
  · rintro (rfl | ⟨front, back, rfl, hfront, hback, rfl⟩)
    · exact ⟨[[]], pieces, rfl, List.cons_ne_nil _ _, h, rfl⟩
    · exact ⟨[] :: front, back, rfl, List.cons_ne_nil _ _, hback, by simp⟩

lemma isPieceStart_consFirst (h : pieces ≠ []) :
    IsPieceStart (consFirst c pieces) i ↔ ∃ j, i = j + 1 ∧ IsPieceStart pieces j := by
  obtain ⟨piece, pieces, rfl⟩ := List.exists_cons_of_ne_nil h
  constructor
  · rintro ⟨front, back, heq, hfront, hback, rfl⟩
    obtain ⟨first, front, rfl⟩ := List.exists_cons_of_ne_nil hfront
    obtain ⟨rfl, rfl⟩ := List.cons.inj heq
    exact ⟨(piece :: front).flatten.length, by simp,
      piece :: front, back, rfl, List.cons_ne_nil _ _, hback, rfl⟩
  · rintro ⟨j, rfl, front, back, heq, hfront, hback, rfl⟩
    obtain ⟨first, front, rfl⟩ := List.exists_cons_of_ne_nil hfront
    obtain ⟨rfl, rfl⟩ := List.cons.inj heq
    exact ⟨(c :: piece) :: front, back, rfl, List.cons_ne_nil _ _, hback, by simp⟩

/-! ## Conditions -/

lemma isPlain_of_mem_conjunction : ∀ c ∈ conjunction, IsPlain c := by
  simp [conjunction, IsPlain]

/-- At every cut between conditions the scan is outside. -/
lemma steps_joinWith_of_cutConditions (h : cutConditions n skip text = front ++ back)
    (hfront : front ≠ []) (hback : back ≠ []) :
    n.steps (Text.joinWith conjunction front) = .outside := by
  induction text generalizing n skip front with
  | nil =>
    rcases List.singleton_eq_append_iff.mp h with ⟨hnil, -⟩ | ⟨-, hnil⟩
    · exact absurd hnil hfront
    · exact absurd hnil hback
  | cons c text ih =>
    cases skip with
    | succ skip => exact ih h hfront
    | zero =>
      obtain ⟨first, front, rfl⟩ := List.exists_cons_of_ne_nil hfront
      rw [cutConditions] at h
      split at h
      · next hhit =>
        obtain ⟨rfl, hrest⟩ := List.cons.inj h
        obtain ⟨rfl, -⟩ := Nesting.isTopLevel_iff.mp (Bool.and_eq_true_iff.mp hhit).1
        by_cases hmore : front = []
        · rw [hmore]
          rfl
        · rw [Text.joinWith_cons_of_ne_nil hmore, List.nil_append, Nesting.steps_append,
            Nesting.steps_of_isPlain isPlain_of_mem_conjunction]
          exact ih hrest hmore
      · obtain ⟨piece, pieces, hpieces⟩ :=
          List.exists_cons_of_ne_nil (cutConditions_ne_nil (n.step c) 0 text)
        rw [hpieces] at h
        obtain ⟨rfl, rfl⟩ := List.cons.inj h
        have hjoin := joinWith_consFirst conjunction c (piece :: front)
        rw [consFirst] at hjoin
        rw [hjoin, Nesting.steps_cons]
        exact ih hpieces (List.cons_ne_nil _ _)

/-- No conjunction is left at top level in a condition; the first piece is scanned from `n` on. -/
lemma uncut_of_cutConditions (h : cutConditions n skip text = piece :: pieces) :
    (∀ i, (maskFrom n piece)[i]? = some true → ¬ conjunction <+: piece.drop i) ∧
      ∀ q ∈ pieces, ∀ i, IsTopLevelAt q i → ¬ conjunction <+: q.drop i := by
  induction text generalizing n skip piece pieces with
  | nil =>
    obtain ⟨rfl, rfl⟩ := List.cons.inj h
    exact ⟨fun i hi => by simp [maskFrom] at hi, List.forall_mem_nil _⟩
  | cons c text ih =>
    cases skip with
    | succ skip => exact ih h
    | zero =>
      rw [cutConditions] at h
      split at h
      · next hhit =>
        obtain ⟨rfl, rfl⟩ := List.cons.inj h
        obtain ⟨rfl, -⟩ := Nesting.isTopLevel_iff.mp (Bool.and_eq_true_iff.mp hhit).1
        obtain ⟨second, more, hmore⟩ :=
          List.exists_cons_of_ne_nil (cutConditions_ne_nil .outside 4 text)
        rw [hmore]
        exact ⟨fun i hi => by simp [maskFrom] at hi, List.forall_mem_cons.mpr (ih hmore)⟩
      · next hno =>
        obtain ⟨first, more, hfirst⟩ :=
          List.exists_cons_of_ne_nil (cutConditions_ne_nil (n.step c) 0 text)
        rw [hfirst] at h
        obtain ⟨rfl, rfl⟩ := List.cons.inj h
        obtain ⟨hhead, htail⟩ := ih hfirst
        refine ⟨fun i hi => ?_, htail⟩
        cases i with
        | zero =>
          -- the piece begins the text, so a conjunction here would have been a cut
          have htext := joinWith_cutConditions (n.step c) 0 text
          rw [hfirst, joinWith_cons_eq_flatMap, List.drop_zero] at htext
          intro hconj
          refine hno (Bool.and_eq_true_iff.mpr ⟨Option.some.inj hi, ?_⟩)
          rw [List.isPrefixOf_iff_prefix, ← htext, ← List.cons_append]
          exact hconj.trans (List.prefix_append _ _)
        | succ i => exact hhead i hi

/-- What cutting a text into conditions does. -/
structure CutsAtConjunctions (text : List Char) (pieces : List (List Char)) : Prop where
  /-- Only conjunctions are lost. -/
  joined : Text.joinWith conjunction pieces = text
  /-- Behind any pieces but the last, the conjunction stands at top level. -/
  topLevel : ∀ front back, pieces = front ++ back → front ≠ [] → back ≠ [] →
    IsTopLevelAt text (Text.joinWith conjunction front).length
  /-- No conjunction at top level is left in a piece. -/
  uncut : ∀ piece ∈ pieces, ∀ i, IsTopLevelAt piece i → ¬ conjunction <+: piece.drop i

/-- A text, cut at one of its pieces. -/
lemma eq_of_cutConditions (h : cutConditions n 0 text = front ++ piece :: back) :
    text = leadOf conjunction front ++ piece ++ back.flatMap (conjunction ++ ·) := by
  rw [← joinWith_append_cons, ← h, joinWith_cutConditions, List.drop_zero]

lemma cutsAtConjunctions_cutConditions (text : List Char) :
    CutsAtConjunctions text (cutConditions .outside 0 text) where
  joined := joinWith_cutConditions .outside 0 text
  topLevel := by
    intro front back h hfront hback
    obtain ⟨piece, back, rfl⟩ := List.exists_cons_of_ne_nil hback
    have htext := eq_of_cutConditions h
    rw [leadOf_eq_joinWith hfront, List.append_assoc, List.append_assoc] at htext
    refine isTopLevelAt_iff.mpr ⟨?_, ' ', ?_, isPlain_of_mem_conjunction _ (by decide)⟩
    · rw [htext, List.take_left]
      exact steps_joinWith_of_cutConditions h hfront hback
    · rw [htext, List.getElem?_append_right (Nat.le_refl _), Nat.sub_self]
      rfl
  uncut := by
    intro piece hpiece
    obtain ⟨first, more, hcut⟩ := List.exists_cons_of_ne_nil (cutConditions_ne_nil .outside 0 text)
    obtain ⟨hfirst, hmore⟩ := uncut_of_cutConditions hcut
    rw [hcut] at hpiece
    rcases List.mem_cons.mp hpiece with rfl | hpiece
    · exact hfirst
    · exact hmore piece hpiece

/-- A condition is seen alone as it is in the text. -/
lemma standsAlike_condition (h : cutConditions .outside 0 text = front ++ piece :: back) :
    StandsAlike piece text (leadOf conjunction front).length := by
  have hlead : Nesting.outside.steps (leadOf conjunction front) = .outside := by
    by_cases hfront : front = []
    · rw [hfront]
      rfl
    · rw [leadOf_eq_joinWith hfront, Nesting.steps_append,
        Nesting.steps_of_isPlain isPlain_of_mem_conjunction]
      exact steps_joinWith_of_cutConditions h hfront (List.cons_ne_nil _ _)
  rw [eq_of_cutConditions h]
  exact standsAlike_append hlead _ _

/-! ## Actions -/

lemma cutActions_ne_nil (n : Nesting) (last : Option Char) (text : List Char) :
    cutActions n last text ≠ [] := by
  cases text with
  | nil => exact List.cons_ne_nil _ _
  | cons c text =>
    rw [cutActions]
    split
    · exact List.cons_ne_nil _ _
    · exact consFirst_ne_nil _ _

/-- A piece that is not the first one begins with a character exactly if there is a hit. -/
lemma isPieceStart_cutActions_zero : IsPieceStart (cutActions n last (c :: text)) 0 ↔
    n.isTopLevel c = true ∧ ActionHit last (c :: text) := by
  have hhit : (n.isTopLevel c && last == some ' ' && startsAction (c :: text)) = true ↔
      n.isTopLevel c = true ∧ ActionHit last (c :: text) := by
    rw [Bool.and_eq_true, Bool.and_eq_true, beq_iff_eq, and_assoc, ActionHit]
  rw [← hhit, cutActions]
  split
  · next h => exact iff_of_true ((isPieceStart_nil_cons (consFirst_ne_nil _ _)).mpr (.inl rfl)) h
  · next h =>
    refine iff_of_false (fun hstart => ?_) h
    obtain ⟨j, hj, -⟩ := (isPieceStart_consFirst (cutActions_ne_nil _ _ _)).mp hstart
    cases hj

/-- Behind a character the pieces begin where they do without it. -/
lemma isPieceStart_cutActions_succ : IsPieceStart (cutActions n last (c :: text)) (i + 1) ↔
    IsPieceStart (cutActions (n.step c) (some c) text) i := by
  have hshift : IsPieceStart (consFirst c (cutActions (n.step c) (some c) text)) (i + 1) ↔
      IsPieceStart (cutActions (n.step c) (some c) text) i := by
    rw [isPieceStart_consFirst (cutActions_ne_nil _ _ _)]
    constructor
    · rintro ⟨j, hj, h⟩
      rwa [Nat.succ.inj hj]
    · exact fun h => ⟨i, rfl, h⟩
  rw [cutActions]
  split
  · rw [isPieceStart_nil_cons (consFirst_ne_nil _ _), hshift]
    simp
  · exact hshift

/-- A piece begins exactly where an action begins at top level behind a space. -/
lemma isPieceStart_cutActions : IsPieceStart (cutActions n last text) i ↔
    (maskFrom n text)[i]? = some true ∧ ActionHit (lastOf last (text.take i)) (text.drop i) := by
  induction text generalizing n last i with
  | nil =>
    refine iff_of_false ?_ (by simp [maskFrom])
    rintro ⟨front, back, h, hfront, hback, -⟩
    rcases List.singleton_eq_append_iff.mp h with ⟨hnil, -⟩ | ⟨-, hnil⟩
    · exact hfront hnil
    · exact hback hnil
  | cons c text ih =>
    cases i with
    | zero =>
      rw [isPieceStart_cutActions_zero]
      exact and_congr_left' Option.some_inj.symm
    | succ i => exact isPieceStart_cutActions_succ.trans ih

lemma lastOf_eq (last : Option Char) (text : List Char) :
    lastOf last text = text.getLast?.or last := by
  induction text generalizing last with
  | nil => rfl
  | cons c text ih =>
    rw [lastOf_cons, ih, List.getLast?_cons]
    cases text.getLast? <;> rfl

/-- At a place a keyword of actions stands behind a space, and a space or nothing behind it. -/
def HasActionAt (text : List Char) (i : Nat) : Prop :=
  (0 < i ∧ text[i - 1]? = some ' ') ∧ ∃ (kind : ActionKind) (rest : List Char),
    text.drop i = kind.word.toList ++ rest ∧ (rest = [] ∨ rest.head? = some ' ')

lemma actionHit_iff (hi : i < text.length) :
    ActionHit (lastOf none (text.take i)) (text.drop i) ↔ HasActionAt text i := by
  have hlast : lastOf none (text.take i) = some ' ' ↔ 0 < i ∧ text[i - 1]? = some ' ' := by
    rw [lastOf_eq, Option.or_none, List.getLast?_take]
    cases i with
    | zero => simp
    | succ i => simp [List.getElem?_eq_getElem (Nat.lt_of_succ_lt hi)]
  exact and_congr hlast startsAction_iff

/-- What cutting a text into actions does. -/
structure CutsBeforeActions (text : List Char) (pieces : List (List Char)) : Prop where
  /-- Nothing is lost. -/
  joined : pieces.flatten = text
  /-- A piece that is not the first one begins at each keyword at top level, and nowhere else. -/
  starts : ∀ i, IsPieceStart pieces i ↔ IsTopLevelAt text i ∧ HasActionAt text i

lemma cutsBeforeActions_cutActions (text : List Char) :
    CutsBeforeActions text (cutActions .outside none text) where
  joined := flatten_cutActions .outside none text
  starts _ := isPieceStart_cutActions.trans
    (and_congr_right fun h => actionHit_iff (IsTopLevelAt.lt_length h))

/-- An action is seen alone as it is in the text. -/
lemma standsAlike_action (h : cutActions .outside none text = front ++ piece :: back) :
    StandsAlike piece text (leadOf [] front).length := by
  have htext : text = front.flatten ++ piece ++ back.flatten := by
    rw [← flatten_cutActions .outside none text, h]
    simp
  have hlead : Nesting.outside.steps front.flatten = .outside := by
    by_cases hfront : front = []
    · rw [hfront]
      rfl
    · have hstart : IsPieceStart (cutActions .outside none text) front.flatten.length :=
        ⟨front, piece :: back, h, hfront, List.cons_ne_nil _ _, rfl⟩
      have htop := steps_take_of_isTopLevelAt (isPieceStart_cutActions.mp hstart).1
      rwa [htext, List.append_assoc, List.take_left] at htop
  rw [leadOf_nil_left, htext]
  exact standsAlike_append hlead _ _

/-! ## Trimmed pieces and the bodies of actions -/

lemma isPlain_of_isBlank (h : isBlank c = true) : IsPlain c := by
  refine ⟨?_, ?_, ?_⟩ <;> · rintro rfl; revert h; decide

lemma isPlain_of_mem_takeWhile (text : List Char) : ∀ c ∈ text.takeWhile isBlank, IsPlain c :=
  fun _ hc => isPlain_of_isBlank (List.mem_takeWhile_imp hc)

/-- A trimmed text is seen as it is in the text that is trimmed. -/
lemma standsAlike_trim (piece : List Char) :
    StandsAlike (Text.trim piece) piece (piece.takeWhile isBlank).length := by
  obtain ⟨after, -, hpiece⟩ := Text.exists_eq_append_trim piece
  have hlead : Nesting.outside.steps (piece.takeWhile isBlank) = .outside :=
    Nesting.steps_of_isPlain (isPlain_of_mem_takeWhile piece)
  have halike := standsAlike_append hlead (Text.trim piece) after
  rwa [← hpiece] at halike

/-- Only plain characters of a text stand before what is left of it. -/
def PlainBefore (rest text : List Char) : Prop :=
  ∃ lead, text = lead ++ rest ∧ ∀ c ∈ lead, IsPlain c

namespace PlainBefore

variable {rest inner word : List Char}

lemma refl (text : List Char) : PlainBefore text text := ⟨[], rfl, List.forall_mem_nil _⟩

lemma trans (hinner : PlainBefore inner rest) (hrest : PlainBefore rest text) :
    PlainBefore inner text := by
  obtain ⟨lead, rfl, hlead⟩ := hinner
  obtain ⟨lead', rfl, hlead'⟩ := hrest
  exact ⟨lead' ++ lead, (List.append_assoc _ _ _).symm, List.forall_mem_append.mpr ⟨hlead', hlead⟩⟩

lemma cons (hc : IsPlain c) (rest : List Char) : PlainBefore rest (c :: rest) :=
  ⟨[c], rfl, List.forall_mem_singleton.mpr hc⟩

lemma of_after? (hword : ∀ c ∈ word, IsPlain c) (h : Text.after? word text = some rest) :
    PlainBefore rest text := ⟨word, Text.eq_append_of_after? h, hword⟩

lemma dropWhile {p : Char → Bool} (hp : ∀ c, p c = true → IsPlain c) (text : List Char) :
    PlainBefore (text.dropWhile p) text :=
  ⟨text.takeWhile p, List.takeWhile_append_dropWhile.symm,
    fun c hc => hp c (List.mem_takeWhile_imp hc)⟩

lemma trimStart (text : List Char) : PlainBefore (Text.trimStart text) text :=
  dropWhile (fun _ => isPlain_of_isBlank) text

lemma standsAlike (h : PlainBefore rest text) :
    StandsAlike rest text (text.length - rest.length) := by
  obtain ⟨lead, rfl, hlead⟩ := h
  have hout : Nesting.outside.steps lead = .outside := Nesting.steps_of_isPlain hlead
  have halike := standsAlike_append hout rest []
  rwa [List.append_nil, ← Nat.add_sub_cancel (n := lead.length), ← List.length_append] at halike

end PlainBefore

lemma isPlain_of_mem_word (kind : ActionKind) : ∀ c ∈ kind.word.toList, IsPlain c := by
  cases kind <;> simp [ActionKind.word, IsPlain]

lemma isPlain_of_mem_optionWords {word : String} (h : word ∈ optionWords) :
    ∀ c ∈ word.toList, IsPlain c := by
  simp only [optionWords, List.mem_cons, List.not_mem_nil, or_false] at h
  rcases h with rfl | rfl | rfl <;> simp [IsPlain]

lemma plainBefore_of_clause? {keyword : String} {line rest : List Char}
    (hkeyword : ∀ c ∈ keyword.toList, IsPlain c) (h : clause? keyword line = some rest) :
    PlainBefore rest line := by
  unfold clause? at h
  split at h
  · next hword =>
    obtain rfl := Option.some.inj h
    exact .of_after? hkeyword hword
  · next c behind hword =>
    split at h
    · next hblank =>
      obtain rfl := Option.some.inj h
      exact (PlainBefore.trimStart behind).trans
        ((PlainBefore.cons (isPlain_of_isBlank hblank) behind).trans (.of_after? hkeyword hword))
    · cases h
  · cases h

lemma plainBefore_of_actionHead? {rest : List Char} {kind : ActionKind}
    (h : actionHead? text = some (kind, rest)) : PlainBefore rest text := by
  obtain ⟨kind', -, h⟩ := List.exists_of_findSome?_eq_some h
  obtain ⟨rest', hclause, heq⟩ := Option.map_eq_some_iff.mp h
  obtain ⟨rfl, rfl⟩ := Prod.mk.inj heq
  exact plainBefore_of_clause? (isPlain_of_mem_word kind') hclause

lemma plainBefore_of_optionWord? {rest : List Char} {word : String}
    (h : optionWord? text = some (word, rest)) : PlainBefore rest text := by
  have hgap (c : Char) (hc : (isBlank c || decide (c = ',')) = true) : IsPlain c := by
    rcases Bool.or_eq_true_iff.mp hc with hblank | hcomma
    · exact isPlain_of_isBlank hblank
    · rw [of_decide_eq_true hcomma]
      simp [IsPlain]
  obtain ⟨word', hmem, h⟩ := List.exists_of_findSome?_eq_some h
  split at h
  · next behind hword =>
    split at h
    · obtain ⟨rfl, rfl⟩ := Prod.mk.inj (Option.some.inj h)
      exact (PlainBefore.dropWhile hgap behind).trans
        (.of_after? (isPlain_of_mem_optionWords hmem) hword)
    · cases h
  · cases h

lemma plainBefore_takeOptions (o : Options) (fuel : Nat) (text : List Char) :
    PlainBefore (takeOptions o fuel text).2 text := by
  induction fuel generalizing o text with
  | zero => exact .refl text
  | succ fuel ih =>
    rw [takeOptions]
    split
    · next word rest hword => exact (ih _ rest).trans (plainBefore_of_optionWord? hword)
    · exact .refl text

lemma plainBefore_of_readOptions {r : Reading} {action rest body : List Char} {o : Options}
    (h : (readOptions r action rest).result = .ok (o, body)) : PlainBefore body rest := by
  unfold readOptions at h
  split at h
  · next c behind hwith =>
    split at h
    · next hblank =>
      dsimp only at h
      split at h
      · have hbody :=
          plainBefore_takeOptions {} (Text.trimStart behind).length (Text.trimStart behind)
        rw [Except.ok.inj h] at hbody
        have hword : PlainBefore (c :: behind) rest := .of_after? (by simp [IsPlain]) hwith
        exact hbody.trans ((PlainBefore.trimStart behind).trans
          ((PlainBefore.cons (isPlain_of_isBlank hblank) behind).trans hword))
      · cases h
    · obtain ⟨-, rfl⟩ := Prod.mk.inj (Except.ok.inj h)
      exact .refl _
  · obtain ⟨-, rfl⟩ := Prod.mk.inj (Except.ok.inj h)
    exact .refl _

/-- The body of an action is seen as it is in the action, whatever options stand before it. -/
lemma standsAlike_body {r : Reading} {rest body : List Char} {kind : ActionKind} {o : Options}
    (hhead : actionHead? text = some (kind, rest))
    (hoptions : (readOptions r text rest).result = .ok (o, body)) :
    StandsAlike body text (text.length - body.length) :=
  ((plainBefore_of_readOptions hoptions).trans (plainBefore_of_actionHead? hhead)).standsAlike

/-! ## Clauses -/

/-- Each piece of a text is seen by itself, trimmed or not, as it is in the text. -/
def PiecesStandAlike (sep text : List Char) (pieces : List (List Char)) : Prop :=
  ∀ front piece back, pieces = front ++ piece :: back →
    StandsAlike piece text (leadOf sep front).length ∧
      StandsAlike (Text.trim piece) text
        ((leadOf sep front).length + (piece.takeWhile isBlank).length)

lemma piecesStandAlike_of (h : ∀ front piece back, pieces = front ++ piece :: back →
      StandsAlike piece text (leadOf sep front).length) : PiecesStandAlike sep text pieces := by
  intro front piece back hpieces
  have halike := h front piece back hpieces
  exact ⟨halike, (standsAlike_trim piece).trans halike⟩

/-- **Cutting loses nothing, and the pieces are scanned as they stand.**  A text may be scanned in
two parts at each place at top level.  Cut into conditions, a text is what its pieces are joined by
conjunctions; the cuts are at top level, and no conjunction is left there.  Cut into actions, it is
what its pieces are together, and a piece begins exactly at each keyword at top level between spaces.
What is read are the pieces, trimmed, that are not empty: they, and the body of an action with its
options taken off, are quoted and in parentheses by themselves where they are so in the text. -/
theorem cutting_is_lossless_and_local (text : List Char) :
    (∀ i, IsTopLevelAt text i →
      topLevelMask text = topLevelMask (text.take i) ++ topLevelMask (text.drop i)) ∧
    CutsAtConjunctions text (cutConditions .outside 0 text) ∧
    CutsBeforeActions text (cutActions .outside none text) ∧
    (splitConditions text = trimPieces (cutConditions .outside 0 text) ∧
      PiecesStandAlike conjunction text (cutConditions .outside 0 text)) ∧
    (splitActions text = trimPieces (cutActions .outside none text) ∧
      PiecesStandAlike [] text (cutActions .outside none text)) ∧
    ∀ chunk ∈ splitActions text, ∀ kind rest r o body, actionHead? chunk = some (kind, rest) →
      (readOptions r chunk rest).result = .ok (o, body) →
        StandsAlike body chunk (chunk.length - body.length) where
  left _ h := topLevelMask_take_append_drop (steps_take_of_isTopLevelAt h)
  right := ⟨cutsAtConjunctions_cutConditions text, cutsBeforeActions_cutActions text,
    ⟨rfl, piecesStandAlike_of fun _ _ _ => standsAlike_condition⟩,
    ⟨rfl, piecesStandAlike_of fun _ _ _ => standsAlike_action⟩,
    fun _ _ _ _ _ _ _ hhead hoptions => standsAlike_body hhead hoptions⟩

/-- Of two conjunctions that share a space the first one cuts, and the second is none any more. -/
example : cutConditions .outside 0 "a and and b".toList = ["a".toList, "and b".toList] := by decide

/-- Keywords in quotes, in parentheses and inside of words begin no action. -/
example : cutActions .outside none "set a = \" set \" child( add ).x resets remove".toList =
    ["set a = \" set \" child( add ).x resets ".toList, "remove".toList] := by decide

end Cascade
