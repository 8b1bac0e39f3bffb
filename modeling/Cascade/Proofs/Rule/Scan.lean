import Mathlib.Tactic.Lemma
import Cascade.Rule.Action
import Cascade.Rule.Split

/-!
# Stretches of text that a scan passes over

All cutters of the rule language are scans from left to right that stop at a *hit*: at top level,
with a certain character before it and a certain text from it on.  A stretch of text is `Quiet` for
a kind of hits when there is none inside it, whatever stands behind the stretch being given.  Every
cutter passes over a quiet stretch and goes on behind it (`cutThen?_append`, `cutActions_append`,
`cutConditions_append`, `findOperatorFrom_append`, `cutEquals?_append`).

Being quiet is a matter of the parts (`quiet_append`).  Quotes and parentheses are quiet for all
hits (`quiet_quoted`, `quiet_parens`); a text whose quotes and parentheses are in order is
`Balanced`, and such a text leaves a scan as it found it.
-/

namespace Cascade

/-- A kind of hits: what counts, given the character before and the text from here on. -/
abbrev Hit := Option Char → List Char → Prop

/-- The character before what follows a text. -/
def lastOf (last : Option Char) (text : List Char) : Option Char :=
  text.foldl (fun _ c => some c) last

/-- No hit stands at top level inside a text that `rest` follows. -/
def Quiet (hit : Hit) (n : Nesting) (last : Option Char) : List Char → List Char → Prop
  | [], _ => True
  | c :: text, rest =>
    (n.isTopLevel c = true → ¬ hit last (c :: (text ++ rest))) ∧
      Quiet hit (n.step c) (some c) text rest

variable {hit : Hit} {n : Nesting} {last : Option Char} {s t rest : List Char}

@[simp] lemma lastOf_nil : lastOf last [] = last := rfl

@[simp] lemma lastOf_cons (c : Char) : lastOf last (c :: t) = lastOf (some c) t := rfl

@[simp] lemma lastOf_append : lastOf last (s ++ t) = lastOf (lastOf last s) t :=
  List.foldl_append

/-- A text in two parts is quiet when both are, the first one followed by the second. -/
lemma quiet_append : Quiet hit n last (s ++ t) rest ↔
    Quiet hit n last s (t ++ rest) ∧ Quiet hit (n.steps s) (lastOf last s) t rest := by
  induction s generalizing n last with
  | nil => simp [Quiet]
  | cons c s ih =>
    simp only [List.cons_append, Quiet, ih, List.append_assoc, Nesting.steps_cons, lastOf_cons,
      and_assoc]

/-- A text that is quiet for some hits is quiet for fewer. -/
lemma Quiet.mono {hit' : Hit} (h : Quiet hit n last t rest)
    (himp : ∀ last text, hit' last text → hit last text) : Quiet hit' n last t rest := by
  induction t generalizing n last with
  | nil => trivial
  | cons c t ih => exact ⟨fun hc hhit => h.1 hc (himp _ _ hhit), ih h.2⟩

/-! ## Quotes and parentheses -/

/-- A character that is no quote and no parenthesis. -/
def IsPlain (c : Char) : Prop := c ≠ '"' ∧ c ≠ '(' ∧ c ≠ ')'

lemma Nesting.step_of_isPlain {c : Char} (h : IsPlain c) : n.step c = n := by
  obtain ⟨hquote, hopen, hclose⟩ := h
  simp [step, hquote, hopen, hclose]

/-- A text without quotes and parentheses leaves a scan where it is. -/
lemma Nesting.steps_of_isPlain (h : ∀ c ∈ t, IsPlain c) : n.steps t = n := by
  induction t with
  | nil => rfl
  | cons c t ih =>
    rw [steps_cons, step_of_isPlain (h c List.mem_cons_self)]
    exact ih fun d hd => h d (List.mem_cons_of_mem c hd)

/-- Inside quotes only a quote changes a scan. -/
lemma Nesting.step_of_quoted {c : Char} (hc : c ≠ '"') (d : Nat) :
    step ⟨true, d⟩ c = ⟨true, d⟩ := by
  simp [step, hc]

/-- The texts whose quotes are closed and whose parentheses are in order. -/
inductive Balanced : List Char → Prop
  | nil : Balanced []
  | plain {c : Char} {t : List Char} : c ≠ '"' → c ≠ '(' → c ≠ ')' → Balanced t → Balanced (c :: t)
  | quoted {v t : List Char} : '"' ∉ v → Balanced t → Balanced ('"' :: (v ++ '"' :: t))
  | parens {s t : List Char} : Balanced s → Balanced t → Balanced ('(' :: (s ++ ')' :: t))

lemma Balanced.append (hs : Balanced s) (ht : Balanced t) : Balanced (s ++ t) := by
  induction hs with
  | nil => exact ht
  | plain h1 h2 h3 _ ih => exact .plain h1 h2 h3 ih
  | @quoted v s hv _ ih =>
    rw [List.cons_append, List.append_assoc, List.cons_append]
    exact .quoted hv ih
  | @parens inner s hinner _ _ ih =>
    rw [List.cons_append, List.append_assoc, List.cons_append]
    exact .parens hinner ih

lemma balanced_of_plain (h : ∀ c ∈ t, IsPlain c) : Balanced t := by
  induction t with
  | nil => exact .nil
  | cons c t ih =>
    obtain ⟨h1, h2, h3⟩ := h c List.mem_cons_self
    exact .plain h1 h2 h3 (ih fun d hd => h d (List.mem_cons_of_mem c hd))

/-- What a scan does inside quotes. -/
lemma steps_inside_quotes {v : List Char} (hv : '"' ∉ v) (d : Nat) :
    (⟨true, d⟩ : Nesting).steps v = ⟨true, d⟩ := by
  induction v with
  | nil => rfl
  | cons c v ih =>
    rw [List.mem_cons, not_or] at hv
    rw [Nesting.steps_cons, Nesting.step_of_quoted (Ne.symm hv.1), ih hv.2]

lemma quiet_inside_quotes {v : List Char} (hv : '"' ∉ v) (d : Nat) (last : Option Char) :
    Quiet hit ⟨true, d⟩ last v rest := by
  induction v generalizing last with
  | nil => trivial
  | cons c v ih =>
    rw [List.mem_cons, not_or] at hv
    refine ⟨fun hc => by simp [Nesting.isTopLevel, Nesting.outside] at hc, ?_⟩
    rw [Nesting.step_of_quoted (Ne.symm hv.1)]
    exact ih hv.2 _

lemma closingFrom_inside_quotes {v : List Char} (hv : '"' ∉ v) (d : Int) (index : Nat) :
    closingFrom true d index (v ++ rest) = closingFrom true d (index + v.length) rest := by
  induction v generalizing index with
  | nil => rfl
  | cons c v ih =>
    rw [List.mem_cons, not_or] at hv
    rw [List.cons_append, closingFrom, if_neg (Ne.symm hv.1), if_pos rfl, ih hv.2,
      List.length_cons]
    congr 1
    omega

/-- A balanced text leaves a scan as it found it. -/
lemma Balanced.steps_eq (h : Balanced t) (d : Nat) :
    (⟨false, d⟩ : Nesting).steps t = ⟨false, d⟩ := by
  induction h generalizing d with
  | nil => rfl
  | plain h1 h2 h3 _ ih =>
    rw [Nesting.steps_cons, Nesting.step_of_isPlain ⟨h1, h2, h3⟩]
    exact ih d
  | quoted hv _ ih =>
    rw [Nesting.steps_cons, Nesting.steps_append]
    show ((⟨true, d⟩ : Nesting).steps _).steps _ = _
    rw [steps_inside_quotes hv, Nesting.steps_cons]
    exact ih d
  | parens _ _ ihs iht =>
    rw [Nesting.steps_cons, Nesting.steps_append]
    show ((⟨false, d + 1⟩ : Nesting).steps _).steps _ = _
    rw [ihs, Nesting.steps_cons]
    exact iht d

@[simp] lemma Balanced.steps_outside (h : Balanced t) : Nesting.outside.steps t = .outside :=
  h.steps_eq 0

/-- Inside a parenthesis nothing stands at top level. -/
lemma Balanced.quiet_inside (h : Balanced t) (d : Nat) (last : Option Char) (rest : List Char) :
    Quiet hit ⟨false, d + 1⟩ last t rest := by
  have hdeep {q : Bool} {d : Nat} {c : Char} {P : Prop} :
      (⟨q, d + 1⟩ : Nesting).isTopLevel c = true → P := by
    simp [Nesting.isTopLevel, Nesting.outside]
  induction h generalizing d last rest with
  | nil => trivial
  | plain h1 h2 h3 _ ih =>
    refine ⟨hdeep, ?_⟩
    rw [Nesting.step_of_isPlain ⟨h1, h2, h3⟩]
    exact ih d _ _
  | quoted hv _ ih =>
    refine ⟨hdeep, ?_⟩
    show Quiet hit ⟨true, d + 1⟩ _ _ _
    rw [quiet_append, steps_inside_quotes hv]
    refine ⟨quiet_inside_quotes hv _ _, hdeep, ?_⟩
    exact ih d _ _
  | parens hs _ ihs iht =>
    refine ⟨hdeep, ?_⟩
    show Quiet hit ⟨false, d + 1 + 1⟩ _ _ _
    rw [quiet_append, hs.steps_eq]
    refine ⟨ihs (d + 1) _ _, hdeep, ?_⟩
    exact iht d _ _

/-- The parenthesis that closes is found behind a balanced text. -/
lemma Balanced.closingFrom_append (h : Balanced t) {d : Nat} (index : Nat) (rest : List Char) :
    closingFrom false (d + 1 : Nat) index (t ++ rest) =
      closingFrom false (d + 1 : Nat) (index + t.length) rest := by
  induction h generalizing d index rest with
  | nil => rfl
  | plain h1 h2 h3 _ ih =>
    rw [List.cons_append, closingFrom, if_neg h1]
    simp only [Bool.false_eq_true, if_false, if_neg h2, if_neg h3]
    rw [ih, List.length_cons]
    congr 1
    omega
  | @quoted v t hv _ ih =>
    rw [List.cons_append, closingFrom, if_pos rfl, List.append_assoc,
      Bool.not_false, closingFrom_inside_quotes hv, List.cons_append, closingFrom, if_pos rfl,
      Bool.not_true, ih]
    congr 1
    simp only [List.length_cons, List.length_append]
    omega
  | @parens s t _ _ ihs iht =>
    have hopen : ('(' : Char) ≠ '"' := by decide
    have hclose : (')' : Char) ≠ '"' := by decide
    have hdeep : ¬ ((d + 1 + 1 : Nat) : Int) = 1 := by omega
    rw [List.cons_append, closingFrom, if_neg hopen]
    simp only [Bool.false_eq_true, if_false, if_true]
    rw [List.append_assoc, show ((d + 1 : Nat) : Int) + 1 = ((d + 1 + 1 : Nat) : Int) by omega,
      ihs, List.cons_append, closingFrom, if_neg hclose]
    have hne : ¬ (')' : Char) = '(' := by decide
    simp only [Bool.false_eq_true, if_false, if_true, hdeep, hne]
    rw [show ((d + 1 + 1 : Nat) : Int) - 1 = ((d + 1 : Nat) : Int) by omega, iht]
    congr 1
    simp only [List.length_cons, List.length_append]
    omega

/-- A text in quotes is quiet for all hits. -/
lemma quiet_quoted {v : List Char} (hv : '"' ∉ v) (last : Option Char) (rest : List Char) :
    Quiet hit .outside last ('"' :: (v ++ ['"'])) rest := by
  refine ⟨fun hc => by simp [Nesting.isTopLevel] at hc, ?_⟩
  show Quiet hit ⟨true, 0⟩ _ _ _
  rw [quiet_append, steps_inside_quotes hv]
  refine ⟨quiet_inside_quotes hv _ _, fun hc => ?_, trivial⟩
  simp [Nesting.isTopLevel] at hc

/-- A balanced text in parentheses is quiet for all hits. -/
lemma quiet_parens (h : Balanced s) (last : Option Char) (rest : List Char) :
    Quiet hit .outside last ('(' :: (s ++ [')'])) rest := by
  refine ⟨fun hc => by simp [Nesting.isTopLevel] at hc, ?_⟩
  show Quiet hit ⟨false, 0 + 1⟩ _ _ _
  rw [quiet_append, h.steps_eq]
  refine ⟨h.quiet_inside 0 _ _, fun hc => ?_, trivial⟩
  simp [Nesting.isTopLevel] at hc

/-! ## The cutters pass over quiet stretches -/

/-- The hits of the cut before the then-clause. -/
def ThenHit : Hit := fun last text => last = some ' ' ∧ startsThen text = true

/-- The hits of the cut before an action. -/
def ActionHit : Hit := fun last text => last = some ' ' ∧ startsAction text = true

/-- The hits of the cut between conditions. -/
def ConjunctionHit : Hit := fun _ text => conjunction.isPrefixOf text = true

/-- The hits of the search for an operator. -/
def OperatorHit : Hit := fun last text =>
  (last.map Text.isWord).getD false = false ∧ (comparisonAt? text).isSome = true

/-- The hits of the cut at an equals sign. -/
def EqualsHit : Hit := fun _ text => text.head? = some '='

lemma cutThen?_append (h : Quiet ThenHit n last t rest) :
    cutThen? n last (t ++ rest) =
      (cutThen? (n.steps t) (lastOf last t) rest).map fun p => (t ++ p.1, p.2) := by
  induction t generalizing n last with
  | nil => simp
  | cons c t ih =>
    have hno : ¬ (n.isTopLevel c && last == some ' ' && startsThen (c :: (t ++ rest))) = true := by
      simp only [Bool.and_eq_true, beq_iff_eq, and_assoc, not_and]
      exact fun hc hlast hthen => h.1 hc ⟨hlast, hthen⟩
    rw [List.cons_append, cutThen?, if_neg hno, ih h.2, Option.map_map]
    rfl

lemma cutActions_append (h : Quiet ActionHit n last t rest) {piece : List Char}
    {pieces : List (List Char)}
    (hrest : cutActions (n.steps t) (lastOf last t) rest = piece :: pieces) :
    cutActions n last (t ++ rest) = (t ++ piece) :: pieces := by
  induction t generalizing n last with
  | nil => exact hrest
  | cons c t ih =>
    have hno :
        ¬ (n.isTopLevel c && last == some ' ' && startsAction (c :: (t ++ rest))) = true := by
      simp only [Bool.and_eq_true, beq_iff_eq, and_assoc, not_and]
      exact fun hc hlast hstart => h.1 hc ⟨hlast, hstart⟩
    simp only [List.cons_append, cutActions, if_neg hno, ih h.2 hrest, consFirst]

lemma cutConditions_append (h : Quiet ConjunctionHit n last t rest) {piece : List Char}
    {pieces : List (List Char)}
    (hrest : cutConditions (n.steps t) 0 rest = piece :: pieces) :
    cutConditions n 0 (t ++ rest) = (t ++ piece) :: pieces := by
  induction t generalizing n last with
  | nil => exact hrest
  | cons c t ih =>
    have hno : ¬ (n.isTopLevel c && conjunction.isPrefixOf (c :: (t ++ rest))) = true := by
      rw [Bool.and_eq_true, not_and]
      exact fun hc => h.1 hc
    simp only [List.cons_append, cutConditions, if_neg hno, ih h.2 hrest, consFirst]

lemma findOperatorFrom_append (h : Quiet OperatorHit n last t rest) :
    findOperatorFrom n last (t ++ rest) =
      (findOperatorFrom (n.steps t) (lastOf last t) rest).map fun m =>
        { m with before := t ++ m.before } := by
  induction t generalizing n last with
  | nil => simp
  | cons c t ih =>
    have hlater : (findOperatorFrom (n.step c) (some c) (t ++ rest)).map
          (fun m => { m with before := c :: m.before }) =
        (findOperatorFrom (n.steps (c :: t)) (lastOf last (c :: t)) rest).map fun m =>
          { m with before := c :: t ++ m.before } := by
      rw [ih h.2, Option.map_map]
      rfl
    rw [List.cons_append, findOperatorFrom]
    split
    · next hc =>
      rw [Bool.and_eq_true, Bool.not_eq_true'] at hc
      have hnone : comparisonAt? (c :: (t ++ rest)) = none :=
        Option.not_isSome_iff_eq_none.mp fun hsome => h.1 hc.1 ⟨hc.2, hsome⟩
      rw [hnone]
      exact hlater
    · exact hlater

lemma cutEquals?_append (h : Quiet EqualsHit n last t rest) :
    cutEquals? n (t ++ rest) =
      (cutEquals? (n.steps t) rest).map fun p => (t ++ p.1, p.2) := by
  induction t generalizing n last with
  | nil => simp
  | cons c t ih =>
    have hno : ¬ (n.isTopLevel c && decide (c = '=')) = true := by
      simp only [Bool.and_eq_true, decide_eq_true_eq, not_and]
      rintro hc rfl
      exact h.1 hc rfl
    rw [List.cons_append, cutEquals?, if_neg hno, ih h.2, Option.map_map]
    rfl

end Cascade
