import Mathlib.Tactic.Lemma
import Cascade.Rule.Reader

/-!
# Strict and lenient reading agree where strict reading succeeds

The mode of a reading is asked in five places, spread over readers that call each other.  In each of
them strict reading stops with an error, so a strict reading that comes to its end has never met one
of the differences.  `Logged.Refines` says this of two computations: a result of the first is the
result of the second, which makes no notice on the way.  The relation is closed under the steps of a
reading (`Logged.Refines.bind`), so every reader inherits it from the readers it calls; the depth of
selectors is the one induction (`refines_readOperandWithin`).

The main result is `strict_result_eq_lenient`, for rule files, conditions, actions and operands.
-/

namespace Cascade

namespace Logged

variable {ε α β : Type}

/-- Where the first computation has a result, the second one has the same result and makes no
notice. -/
def Refines (x y : Logged ε α) : Prop := ∀ a, x.result = .ok a → y = pure a

namespace Refines

lemma pure (a : α) : Refines (Pure.pure a : Logged ε α) (Pure.pure a) := by
  intro b hb
  rw [Except.ok.inj hb]

/-- What fails has nothing to be compared. -/
lemma fail (e : ε) (y : Logged ε α) : Refines (Logged.fail e) y := nofun

lemma bind {x y : Logged ε α} {f g : α → Logged ε β} (h : Refines x y)
    (hfg : ∀ a, Refines (f a) (g a)) : Refines (x >>= f) (y >>= g) := by
  intro b hb
  obtain ⟨a, ha, hb⟩ := result_bind_eq_ok.mp hb
  rw [h a ha, pure_bind]
  exact hfg a b hb

/-- A computation whose second version has an error has one itself. -/
lemma exists_error {x y : Logged ε α} (h : Refines x y) {e : ε} (he : y.result = .error e) :
    ∃ e', x.result = .error e' := by
  cases hx : x.result with
  | error e' => exact ⟨e', rfl⟩
  | ok a =>
    rw [h a hx] at he
    cases he

end Refines

end Logged

open Logged (Refines)

variable {number : Int}

/-! ## Readers that do not ask for the mode -/

lemma refines_checkRight (text : List Char) (comparison : Comparison) (right : Operand) :
    Refines (checkRight ⟨true, number⟩ text comparison right)
      (checkRight ⟨false, number⟩ text comparison right) := by
  unfold checkRight
  cases right with
  | field _ => exact .pure ()
  | literal pattern =>
    dsimp only
    split
    · unfold checkPattern
      split
      · exact .pure ()
      · exact .fail _ _
      · exact .fail _ _
    · exact .pure ()

lemma refines_readOptions (action body : List Char) :
    Refines (readOptions ⟨true, number⟩ action body) (readOptions ⟨false, number⟩ action body) := by
  unfold readOptions
  split
  · split
    · dsimp only
      split
      · exact .pure _
      · exact .fail _ _
    · exact .pure _
  · exact .pure _

/-! ## Pieces, operands and conditions -/

lemma refines_readPieces {α : Type} (clause : Clause)
    {readStrictly readLeniently : List Char → Read (Option α)}
    (h : ∀ piece, Refines (readStrictly piece) (readLeniently piece))
    (pieces : List (List Char)) :
    Refines (Reading.readPieces ⟨true, number⟩ clause readStrictly pieces)
      (Reading.readPieces ⟨false, number⟩ clause readLeniently pieces) := by
  induction pieces with
  | nil => exact .pure []
  | cons piece pieces ih =>
    refine .bind (h piece) fun found => ?_
    cases found with
    | some a => exact .bind ih fun rest => .pure (a :: rest)
    | none =>
      -- here lenient reading drops the piece with a notice, and strict reading stops
      exact .bind (.fail _ _) fun _ => ih

lemma refines_readPlainOperand (text : List Char) :
    Refines (readPlainOperand ⟨true, number⟩ text) (readPlainOperand ⟨false, number⟩ text) := by
  unfold readPlainOperand
  dsimp only
  split
  · exact .pure _
  · rw [Bool.true_and, Bool.false_and, if_neg Bool.false_ne_true]
    split
    · exact .fail _ _
    · exact .pure _

lemma refines_readOperandWith {readStrictly readLeniently : List Char → Read (List Condition)}
    (h : ∀ text, Refines (readStrictly text) (readLeniently text)) (text : List Char) :
    Refines (readOperandWith readStrictly ⟨true, number⟩ text)
      (readOperandWith readLeniently ⟨false, number⟩ text) := by
  unfold readOperandWith
  dsimp only
  split
  · exact .pure _
  · split
    · exact refines_readPlainOperand _
    · split
      · next parts _ =>
        refine .bind (h parts.conditions) fun conditions => ?_
        rw [Bool.and_true, Bool.and_false, if_neg Bool.false_ne_true]
        split
        · exact .fail _ _
        · exact .pure _
      · rw [if_pos rfl]
        exact .fail _ _

lemma refines_readConditionWith {readStrictly readLeniently : List Char → Read Operand}
    (h : ∀ text, Refines (readStrictly text) (readLeniently text)) (text : List Char) :
    Refines (readConditionWith readStrictly ⟨true, number⟩ text)
      (readConditionWith readLeniently ⟨false, number⟩ text) := by
  unfold readConditionWith
  split
  · exact .pure none
  · next m _ =>
    dsimp only
    split
    · exact .pure none
    · exact .bind (h _) fun right => .bind (refines_checkRight text m.comparison right) fun _ =>
        .bind (h _) fun left => .pure _

lemma refines_readConditionsWith {readStrictly readLeniently : List Char → Read Operand}
    (h : ∀ text, Refines (readStrictly text) (readLeniently text)) (text : List Char) :
    Refines (readConditionsWith readStrictly ⟨true, number⟩ text)
      (readConditionsWith readLeniently ⟨false, number⟩ text) :=
  refines_readPieces .condition (refines_readConditionWith h) (splitConditions text)

/-- Operands agree at every depth of selectors: one level deeper, the conditions of a selector are
read by readers of which it is known already. -/
lemma refines_readOperandWithin (depth : Nat) (text : List Char) :
    Refines (readOperandWithin ⟨true, number⟩ depth text)
      (readOperandWithin ⟨false, number⟩ depth text) := by
  induction depth generalizing text with
  | zero => exact refines_readOperandWith (fun _ => .pure []) text
  | succ depth ih => exact refines_readOperandWith (refines_readConditionsWith ih) text

lemma refines_readOperand (text : List Char) :
    Refines (readOperand ⟨true, number⟩ text) (readOperand ⟨false, number⟩ text) :=
  refines_readOperandWithin _ text

lemma refines_readCondition (text : List Char) :
    Refines (readCondition ⟨true, number⟩ text) (readCondition ⟨false, number⟩ text) :=
  refines_readConditionWith (refines_readOperandWithin _) text

lemma refines_readConditions (text : List Char) :
    Refines (readConditions ⟨true, number⟩ text) (readConditions ⟨false, number⟩ text) :=
  refines_readConditionsWith (refines_readOperandWithin _) text

/-! ## Actions -/

lemma refines_readBody (kind : ActionKind) (body : List Char) :
    Refines (readBody ⟨true, number⟩ kind body) (readBody ⟨false, number⟩ kind body) := by
  cases kind with
  | set =>
    unfold readBody
    dsimp only
    split
    · exact .pure none
    · split
      · exact .pure none
      · exact .bind (refines_readOperand _) fun value => .pure _
  | add => exact .pure _
  | remove => exact .pure _

lemma refines_readAction (text : List Char) :
    Refines (readAction ⟨true, number⟩ text) (readAction ⟨false, number⟩ text) := by
  unfold readAction
  split
  · exact .pure none
  · next kind rest _ =>
    refine .bind (refines_readOptions text rest) fun (options, body) => ?_
    refine .bind (refines_readBody kind body) fun parts => ?_
    cases parts with
    | none => exact .pure none
    | some parts =>
      refine .bind (refines_readOperand parts.2) fun target => ?_
      cases target with
      | field reference => exact .pure _
      | literal value => exact .fail _ _

lemma refines_readActions (text : List Char) :
    Refines (readActions ⟨true, number⟩ text) (readActions ⟨false, number⟩ text) :=
  refines_readPieces .action refines_readAction (splitActions text)

/-! ## Rules -/

lemma refines_readBlock (next : Option SourceLine) (block : Block) :
    Refines (readBlock true next block) (readBlock false next block) := by
  unfold readBlock
  split
  · exact .fail _ _
  · dsimp only
    split
    · exact .fail _ _
    · split
      · exact .fail _ _
      · split
        · exact .fail _ _
        · refine .bind (refines_readConditions _) fun guards => ?_
          split
          · exact .fail _ _
          · refine .bind (refines_readActions _) fun actions => ?_
            split
            · exact .fail _ _
            · exact .pure _

lemma refines_readBlocks (blocks : List Block) :
    Refines (readBlocks true blocks) (readBlocks false blocks) := by
  induction blocks with
  | nil => exact .pure []
  | cons block blocks ih =>
    exact .bind (refines_readBlock _ block) fun rule => .bind ih fun rules => .pure (rule :: rules)

lemma refines_skipStray (lines : List SourceLine) :
    Refines (skipStray true lines) (skipStray false lines) := by
  cases lines with
  | nil => exact .pure ()
  | cons line rest => exact .fail _ _

lemma refines_readRules (text : String) : Refines (readRules true text) (readRules false text) :=
  .bind (refines_skipStray _) fun _ => refines_readBlocks _

/-! ## Agreement -/

/-- A reader agrees in both modes: what it makes of a text in strict mode it makes of it in lenient
mode, without a notice, and where lenient reading fails, strict reading does. -/
def ModesAgree {α : Type} (read : Bool → Read α) : Prop :=
  (∀ a, (read true).result = .ok a → (read false).result = .ok a ∧ (read false).notices = []) ∧
    ∀ e, (read false).result = .error e → ∃ e', (read true).result = .error e'

lemma ModesAgree.of_refines {α : Type} {read : Bool → Read α}
    (h : Refines (read true) (read false)) :
    ModesAgree read := by
  refine ⟨fun a ha => ?_, fun e he => h.exists_error he⟩
  rw [h a ha]
  exact ⟨rfl, rfl⟩

/-- **Strict and lenient reading agree where strict reading succeeds.**  This holds for the text of
every rule file, and for that of every condition, action and operand on a line of any number; a text
that has not the form of a condition or an action in strict mode has not in lenient mode either. -/
theorem strict_result_eq_lenient :
    (∀ text : String, ModesAgree fun strict => readRules strict text) ∧
    ∀ (number : Int) (text : List Char),
      (ModesAgree fun strict => readCondition ⟨strict, number⟩ text) ∧
      (ModesAgree fun strict => readAction ⟨strict, number⟩ text) ∧
      (ModesAgree fun strict => readOperand ⟨strict, number⟩ text) :=
  ⟨fun text => .of_refines (refines_readRules text), fun _ text =>
    ⟨.of_refines (refines_readCondition text), .of_refines (refines_readAction text),
      .of_refines (refines_readOperand text)⟩⟩

/-- A rule with a selector inside a selector. -/
def nestedSelectorText : String :=
  "rule \"close\":\n" ++
  "  when children(child(State is \"New\").Title matches \"a|b\").State is \"Done\"\n" ++
  "  then set with notifications parent.State = \"Done\"\n"

/-- What is read of it. -/
def nestedSelectorRule : Rule where
  name := "close"
  guards :=
    let new := Condition.mk (.field (.mk .implicit "State" none)) .equal (.literal "New")
    let titled := Condition.mk (.field (.mk .child "Title" (some [new]))) .matching (.literal "a|b")
    [.mk (.field (.mk .children "State" (some [titled]))) .equal (.literal "Done")]
  actions := [⟨.set, .mk .parent "State" none, .literal "Done", ⟨some false, none⟩⟩]

/-- Strict reading accepts that rule, so lenient reading gives the same and drops nothing.  A text
without an operator is no condition in either mode. -/
theorem lenient_keeps_nested_selector :
    ((readRules true nestedSelectorText).result = .ok [nestedSelectorRule] ∧
      (readRules false nestedSelectorText).result = .ok [nestedSelectorRule] ∧
      (readRules false nestedSelectorText).notices = []) ∧
    (readCondition ⟨true, 3⟩ "me.Title".toList).result = .ok none ∧
      (readCondition ⟨false, 3⟩ "me.Title".toList).result = .ok none := by
  have hrules : (readRules true nestedSelectorText).result = .ok [nestedSelectorRule] := by
    decide +kernel
  have hnone : (readCondition ⟨true, 3⟩ "me.Title".toList).result = .ok none := by decide +kernel
  obtain ⟨hfiles, hpieces⟩ := strict_result_eq_lenient
  exact ⟨⟨hrules, (hfiles nestedSelectorText).1 _ hrules⟩, hnone,
    ((hpieces 3 "me.Title".toList).1.1 _ hnone).1⟩

end Cascade
