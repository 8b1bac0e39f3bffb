import Mathlib.Tactic.Lemma
import Cascade.Rule.Reader

/-!
# Line numbers are carried along

Readers put line numbers into errors and notices and never look at them.  So reading lines under
other numbers is the same as reading them and changing the numbers afterwards in what has come out
(`Read.renumber`).  The statement is closed under the steps of a reading (`Read.bind_eq_renumber`),
so every reader inherits it from the readers it calls; the depth of selectors is the one induction
(`readOperandWithin_renumber`).

A rule file is read from its lines, and the result is `readLines_renumber`.  In particular the rules
of lines do not depend on where in a file the lines stand (`readLines_renumber_eq_ok`).
-/

namespace Cascade

/-! ## Changing numbers -/

/-- The error, placed on another line. -/
def SyntaxError.renumber (f : Int → Int) (e : SyntaxError) : SyntaxError :=
  { e with number := f e.number }

/-- The error, placed on another line if it has a place. -/
def ReadError.renumber (f : Int → Int) : ReadError → ReadError
  | .rejected e => .rejected (e.renumber f)
  | .refusedPattern refusal => .refusedPattern refusal

/-- The notice, placed on another line if it has a place. -/
def Notice.renumber (f : Int → Int) : Notice → Notice
  | .skippedLine number line => .skippedLine (f number) line
  | .droppedText clause number text => .droppedText clause (f number) text
  | .unusablePattern pattern reason => .unusablePattern pattern reason
  | .removalOutsideTags field => .removalOutsideTags field

/-- The same text, read as one that begins on another line. -/
def Reading.renumber (f : Int → Int) (r : Reading) : Reading := { r with number := f r.number }

/-- The same line under another number. -/
def SourceLine.renumber (g : Nat → Nat) (line : SourceLine) : SourceLine :=
  { line with number := g line.number }

/-- The same block under other numbers. -/
def Block.renumber (g : Nat → Nat) (block : Block) : Block :=
  ⟨block.header.renumber g, block.body.map (SourceLine.renumber g)⟩

@[simp] lemma SourceLine.text_renumber (g : Nat → Nat) (line : SourceLine) :
    (line.renumber g).text = line.text := rfl

@[simp] lemma Reading.strict_renumber (f : Int → Int) (r : Reading) :
    (r.renumber f).strict = r.strict := rfl

namespace Read

variable {f : Int → Int} {α β : Type}

/-- The same reading with other numbers in its error and its notices. -/
def renumber (f : Int → Int) (x : Read α) : Read α :=
  ⟨x.result.mapError (ReadError.renumber f), x.notices.map (Notice.renumber f)⟩

/-- Rules, or whatever else is read, bear no numbers. -/
lemma result_renumber_eq_ok {x : Read α} {a : α} :
    (renumber f x).result = .ok a ↔ x.result = .ok a := by
  obtain ⟨result, notices⟩ := x
  cases result with
  | error e => exact iff_of_false nofun nofun
  | ok b => exact Iff.rfl

/-- Numbers may be changed step by step. -/
lemma bind_eq_renumber {x x' : Read α} {g g' : α → Read β} (hx : x' = renumber f x)
    (hg : ∀ a, g' a = renumber f (g a)) : x' >>= g' = renumber f (x >>= g) := by
  obtain ⟨result, notices⟩ := x
  subst hx
  cases result with
  | error e => rfl
  | ok a =>
    have hbind : (⟨.ok a, notices⟩ : Read α) >>= g = ⟨(g a).result, notices ++ (g a).notices⟩ := rfl
    have hbind' : renumber f ⟨.ok a, notices⟩ >>= g' =
        ⟨(g' a).result, notices.map (Notice.renumber f) ++ (g' a).notices⟩ := rfl
    rw [hbind, hbind', hg]
    simp [renumber]

end Read

variable {f : Int → Int} {r : Reading}

open Read (bind_eq_renumber)

/-! ## Pieces, operands and conditions -/

lemma unrecognised_renumber (clause : Clause) (text : List Char) :
    (r.renumber f).unrecognised clause text = Read.renumber f (r.unrecognised clause text) := by
  unfold Reading.unrecognised
  rw [Reading.strict_renumber]
  split <;> rfl

lemma readPieces_renumber {α : Type} (clause : Clause)
    {readPiece readPiece' : List Char → Read (Option α)}
    (h : ∀ piece, readPiece' piece = Read.renumber f (readPiece piece))
    (pieces : List (List Char)) :
    (r.renumber f).readPieces clause readPiece' pieces =
      Read.renumber f (r.readPieces clause readPiece pieces) := by
  induction pieces with
  | nil => rfl
  | cons piece pieces ih =>
    refine bind_eq_renumber (h piece) fun found => ?_
    cases found with
    | some a => exact bind_eq_renumber ih fun rest => rfl
    | none => exact bind_eq_renumber (unrecognised_renumber clause piece) fun _ => ih

lemma readPlainOperand_renumber (text : List Char) :
    readPlainOperand (r.renumber f) text = Read.renumber f (readPlainOperand r text) := by
  unfold readPlainOperand
  rw [Reading.strict_renumber]
  dsimp only
  split
  · rfl
  · split <;> rfl

lemma readOperandWith_renumber {readInner readInner' : List Char → Read (List Condition)}
    (h : ∀ text, readInner' text = Read.renumber f (readInner text)) (text : List Char) :
    readOperandWith readInner' (r.renumber f) text =
      Read.renumber f (readOperandWith readInner r text) := by
  unfold readOperandWith
  rw [Reading.strict_renumber]
  dsimp only
  split
  · rfl
  · split
    · exact readPlainOperand_renumber _
    · split
      · next parts _ =>
        refine bind_eq_renumber (h parts.conditions) fun conditions => ?_
        split <;> rfl
      · split
        · rfl
        · exact readPlainOperand_renumber _

lemma checkRight_renumber (text : List Char) (comparison : Comparison) (right : Operand) :
    checkRight (r.renumber f) text comparison right =
      Read.renumber f (checkRight r text comparison right) := by
  unfold checkRight checkPattern
  cases right with
  | field _ => rfl
  | literal pattern =>
    dsimp only
    split
    · split <;> rfl
    · rfl

lemma readConditionWith_renumber {readOperand readOperand' : List Char → Read Operand}
    (h : ∀ text, readOperand' text = Read.renumber f (readOperand text)) (text : List Char) :
    readConditionWith readOperand' (r.renumber f) text =
      Read.renumber f (readConditionWith readOperand r text) := by
  unfold readConditionWith
  split
  · rfl
  · next m _ =>
    dsimp only
    split
    · rfl
    · exact bind_eq_renumber (h _) fun right =>
        bind_eq_renumber (checkRight_renumber text m.comparison right) fun _ =>
          bind_eq_renumber (h _) fun left => rfl

lemma readConditionsWith_renumber {readOperand readOperand' : List Char → Read Operand}
    (h : ∀ text, readOperand' text = Read.renumber f (readOperand text)) (text : List Char) :
    readConditionsWith readOperand' (r.renumber f) text =
      Read.renumber f (readConditionsWith readOperand r text) :=
  readPieces_renumber .condition (readConditionWith_renumber h) (splitConditions text)

/-- Operands are read alike at every depth of selectors: one level deeper, the conditions of a
selector are read by readers of which it is known already. -/
lemma readOperandWithin_renumber (depth : Nat) (text : List Char) :
    readOperandWithin (r.renumber f) depth text =
      Read.renumber f (readOperandWithin r depth text) := by
  induction depth generalizing text with
  | zero =>
    have hinner (inner : List Char) :
        (pure [] : Read (List Condition)) = Read.renumber f ((fun _ => pure []) inner) := rfl
    exact readOperandWith_renumber hinner text
  | succ depth ih => exact readOperandWith_renumber (readConditionsWith_renumber ih) text

lemma readConditions_renumber (text : List Char) :
    readConditions (r.renumber f) text = Read.renumber f (readConditions r text) :=
  readConditionsWith_renumber (readOperandWithin_renumber _) text

/-- The conditions of a text do not depend on the line where it begins. -/
lemma readConditions_eq_ok_iff {strict : Bool} (number number' : Int) {text : List Char}
    {conditions : List Condition} :
    (readConditions ⟨strict, number⟩ text).result = .ok conditions ↔
      (readConditions ⟨strict, number'⟩ text).result = .ok conditions := by
  have hnumber :
      (⟨strict, number⟩ : Reading) = Reading.renumber (fun _ => number) ⟨strict, number'⟩ :=
    rfl
  rw [hnumber, readConditions_renumber, Read.result_renumber_eq_ok]

/-! ## Actions -/

lemma readOptions_renumber (action body : List Char) :
    readOptions (r.renumber f) action body = Read.renumber f (readOptions r action body) := by
  unfold readOptions
  split
  · split
    · dsimp only
      split <;> rfl
    · rfl
  · rfl

lemma readBody_renumber (kind : ActionKind) (body : List Char) :
    readBody (r.renumber f) kind body = Read.renumber f (readBody r kind body) := by
  cases kind with
  | set =>
    unfold readBody
    dsimp only
    split
    · rfl
    · split
      · rfl
      · exact bind_eq_renumber (readOperandWithin_renumber _ _) fun value => rfl
  | add | remove => rfl

lemma readAction_renumber (text : List Char) :
    readAction (r.renumber f) text = Read.renumber f (readAction r text) := by
  unfold readAction
  split
  · rfl
  · next kind rest _ =>
    refine bind_eq_renumber (readOptions_renumber text rest) fun (options, body) => ?_
    refine bind_eq_renumber (readBody_renumber kind body) fun parts => ?_
    cases parts with
    | none => rfl
    | some parts =>
      refine bind_eq_renumber (readOperandWithin_renumber _ parts.2) fun target => ?_
      cases target with
      | field reference => rfl
      | literal value => rfl

lemma readActions_renumber (text : List Char) :
    readActions (r.renumber f) text = Read.renumber f (readActions r text) :=
  readPieces_renumber .action readAction_renumber (splitActions text)

/-- The actions of a text do not depend on the line where it begins. -/
lemma readActions_eq_ok_iff {strict : Bool} (number number' : Int) {text : List Char}
    {actions : List Action} :
    (readActions ⟨strict, number⟩ text).result = .ok actions ↔
      (readActions ⟨strict, number'⟩ text).result = .ok actions := by
  have hnumber :
      (⟨strict, number⟩ : Reading) = Reading.renumber (fun _ => number) ⟨strict, number'⟩ :=
    rfl
  rw [hnumber, readActions_renumber, Read.result_renumber_eq_ok]

/-! ## Rules

From here on the numbers are those of lines, so the change of numbers is one of natural numbers. -/

variable {g : Nat → Nat} {strict : Bool}

lemma rejectLine_renumber {α : Type} (hf : ∀ n : Nat, f n = g n) (fault : SyntaxFault)
    (line : SourceLine) :
    (rejectLine fault (line.renumber g) : Read α) = Read.renumber f (rejectLine fault line) := by
  have hnumber : ((line.renumber g).number : Int) = f line.number := (hf line.number).symm
  rw [rejectLine, hnumber]
  rfl

lemma joinClause_renumber (first : List Char) (lines : List SourceLine) :
    joinClause first (lines.map (SourceLine.renumber g)) = joinClause first lines := by
  rw [joinClause, joinClause, List.map_map]
  rfl

lemma splitBlocks_renumber (lines : List SourceLine) :
    splitBlocks (lines.map (SourceLine.renumber g)) =
      ((splitBlocks lines).1.map (SourceLine.renumber g),
        (splitBlocks lines).2.map (Block.renumber g)) := by
  induction lines with
  | nil => rfl
  | cons line lines ih =>
    rw [List.map_cons, splitBlocks, splitBlocks, ih, SourceLine.text_renumber]
    dsimp only
    split <;> rfl

/-- A block under other numbers is read alike. -/
lemma readBlock_renumber (hf : ∀ n : Nat, f n = g n) (next : Option SourceLine) (block : Block) :
    readBlock strict (next.map (SourceLine.renumber g)) (block.renumber g) =
      Read.renumber f (readBlock strict next block) := by
  have hreading (line : SourceLine) :
      (⟨strict, (line.renumber g).number⟩ : Reading) =
        Reading.renumber f ⟨strict, line.number⟩ := by
    rw [Reading.renumber, hf line.number]
    rfl
  obtain ⟨header, body⟩ := block
  unfold readBlock
  dsimp only [Block.renumber]
  rw [SourceLine.text_renumber]
  split
  · exact rejectLine_renumber hf _ header
  · next name _ =>
    cases body with
    | nil =>
      rw [List.map_nil]
      dsimp only
      rw [Option.getD_map]
      exact rejectLine_renumber hf _ _
    | cons whenLine lines =>
      rw [List.map_cons]
      dsimp only
      rw [SourceLine.text_renumber]
      split
      · exact rejectLine_renumber hf _ whenLine
      · next firstCondition _ =>
        rw [List.dropWhile_map, List.takeWhile_map]
        have hthen : (fun line : SourceLine => !(clause? "then" line.text).isSome) ∘
            SourceLine.renumber g = fun line => !(clause? "then" line.text).isSome := rfl
        rw [hthen]
        cases lines.dropWhile fun line => !(clause? "then" line.text).isSome with
        | nil =>
          rw [List.map_nil]
          dsimp only
          rw [List.getLast?_map, Option.getD_map, Option.getD_map]
          exact rejectLine_renumber hf _ _
        | cons thenLine actionLines =>
          rw [List.map_cons]
          dsimp only
          rw [joinClause_renumber, joinClause_renumber, SourceLine.text_renumber, hreading,
            hreading]
          refine bind_eq_renumber (readConditions_renumber _) fun guards => ?_
          split
          · exact rejectLine_renumber hf _ whenLine
          · refine bind_eq_renumber (readActions_renumber _) fun actions => ?_
            split
            · exact rejectLine_renumber hf _ thenLine
            · rfl

lemma readBlocks_renumber (hf : ∀ n : Nat, f n = g n) (blocks : List Block) :
    readBlocks strict (blocks.map (Block.renumber g)) =
      Read.renumber f (readBlocks strict blocks) := by
  induction blocks with
  | nil => rfl
  | cons block blocks ih =>
    have hnext : ((blocks.map (Block.renumber g)).head?.map Block.header) =
        (blocks.head?.map Block.header).map (SourceLine.renumber g) := by
      cases blocks <;> rfl
    rw [List.map_cons, readBlocks, hnext]
    exact bind_eq_renumber (readBlock_renumber hf _ block) fun rule =>
      bind_eq_renumber ih fun rules => rfl

lemma skipStray_renumber (hf : ∀ n : Nat, f n = g n) (lines : List SourceLine) :
    skipStray strict (lines.map (SourceLine.renumber g)) =
      Read.renumber f (skipStray strict lines) := by
  induction lines with
  | nil => rfl
  | cons line lines ih =>
    rw [List.map_cons, skipStray, skipStray]
    split
    · exact rejectLine_renumber hf _ line
    · refine bind_eq_renumber ?_ fun _ => ih
      rw [SourceLine.renumber, ← hf line.number]
      rfl

/-- **Line numbers are carried along.**  Reading lines under other numbers gives what reading them
gives, with those numbers in its error and its notices. -/
theorem readLines_renumber (hf : ∀ n : Nat, f n = g n) (lines : List SourceLine) :
    readLines strict (lines.map (SourceLine.renumber g)) =
      Read.renumber f (readLines strict lines) := by
  unfold readLines
  rw [splitBlocks_renumber]
  exact bind_eq_renumber (skipStray_renumber hf _) fun _ => readBlocks_renumber hf _

/-- The rules of lines are the same under all numbers. -/
lemma readLines_renumber_eq_ok {lines : List SourceLine} {rules : List Rule} :
    (readLines strict (lines.map (SourceLine.renumber g))).result = .ok rules ↔
      (readLines strict lines).result = .ok rules := by
  obtain ⟨f, hf⟩ : ∃ f : Int → Int, ∀ n : Nat, f n = g n := ⟨fun i => g i.toNat, fun _ => rfl⟩
  rw [readLines_renumber hf, Read.result_renumber_eq_ok]

end Cascade
