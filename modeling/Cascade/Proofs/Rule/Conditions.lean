import Cascade.Proofs.Rule.Operands

/-!
# The conditions of rules that have been read

`Rule.conditions` lists the conditions of a rule, its guards and those inside selectors at any
depth.  Whatever reading keeps, in either mode, has been read from some piece of the text by the one
reader of conditions (`isRead_of_mem_readRules`); a piece that lenient reading drops is in no rule.
So what that reader makes sure of holds of every condition of a rule, and what the reader of
operands makes sure of holds of both sides of it.  Other operands than these sides and the values
and targets of actions a rule does not have (`side_of_mem_operands`).

The one induction is that on the depth of selectors (`isRead_readOperandWithin`).
-/

namespace Cascade

/-! ## The conditions of a rule -/

mutual

/-- A condition with those in the selectors of its operands. -/
def Condition.conditions : Condition → List Condition
  | .mk left comparison right =>
    .mk left comparison right :: (left.conditions ++ right.conditions)

/-- The conditions in the selector of an operand. -/
def Operand.conditions : Operand → List Condition
  | .literal _ => []
  | .field (.mk _ _ none) => []
  | .field (.mk _ _ (some conditions)) => nestedConditions conditions

/-- Conditions with those in their selectors. -/
def nestedConditions : List Condition → List Condition
  | [] => []
  | c :: rest => c.conditions ++ nestedConditions rest

end

/-- The conditions in the selectors of an action. -/
def Action.conditions (a : Action) : List Condition :=
  a.value.conditions ++ (Operand.field a.target).conditions

/-- The conditions of a rule, at any depth of selectors. -/
def Rule.conditions (rule : Rule) : List Condition :=
  nestedConditions rule.guards ++ rule.actions.flatMap Action.conditions

lemma mem_nestedConditions {d : Condition} {cs : List Condition} :
    d ∈ nestedConditions cs ↔ ∃ c ∈ cs, d ∈ c.conditions := by
  induction cs with
  | nil => simp [nestedConditions]
  | cons c rest ih => simp [nestedConditions, ih]

/-- A condition that a reading in a mode has made of a piece of text. -/
def Condition.IsRead (strict : Bool) (c : Condition) : Prop :=
  ∃ (r : Reading) (depth : Nat) (piece : List Char), r.strict = strict ∧
    (readConditionWith (readOperandWithin r depth) r piece).result = .ok (some c)

/-! ## Readings make their conditions -/

variable {r : Reading}

lemma exists_left_of_mem {α β : Type} {R : α → β → Prop} {as : List α} {bs : List β} {b : β}
    (h : List.Forall₂ R as bs) (hb : b ∈ bs) : ∃ a ∈ as, R a b := by
  induction h with
  | nil => cases hb
  | @cons a _ as _ hab _ ih =>
    rcases List.mem_cons.mp hb with rfl | hb
    · exact ⟨a, List.mem_cons_self, hab⟩
    · obtain ⟨a', ha', hR⟩ := ih hb
      exact ⟨a', List.mem_cons_of_mem a ha', hR⟩

/-- Whatever is read from pieces has been read from one of them. -/
lemma Reading.exists_piece_of_mem {α : Type} {clause : Clause}
    {readPiece : List Char → Read (Option α)} {pieces : List (List Char)} {as : List α} {a : α}
    (h : (r.readPieces clause readPiece pieces).result = .ok as) (ha : a ∈ as) :
    ∃ piece ∈ pieces, (readPiece piece).result = .ok (some a) := by
  obtain ⟨found, hall, rfl, -⟩ := Reading.readPieces_eq_ok h
  obtain ⟨a?, hmem, rfl⟩ : ∃ a? ∈ found, a? = some a := by simpa using ha
  obtain ⟨piece, hpiece, hread⟩ := exists_left_of_mem hall hmem
  exact ⟨piece, hpiece, hread⟩

lemma isRead_readConditionsWith {depth : Nat} {text : List Char} {cs : List Condition}
    (hop : ∀ text op, (readOperandWithin r depth text).result = .ok op →
      ∀ d ∈ op.conditions, d.IsRead r.strict)
    (h : (readConditionsWith (readOperandWithin r depth) r text).result = .ok cs) :
    ∀ d ∈ nestedConditions cs, d.IsRead r.strict := by
  intro d hd
  obtain ⟨c, hc, hd⟩ := mem_nestedConditions.mp hd
  obtain ⟨piece, -, hpiece⟩ := Reading.exists_piece_of_mem h hc
  obtain ⟨m, left, right, -, -, -, hleft, hright, -, rfl⟩ := readConditionWith_eq_some hpiece
  rw [Condition.conditions, List.mem_cons, List.mem_append] at hd
  rcases hd with rfl | hd | hd
  · exact ⟨r, depth, piece, rfl, hpiece⟩
  · exact hop _ left hleft d hd
  · exact hop _ right hright d hd

lemma isRead_readOperandWith {readInner : List Char → Read (List Condition)}
    (hinner : ∀ text cs, (readInner text).result = .ok cs →
      ∀ d ∈ nestedConditions cs, d.IsRead r.strict)
    {text : List Char} {op : Operand} (h : (readOperandWith readInner r text).result = .ok op) :
    ∀ d ∈ op.conditions, d.IsRead r.strict := by
  cases readOperandWith_eq_ok h with
  | selector _ _ _ hconditions _ =>
    rw [Operand.conditions]
    exact hinner _ _ hconditions
  | literal | qualified | implicit =>
    rw [Operand.conditions]
    exact nofun

/-- The conditions in an operand have been read, at every depth of selectors. -/
lemma isRead_readOperandWithin (depth : Nat) (text : List Char) (op : Operand)
    (h : (readOperandWithin r depth text).result = .ok op) :
    ∀ d ∈ op.conditions, d.IsRead r.strict := by
  induction depth generalizing text op with
  | zero =>
    refine isRead_readOperandWith (fun _ cs hcs => ?_) h
    obtain rfl : [] = cs := by simpa using hcs
    exact nofun
  | succ depth ih =>
    exact isRead_readOperandWith (fun _ _ hcs => isRead_readConditionsWith ih hcs) h

lemma isRead_readAction {piece : List Char} {a : Action}
    (h : (readAction r piece).result = .ok (some a)) : ∀ d ∈ a.conditions, d.IsRead r.strict := by
  obtain ⟨rest, body, target, -, -, hbody, htarget⟩ := readAction_eq_some h
  have hvalue : ∀ d ∈ a.value.conditions, d.IsRead r.strict := by
    generalize a.kind = kind, a.value = value at hbody
    cases hbody with
    | set _ _ _ hread => exact isRead_readOperandWithin _ _ _ hread
    | add | remove =>
      rw [Operand.conditions]
      exact nofun
  intro d hd
  rcases List.mem_append.mp hd with hd | hd
  · exact hvalue d hd
  · exact isRead_readOperandWithin _ _ _ htarget d hd

lemma isRead_readBlock {strict : Bool} {next : Option SourceLine} {block : Block} {rule : Rule}
    (h : (readBlock strict next block).result = .ok rule) :
    ∀ d ∈ rule.conditions, d.IsRead strict := by
  obtain ⟨-, clauses, -, -, -, hguards, -, hactions, -⟩ := readBlock_eq_ok h
  intro d hd
  rcases List.mem_append.mp hd with hd | hd
  · exact isRead_readConditionsWith (isRead_readOperandWithin _) hguards d hd
  · obtain ⟨a, ha, hd⟩ := List.mem_flatMap.mp hd
    obtain ⟨piece, -, hpiece⟩ := Reading.exists_piece_of_mem hactions ha
    exact isRead_readAction hpiece d hd

/-- The conditions of rules that have been read have each been read, in the same mode and at any
depth of selectors. -/
lemma isRead_of_mem_readRules {strict : Bool} {text : String} {rules : List Rule}
    (h : (readRules strict text).result = .ok rules) {rule : Rule} (hrule : rule ∈ rules)
    {c : Condition} (hc : c ∈ rule.conditions) : c.IsRead strict := by
  obtain ⟨block, -, next, hblock⟩ := exists_left_of_mem (readRules_eq_ok h).2 hrule
  exact isRead_readBlock hblock c hc

/-! ## The places of operands -/

/-- An operand is a side of a condition. -/
def Condition.HasSide (op : Operand) (c : Condition) : Prop := op = c.left ∨ op = c.right

mutual

/-- Inside an operand, other operands are sides of conditions in its selector. -/
theorem side_of_mem_operand : (o : Operand) → ∀ op ∈ o.operands,
    op = o ∨ ∃ c ∈ o.conditions, c.HasSide op
  | .literal _ => by
    rw [Operand.operands]
    exact fun op hop => .inl (List.mem_singleton.mp hop)
  | .field (.mk _ _ none) => by
    rw [Operand.operands]
    exact fun op hop => .inl (List.mem_singleton.mp hop)
  | .field (.mk _ _ (some conditions)) => by
    rw [Operand.operands, Operand.conditions]
    intro op hop
    exact (List.mem_cons.mp hop).imp_right (side_of_mem_conditions conditions op)

/-- The operands of a condition are its sides and those of the conditions in its selectors. -/
theorem side_of_mem_condition : (c : Condition) → ∀ op ∈ c.operands,
    ∃ d ∈ c.conditions, d.HasSide op
  | .mk left comparison right => by
    rw [Condition.operands, Condition.conditions]
    intro op hop
    rcases List.mem_append.mp hop with hop | hop
    · rcases side_of_mem_operand left op hop with rfl | ⟨d, hd, hside⟩
      · exact ⟨_, List.mem_cons_self, .inl rfl⟩
      · exact ⟨d, by simp [hd], hside⟩
    · rcases side_of_mem_operand right op hop with rfl | ⟨d, hd, hside⟩
      · exact ⟨_, List.mem_cons_self, .inr rfl⟩
      · exact ⟨d, by simp [hd], hside⟩

/-- The operands of conditions are sides of theirs and of those in their selectors. -/
theorem side_of_mem_conditions : (cs : List Condition) → ∀ op ∈ conditionOperands cs,
    ∃ d ∈ nestedConditions cs, d.HasSide op
  | [] => by
    rw [conditionOperands]
    exact nofun
  | c :: rest => by
    rw [conditionOperands, nestedConditions]
    intro op hop
    rcases List.mem_append.mp hop with hop | hop
    · obtain ⟨d, hd, hside⟩ := side_of_mem_condition c op hop
      exact ⟨d, List.mem_append_left _ hd, hside⟩
    · obtain ⟨d, hd, hside⟩ := side_of_mem_conditions rest op hop
      exact ⟨d, List.mem_append_right _ hd, hside⟩

end

/-- The operands of a rule are the sides of its conditions and the values and targets of its
actions. -/
lemma side_of_mem_operands {rule : Rule} {op : Operand} (h : op ∈ rule.operands) :
    (∃ c ∈ rule.conditions, c.HasSide op) ∨
      ∃ a ∈ rule.actions, op = a.value ∨ op = .field a.target := by
  rw [Rule.conditions]
  rcases List.mem_append.mp h with h | h
  · obtain ⟨c, hc, hside⟩ := side_of_mem_conditions rule.guards op h
    exact .inl ⟨c, List.mem_append_left _ hc, hside⟩
  · obtain ⟨a, ha, h⟩ := List.mem_flatMap.mp h
    have hinner {o : Operand} (hsub : ∀ c ∈ o.conditions, c ∈ a.conditions) (h : op ∈ o.operands) :
        op = o ∨ ∃ c ∈ rule.actions.flatMap Action.conditions, c.HasSide op :=
      (side_of_mem_operand o op h).imp_right fun ⟨c, hc, hside⟩ =>
        ⟨c, List.mem_flatMap.mpr ⟨a, ha, hsub c hc⟩, hside⟩
    rcases List.mem_append.mp h with h | h
    · rcases hinner (fun c hc => List.mem_append_left _ hc) h with hop | ⟨c, hc, hside⟩
      · exact .inr ⟨a, ha, .inl hop⟩
      · exact .inl ⟨c, List.mem_append_right _ hc, hside⟩
    · rcases hinner (fun c hc => List.mem_append_right _ hc) h with hop | ⟨c, hc, hside⟩
      · exact .inr ⟨a, ha, .inr hop⟩
      · exact .inl ⟨c, List.mem_append_right _ hc, hside⟩

end Cascade
