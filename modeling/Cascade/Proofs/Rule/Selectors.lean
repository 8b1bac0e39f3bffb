import Cascade.Proofs.Rule.Conditions
import Cascade.Proofs.Rule.Parts

/-!
# Selectors and the texts they are written as

A selector of a rule has been read from the parentheses of some operand text, in either mode.  Of
the pieces between the parentheses it keeps those that have the form of a condition, which is an
operator between two texts; strict reading has no others, and lenient reading drops them
(`KeepsConditions`).

Every selector of a rule is of this kind, at any depth (`selectorIn_of_mem_readRules`).  The
induction on the depth has to know that a reader never runs out of depth, for then it would take a
selector to have no conditions.  It does not, because the depth it begins with is the number of
opening parentheses in the text: what stands in parentheses has fewer (`count_selector_lt`), and no
part has more (`count_of_isInfix`).
-/

namespace Cascade

/-- Whether a piece has the form of a condition: an operator stands between two texts. -/
def hasConditionForm (piece : List Char) : Bool :=
  match findOperator piece with
  | none => false
  | some m => !((Text.trim m.before).isEmpty || (Text.trim m.after).isEmpty)

/-- The conditions that a mode of reading keeps of what stands in the parentheses of a selector: one
for each piece that has the form of a condition, in order. -/
def KeepsConditions (strict : Bool) (inner : List Char) (conditions : List Condition) : Prop :=
  List.Forall₂ (fun piece c => ∃ (r : Reading) (depth : Nat), r.strict = strict ∧
      (readConditionWith (readOperandWithin r depth) r piece).result = .ok (some c))
    ((splitConditions inner).filter hasConditionForm) conditions

/-- An operand text with a selector, and the reference and the conditions that are read from it. -/
structure Reference.IsWrittenAs (strict : Bool) (r : Reference) (conditions : List Condition)
    (written inner : List Char) : Prop where
  selector : selectorText? written = some inner
  parts : ∃ field, written = r.scope.word.toList ++ '(' :: (inner ++ ')' :: '.' :: field) ∧
    r.name = String.ofList (Text.trim field)
  keeps : KeepsConditions strict inner conditions

/-- The selector of an operand, if it has one, is written in one of these texts or in the selector
of one.  Only children are selected, and in strict mode a selector has conditions. -/
def Operand.SelectorIn (strict : Bool) (texts : List (List Char)) : Operand → Prop
  | .literal _ => True
  | .field r => ∀ conditions, r.selector = some conditions →
    (r.scope = .child ∨ r.scope = .children) ∧ (strict = true → conditions ≠ []) ∧
      ∃ written inner, OperandTextIn texts written ∧ r.IsWrittenAs strict conditions written inner

variable {r : Reading} {strict : Bool} {texts more : List (List Char)}

lemma Operand.SelectorIn.mono {op : Operand} (h : op.SelectorIn strict texts)
    (hsub : ∀ s ∈ texts, OperandTextIn more s) : op.SelectorIn strict more := by
  cases op with
  | literal _ => trivial
  | field ref =>
    intro conditions hconditions
    obtain ⟨hscope, hne, written, inner, hin, hwritten⟩ := h conditions hconditions
    exact ⟨hscope, hne, written, inner, hin.mono hsub, hwritten⟩

lemma Operand.SelectorIn.of_mem {op : Operand} {s : List Char} (h : op.SelectorIn strict [s])
    (hs : s ∈ texts) : op.SelectorIn strict texts := by
  refine h.mono fun t ht => .here ?_
  rwa [List.mem_singleton.mp ht]

/-! ## Pieces that have the form of a condition -/

/-- Whatever comes of the operands, a piece gives a condition just if it has the form of one. -/
lemma isSome_of_readConditionWith {readOperand : List Char → Read Operand} {piece : List Char}
    {found : Option Condition} (h : (readConditionWith readOperand r piece).result = .ok found) :
    found.isSome = hasConditionForm piece := by
  unfold readConditionWith at h
  unfold hasConditionForm
  cases hm : findOperator piece with
  | none =>
    rw [hm] at h
    obtain rfl := Except.ok.inj h
    rfl
  | some m =>
    rw [hm] at h
    dsimp only at h ⊢
    split at h
    · next hsides =>
      obtain rfl := Except.ok.inj h
      rw [hsides]
      rfl
    · next hsides =>
      obtain ⟨right, -, h⟩ := Logged.result_bind_eq_ok.mp h
      obtain ⟨u, -, h⟩ := Logged.result_bind_eq_ok.mp h
      obtain ⟨left, -, h⟩ := Logged.result_bind_eq_ok.mp h
      obtain rfl := Except.ok.inj h
      simpa using hsides

/-- Where a reading that may give nothing is decided by a test, what it gives stands side by side
with the pieces that pass the test. -/
lemma forall₂_filter_filterMap {α β : Type} {R : α → Option β → Prop} {S : α → β → Prop}
    {test : α → Bool} {pieces : List α} {found : List (Option β)}
    (hall : List.Forall₂ R pieces found)
    (h : ∀ piece found?, R piece found? →
      found?.isSome = test piece ∧ ∀ b, found? = some b → S piece b) :
    List.Forall₂ S (pieces.filter test) (found.filterMap id) := by
  induction hall with
  | nil => exact .nil
  | @cons piece found? pieces found hpiece _ ih =>
    obtain ⟨htest, hS⟩ := h piece found? hpiece
    cases found? with
    | none =>
      rw [List.filter_cons_of_neg (by simp [← htest])]
      simpa using ih
    | some b =>
      rw [List.filter_cons_of_pos (by simp [← htest])]
      simpa using ⟨hS b rfl, ih⟩

lemma keepsConditions_of_read {depth : Nat} {inner : List Char} {conditions : List Condition}
    (h : (readConditionsWith (readOperandWithin r depth) r inner).result = .ok conditions) :
    KeepsConditions r.strict inner conditions := by
  obtain ⟨found, hall, rfl, -⟩ := Reading.readPieces_eq_ok h
  refine forall₂_filter_filterMap hall fun piece found? hpiece => ?_
  refine ⟨isSome_of_readConditionWith hpiece, ?_⟩
  rintro c rfl
  exact ⟨r, depth, rfl, hpiece⟩

/-- A selector keeps no condition just if no piece has the form of one. -/
lemma KeepsConditions.eq_nil_iff {inner : List Char} {conditions : List Condition}
    (h : KeepsConditions strict inner conditions) :
    conditions = [] ↔ ∀ piece ∈ splitConditions inner, hasConditionForm piece = false := by
  have hlength := h.length_eq
  rw [← List.length_eq_zero_iff, ← hlength, List.length_eq_zero_iff, List.filter_eq_nil_iff]
  simp only [Bool.not_eq_true]

/-! ## Opening parentheses -/

lemma count_of_isInfix {part text : List Char} (h : part <:+: text) :
    part.count '(' ≤ text.count '(' :=
  h.sublist.count_le '('

/-- What stands in the parentheses of a selector has fewer opening parentheses than the operand. -/
lemma count_selector_lt {scope scope' : Scope} {start : Nat} {text : List Char}
    {parts : SelectorParts} (hs : selectorScope? text = some (scope, start))
    (h : selectorParts? scope' start text = some parts) :
    parts.conditions.count '(' < text.count '(' := by
  obtain ⟨-, -, rest, -, -, htext, -⟩ := selectorParts?_eq_some hs h
  rw [htext, List.count_append, List.count_cons_self, List.count_append]
  omega

/-! ## Selectors of operands and conditions -/

lemma selectorIn_readConditionsWith {depth : Nat} {text : List Char} {cs : List Condition}
    (hdepth : text.count '(' ≤ depth)
    (hop : ∀ s op, s.count '(' ≤ depth → Text.trim s = s →
      (readOperandWithin r depth s).result = .ok op → ∀ o ∈ op.operands, o.SelectorIn r.strict [s])
    (h : (readConditionsWith (readOperandWithin r depth) r text).result = .ok cs) :
    ∀ o ∈ conditionOperands cs, o.SelectorIn r.strict (conditionsSides text) := by
  intro o ho
  rw [conditionOperands_eq_flatMap] at ho
  obtain ⟨c, hc, ho⟩ := List.mem_flatMap.mp ho
  obtain ⟨piece, hpiece, hread⟩ := Reading.exists_piece_of_mem h hc
  obtain ⟨m, left, right, hm, -, -, hleft, hright, -, rfl⟩ := readConditionWith_eq_some hread
  obtain ⟨hbefore, hafter⟩ := findOperator_parts hm
  have hside {s : List Char} (hs : s ∈ [Text.trim m.before, Text.trim m.after]) :
      s ∈ conditionsSides text :=
    List.mem_flatMap.mpr ⟨piece, hpiece, by rwa [conditionSides, hm]⟩
  have hcount {s : List Char} (hs : s <:+: piece) : (Text.trim s).count '(' ≤ depth := by
    have hpart := (Text.trim_isInfix s).trans (hs.trans (isPart_of_mem_splitConditions hpiece).1)
    exact (count_of_isInfix hpart).trans hdepth
  rw [Condition.operands] at ho
  rcases List.mem_append.mp ho with ho | ho
  · exact (hop _ _ (hcount hbefore) (Text.trim_trim _) hleft o ho).of_mem (hside (by simp))
  · exact (hop _ _ (hcount hafter) (Text.trim_trim _) hright o ho).of_mem (hside (by simp))

/-- The step from one depth to the next.  A reader whose depth is used up meets no selector. -/
lemma selectorIn_readOperandWith {readInner : List Char → Read (List Condition)} {s : List Char}
    {op : Operand}
    (hinner : ∀ text cs, text.count '(' < s.count '(' → (readInner text).result = .ok cs →
      KeepsConditions r.strict text cs ∧
        ∀ o ∈ conditionOperands cs, o.SelectorIn r.strict (conditionsSides text))
    (hs : Text.trim s = s) (h : (readOperandWith readInner r s).result = .ok op) :
    ∀ o ∈ op.operands, o.SelectorIn r.strict [s] := by
  have hform := readOperandWith_eq_ok h
  rw [hs] at hform
  cases hform with
  | literal _ =>
    intro o ho
    obtain rfl := List.mem_singleton.mp ho
    trivial
  | qualified _ _ _ _ | implicit _ _ _ _ =>
    intro o ho
    obtain rfl := List.mem_singleton.mp ho
    exact nofun
  | @selector scope start parts conditions hl hscope hparts hread hne =>
    have htext : selectorText? s = some parts.conditions := by
      simp [selectorText?, hl, hscope, hparts]
    obtain ⟨hkeeps, hconditions⟩ := hinner _ _ (count_selector_lt hscope hparts) hread
    obtain ⟨hmem, hsame, field, -, hfield, hwritten, -⟩ := selectorParts?_eq_some hscope hparts
    intro o ho
    rw [Operand.operands] at ho
    rcases List.mem_cons.mp ho with rfl | ho
    · intro cs hcs
      obtain rfl := Option.some.inj hcs
      rw [hsame, hfield]
      refine ⟨?_, hne, s, parts.conditions, .here (by simp), htext, ⟨field, hwritten, rfl⟩, hkeeps⟩
      rcases List.mem_pair.mp hmem with rfl | rfl
      · exact .inr rfl
      · exact .inl rfl
    · exact (hconditions o ho).mono fun t ht => .inner (.here (by simp)) htext ht

/-- Selectors are written in the operand text, at every depth that suffices for it. -/
lemma selectorIn_readOperandWithin (depth : Nat) (s : List Char) (op : Operand)
    (hdepth : s.count '(' ≤ depth) (hs : Text.trim s = s)
    (h : (readOperandWithin r depth s).result = .ok op) :
    ∀ o ∈ op.operands, o.SelectorIn r.strict [s] := by
  induction depth generalizing s op with
  | zero => exact selectorIn_readOperandWith (fun text cs hlt _ => by omega) hs h
  | succ depth ih =>
    refine selectorIn_readOperandWith (fun text cs hlt hcs => ?_) hs h
    exact ⟨keepsConditions_of_read hcs, selectorIn_readConditionsWith (by omega) ih hcs⟩

lemma selectorIn_readConditions {text : List Char} {cs : List Condition}
    (h : (readConditions r text).result = .ok cs) :
    ∀ o ∈ conditionOperands cs, o.SelectorIn r.strict (conditionsSides text) :=
  selectorIn_readConditionsWith (Nat.le_refl _) (selectorIn_readOperandWithin _) h

/-! ## Selectors of actions and rules -/

lemma selectorIn_readAction {piece : List Char} {a : Action}
    (h : (readAction r piece).result = .ok (some a)) :
    ∀ o ∈ a.operands, o.SelectorIn r.strict (actionSides piece) := by
  obtain ⟨rest, body, target, hhead, hoptions, hbody, htarget⟩ := readAction_eq_some h
  have hsides : actionSides piece = bodySides a.kind body := by
    simp only [actionSides, hhead, readOptions_eq_ok_of hoptions]
  rw [hsides, Action.operands]
  -- what is read as the target, wherever its text stands
  have hread (ht : Text.trim target = target) (hside : target ∈ bodySides a.kind body) :
      ∀ o ∈ (Operand.field a.target).operands, o.SelectorIn r.strict (bodySides a.kind body) :=
    fun o ho =>
      (selectorIn_readOperandWithin _ target _ (Nat.le_refl _) ht htarget o ho).of_mem hside
  generalize a.kind = kind, a.value = value at hbody hread
  intro o ho
  cases hbody with
  | @set before after operand hcut _ _ hvalue =>
    have hmem {s : List Char} (hs : s ∈ [Text.trim after, Text.trim before]) :
        s ∈ bodySides .set body := by rwa [bodySides, hcut]
    rcases List.mem_append.mp ho with ho | ho
    · have hselector :=
        selectorIn_readOperandWithin _ _ _ (Nat.le_refl _) (Text.trim_trim _) hvalue o ho
      exact hselector.of_mem
        (hmem (by simp))
    · exact hread (Text.trim_trim _) (hmem (by simp)) o ho
  | @add value target hcut =>
    obtain ⟨-, -, behind, -, -, rfl⟩ := cutTagBody?_eq_some hcut
    rcases List.mem_append.mp ho with ho | ho
    · obtain rfl := List.mem_singleton.mp ho
      trivial
    · exact hread (Text.trim_trim behind) (by simp [bodySides, hcut]) o ho
  | @remove value target hcut =>
    obtain ⟨-, -, behind, -, -, rfl⟩ := cutTagBody?_eq_some hcut
    rcases List.mem_append.mp ho with ho | ho
    · obtain rfl := List.mem_singleton.mp ho
      trivial
    · exact hread (Text.trim_trim behind) (by simp [bodySides, hcut]) o ho

lemma selectorIn_readBlock {next : Option SourceLine} {block : Block} {rule : Rule}
    (h : (readBlock strict next block).result = .ok rule) :
    ∀ o ∈ rule.operands, o.SelectorIn strict block.sides := by
  obtain ⟨name, clauses, -, -, hclauses, hguards, -, hactions, -⟩ := readBlock_eq_ok h
  have hsides : block.sides = conditionsSides clauses.conditions ++
      (splitActions clauses.actions).flatMap actionSides := by
    simp only [Block.sides, hclauses]
  intro o ho
  rw [hsides]
  rcases List.mem_append.mp ho with ho | ho
  · exact (selectorIn_readConditions hguards o ho).mono fun s hs =>
      .here (List.mem_append_left _ hs)
  · obtain ⟨a, ha, ho⟩ := List.mem_flatMap.mp ho
    obtain ⟨piece, hpiece, hread⟩ := Reading.exists_piece_of_mem hactions ha
    exact (selectorIn_readAction hread o ho).mono fun s hs =>
      .here (List.mem_append_right _ (List.mem_flatMap.mpr ⟨piece, hpiece, hs⟩))

/-- The selectors of rules that have been read are written in the file, in either mode. -/
lemma selectorIn_of_mem_readRules {text : String} {rules : List Rule}
    (h : (readRules strict text).result = .ok rules) {rule : Rule} (hrule : rule ∈ rules) :
    ∀ o ∈ rule.operands, o.SelectorIn strict
      ((splitBlocks (significantLines text.toList)).2.flatMap Block.sides) := by
  obtain ⟨block, hmem, next, hblock⟩ := exists_left_of_mem (readRules_eq_ok h).2 hrule
  intro o ho
  exact (selectorIn_readBlock hblock o ho).mono fun s hs =>
    .here (List.mem_flatMap.mpr ⟨block, hmem, hs⟩)

end Cascade
