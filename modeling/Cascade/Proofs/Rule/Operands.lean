import Cascade.Proofs.Rule.Reading
import Cascade.Proofs.Text.Trim

/-!
# The operands of rules and the texts they are written as

`Rule.operands` lists every operand of a rule: those of its conditions and actions, and inside
selectors at any depth.  `OperandText` holds of every text of a rule file that stands in the place
of an operand, again at any depth: on either side of an operator or an equals sign, as the literal
or the target of a tag action.

In strict mode nothing is dropped, so the two correspond: every operand of the rules is what one of
these texts is read as, and every one of these texts is read as one of the operands
(`corresponds_readRules`).
-/

namespace Cascade

/-! ## The operands of a rule -/

mutual

/-- An operand with those in its selector. -/
def Operand.operands : Operand → List Operand
  | .literal text => [.literal text]
  | .field (.mk scope name none) => [.field (.mk scope name none)]
  | .field (.mk scope name (some conditions)) =>
    .field (.mk scope name (some conditions)) :: conditionOperands conditions

/-- The operands of a condition. -/
def Condition.operands : Condition → List Operand
  | .mk left _ right => left.operands ++ right.operands

/-- The operands of conditions. -/
def conditionOperands : List Condition → List Operand
  | [] => []
  | c :: rest => c.operands ++ conditionOperands rest

end

/-- The operands of an action. -/
def Action.operands (a : Action) : List Operand :=
  a.value.operands ++ (Operand.field a.target).operands

/-- The operands of a rule. -/
def Rule.operands (rule : Rule) : List Operand :=
  conditionOperands rule.guards ++ rule.actions.flatMap Action.operands

lemma conditionOperands_eq_flatMap (cs : List Condition) :
    conditionOperands cs = cs.flatMap Condition.operands := by
  induction cs with
  | nil => rfl
  | cons c rest ih => rw [conditionOperands, ih, List.flatMap_cons]

/-! ## Texts in the places of operands -/

/-- The texts on the two sides of the operator of a condition. -/
def conditionSides (piece : List Char) : List (List Char) :=
  match findOperator piece with
  | some m => [Text.trim m.before, Text.trim m.after]
  | none => []

/-- The operand texts of conditions, selectors left alone. -/
def conditionsSides (text : List Char) : List (List Char) :=
  (splitConditions text).flatMap conditionSides

/-- A literal in its quotes. -/
def quotedLiteral (value : List Char) : List Char := '"' :: (value ++ ['"'])

/-- The operand texts of the body of an action, selectors left alone. -/
def bodySides (kind : ActionKind) (body : List Char) : List (List Char) :=
  match kind with
  | .set =>
    match cutEquals? .outside body with
    | some (target, value) => [Text.trim value, Text.trim target]
    | none => []
  | .add =>
    match cutTagBody? "to" body with
    | some (value, target) => [quotedLiteral value, target]
    | none => []
  | .remove =>
    match cutTagBody? "from" body with
    | some (value, target) => [quotedLiteral value, target]
    | none => []

/-- The operand texts of an action, selectors left alone. -/
def actionSides (piece : List Char) : List (List Char) :=
  match actionHead? piece with
  | none => []
  | some (kind, rest) =>
    match (readOptions ⟨true, 0⟩ piece rest).result with
    | .ok (_, body) => bodySides kind body
    | .error _ => []

/-- The operand texts of a block, selectors left alone. -/
def Block.sides (block : Block) : List (List Char) :=
  match block.clauses? with
  | some clauses =>
    conditionsSides clauses.conditions ++ (splitActions clauses.actions).flatMap actionSides
  | none => []

/-- The conditions in the selector of an operand text, if it has the form of a selector. -/
def selectorText? (text : List Char) : Option (List Char) :=
  if (literal? text).isSome then none
  else
    (selectorScope? text).bind fun (scope, start) =>
      (selectorParts? scope start text).map SelectorParts.conditions

/-- The operand texts that lie in given ones: themselves and those in their selectors. -/
inductive OperandTextIn (texts : List (List Char)) : List Char → Prop
  | here {t : List Char} : t ∈ texts → OperandTextIn texts t
  | inner {s conditions t : List Char} : OperandTextIn texts s →
      selectorText? s = some conditions → t ∈ conditionsSides conditions → OperandTextIn texts t

/-- The texts of a rule file in the places of operands, at any depth of selectors. -/
def OperandText (text : String) : List Char → Prop :=
  OperandTextIn ((splitBlocks (significantLines text.toList)).2.flatMap Block.sides)

/-! ## Taking operand texts apart -/

lemma OperandTextIn.mono {texts more : List (List Char)} {t : List Char}
    (h : OperandTextIn texts t) (hsub : ∀ s ∈ texts, OperandTextIn more s) :
    OperandTextIn more t := by
  induction h with
  | here ht => exact hsub _ ht
  | inner _ hs ht ih => exact .inner ih hs ht

lemma operandTextIn_iff_exists {texts : List (List Char)} {t : List Char} :
    OperandTextIn texts t ↔ ∃ s ∈ texts, OperandTextIn [s] t := by
  constructor
  · intro h
    induction h with
    | here ht => exact ⟨_, ht, .here (by simp)⟩
    | inner _ hs ht ih =>
      obtain ⟨s, hmem, hin⟩ := ih
      exact ⟨s, hmem, .inner hin hs ht⟩
  · rintro ⟨s, hs, h⟩
    exact h.mono fun s' hs' => by
      rw [List.mem_singleton.mp hs']
      exact .here hs

/-- An operand text in one text is that text or lies in its selector. -/
lemma operandTextIn_singleton {s t : List Char} :
    OperandTextIn [s] t ↔
      t = s ∨ ∃ conditions, selectorText? s = some conditions ∧
        OperandTextIn (conditionsSides conditions) t := by
  constructor
  · intro h
    induction h with
    | here ht => exact .inl (List.mem_singleton.mp ht)
    | inner _ hs ht ih =>
      rcases ih with rfl | ⟨conditions, hc, hin⟩
      · exact .inr ⟨_, hs, .here ht⟩
      · exact .inr ⟨conditions, hc, .inner hin hs ht⟩
  · rintro (rfl | ⟨conditions, hc, h⟩)
    · exact .here (by simp)
    · exact h.mono fun s' hs' => .inner (.here (by simp)) hc hs'

/-! ## Texts and operands correspond -/

variable {r : Reading}

/-- A trimmed text that is read as an operand in strict mode. -/
def ReadsAs (text : List Char) (op : Operand) : Prop :=
  Text.trim text = text ∧ ∃ (r : Reading) (readInner : List Char → Read (List Condition)),
    r.strict = true ∧ (readOperandWith readInner r text).result = .ok op

/-- Every operand is what some operand text in the texts is read as, and the other way round. -/
structure Corresponds (texts : List (List Char)) (ops : List Operand) : Prop where
  text_of_operand : ∀ op ∈ ops, ∃ t, OperandTextIn texts t ∧ ReadsAs t op
  operand_of_text : ∀ t, OperandTextIn texts t → ∃ op ∈ ops, ReadsAs t op

namespace Corresponds

lemma nil : Corresponds [] [] where
  text_of_operand := by simp
  operand_of_text t h := by
    obtain ⟨s, hs, -⟩ := operandTextIn_iff_exists.mp h
    simp at hs

lemma append {texts more : List (List Char)} {ops others : List Operand}
    (h : Corresponds texts ops) (h' : Corresponds more others) :
    Corresponds (texts ++ more) (ops ++ others) where
  text_of_operand op hop := by
    rcases List.mem_append.mp hop with hop | hop
    · obtain ⟨t, ht, hr⟩ := h.text_of_operand op hop
      exact ⟨t, ht.mono fun s hs => .here (List.mem_append_left _ hs), hr⟩
    · obtain ⟨t, ht, hr⟩ := h'.text_of_operand op hop
      exact ⟨t, ht.mono fun s hs => .here (List.mem_append_right _ hs), hr⟩
  operand_of_text t ht := by
    obtain ⟨s, hs, ht⟩ := operandTextIn_iff_exists.mp ht
    rcases List.mem_append.mp hs with hs | hs
    · obtain ⟨op, hop, hr⟩ := h.operand_of_text t (operandTextIn_iff_exists.mpr ⟨s, hs, ht⟩)
      exact ⟨op, List.mem_append_left _ hop, hr⟩
    · obtain ⟨op, hop, hr⟩ := h'.operand_of_text t (operandTextIn_iff_exists.mpr ⟨s, hs, ht⟩)
      exact ⟨op, List.mem_append_right _ hop, hr⟩

/-- Correspondence piece by piece is correspondence of the whole. -/
lemma flatMap {α β : Type} {R : α → β → Prop} {texts : α → List (List Char)}
    {ops : β → List Operand} {pieces : List α} {results : List β}
    (hall : List.Forall₂ R pieces results)
    (h : ∀ a b, R a b → Corresponds (texts a) (ops b)) :
    Corresponds (pieces.flatMap texts) (results.flatMap ops) := by
  induction hall with
  | nil => exact .nil
  | cons hab _ ih =>
    rw [List.flatMap_cons, List.flatMap_cons]
    exact (h _ _ hab).append ih

end Corresponds

/-- In strict mode the condition on both sides of an operator corresponds to its texts, if operands
do. -/
lemma corresponds_readConditionWith {readOperand : List Char → Read Operand} {piece : List Char}
    {c : Condition}
    (hop : ∀ s op, Text.trim s = s → (readOperand s).result = .ok op →
      Corresponds [s] op.operands)
    (h : (readConditionWith readOperand r piece).result = .ok (some c)) :
    Corresponds (conditionSides piece) c.operands := by
  obtain ⟨m, left, right, hm, -, -, hleft, hright, -, rfl⟩ := readConditionWith_eq_some h
  rw [conditionSides, hm, Condition.operands]
  exact (hop _ left (Text.trim_trim _) hleft).append (hop _ right (Text.trim_trim _) hright)

lemma corresponds_readConditionsWith {readOperand : List Char → Read Operand} {text : List Char}
    {cs : List Condition} (hr : r.strict = true)
    (hop : ∀ s op, Text.trim s = s → (readOperand s).result = .ok op →
      Corresponds [s] op.operands)
    (h : (readConditionsWith readOperand r text).result = .ok cs) :
    Corresponds (conditionsSides text) (conditionOperands cs) := by
  rw [conditionOperands_eq_flatMap]
  exact .flatMap (Reading.readPieces_strict hr h) fun _ _ h => corresponds_readConditionWith hop h

/-- An operand with its selector corresponds to its text: the step from one depth to the next. -/
lemma corresponds_readOperandWith {readInner : List Char → Read (List Condition)}
    (hr : r.strict = true)
    (hinner : ∀ text cs, cs ≠ [] → (readInner text).result = .ok cs →
      Corresponds (conditionsSides text) (conditionOperands cs))
    {s : List Char} {op : Operand} (hs : Text.trim s = s)
    (h : (readOperandWith readInner r s).result = .ok op) : Corresponds [s] op.operands := by
  have hreads : ReadsAs s op := ⟨hs, r, readInner, hr, h⟩
  have hform := readOperandWith_eq_ok h
  rw [hs] at hform
  -- The operand itself stands for the text `s`; what is left are the operands of a selector.
  have hplain : selectorText? s = none → op.operands = [op] → Corresponds [s] op.operands := by
    intro hnone hops
    rw [hops]
    refine ⟨fun op' hop' => ?_, fun t ht => ?_⟩
    · rw [List.mem_singleton.mp hop']
      exact ⟨s, .here (by simp), hreads⟩
    · rcases operandTextIn_singleton.mp ht with rfl | ⟨conditions, hc, -⟩
      · exact ⟨op, by simp, hreads⟩
      · simp [hnone] at hc
  cases hform with
  | literal hl => exact hplain (by simp [selectorText?, hl]) rfl
  | qualified hl hsel _ _ => exact hplain (by simp [selectorText?, hl, hsel hr]) rfl
  | implicit hl hsel _ _ => exact hplain (by simp [selectorText?, hl, hsel hr]) rfl
  | selector hl hsel hparts hc hne =>
    rename_i scope start parts conditions
    have htext : selectorText? s = some parts.conditions := by
      simp [selectorText?, hl, hsel, hparts]
    have hcorr := hinner _ _ (hne hr) hc
    rw [Operand.operands]
    refine ⟨fun op' hop' => ?_, fun t ht => ?_⟩
    · rcases List.mem_cons.mp hop' with rfl | hop'
      · exact ⟨s, .here (by simp), hreads⟩
      · obtain ⟨t, ht, hread⟩ := hcorr.text_of_operand op' hop'
        exact ⟨t, operandTextIn_singleton.mpr (.inr ⟨_, htext, ht⟩), hread⟩
    · rcases operandTextIn_singleton.mp ht with rfl | ⟨conditions', hc', hin⟩
      · exact ⟨_, List.mem_cons_self, hreads⟩
      · rw [htext, Option.some.injEq] at hc'
        subst hc'
        obtain ⟨op', hop', hread⟩ := hcorr.operand_of_text t hin
        exact ⟨op', List.mem_cons_of_mem _ hop', hread⟩

/-- At every depth of selectors an operand corresponds to its text. -/
lemma corresponds_readOperandWithin (hr : r.strict = true) (depth : Nat) :
    ∀ s op, Text.trim s = s → (readOperandWithin r depth s).result = .ok op →
      Corresponds [s] op.operands := by
  induction depth with
  | zero =>
    -- no conditions are read at depth zero, so a selector is an error
    intro s op hs h
    refine corresponds_readOperandWith hr (fun text cs hne hcs => ?_) hs h
    simp only [Logged.result_pure, Except.ok.injEq] at hcs
    exact absurd hcs.symm hne
  | succ depth ih =>
    intro s op hs h
    exact corresponds_readOperandWith hr
      (fun text cs _ hcs => corresponds_readConditionsWith hr ih hcs) hs h

/-! ## Actions -/

/-- What the options of an action are does not depend on how it is read. -/
lemma readOptions_eq_ok_of {r' : Reading} {action body rest : List Char} {o : Options}
    (h : (readOptions r action body).result = .ok (o, rest)) :
    (readOptions r' action body).result = .ok (o, rest) := by
  simp only [readOptions] at h ⊢
  match hw : Text.after? "with".toList body with
  | none => simpa only [hw] using h
  | some [] => simpa only [hw] using h
  | some (c :: tail) =>
    simp only [hw] at h ⊢
    by_cases hc : Text.isBlank c = true
    · by_cases ho : (optionWord? (Text.trimStart tail)).isSome = true
      · simpa only [hc, ho, if_true] using h
      · simp [hc, ho] at h
    · simpa only [hc, if_false, Bool.false_eq_true] using h

lemma isTrimmed_quotedLiteral (value : List Char) : Text.IsTrimmed (quotedLiteral value) := by
  have hq : Text.isBlank '"' = false := by decide
  refine ⟨fun c hc => ?_, fun c hc => ?_⟩
  · obtain rfl : '"' = c := by simpa [quotedLiteral] using hc
    exact hq
  · rw [quotedLiteral, ← List.cons_append, List.getLast?_concat, Option.some.injEq] at hc
    exact hc ▸ hq

/-- A literal in quotes is read back. -/
lemma literal?_quotedLiteral (value : List Char) :
    literal? (quotedLiteral value) = some (String.ofList value) := by
  simp [literal?, quotedLiteral]

lemma readOperandWith_quotedLiteral (readInner : List Char → Read (List Condition))
    (value : List Char) :
    readOperandWith readInner r (quotedLiteral value) =
      pure (.literal (String.ofList value)) := by
  simp only [readOperandWith, (isTrimmed_quotedLiteral value).trim_eq, literal?_quotedLiteral]

lemma corresponds_quotedLiteral (value : List Char) :
    Corresponds [quotedLiteral value] (Operand.literal (String.ofList value)).operands := by
  have hreads : ReadsAs (quotedLiteral value) (.literal (String.ofList value)) :=
    ⟨(isTrimmed_quotedLiteral value).trim_eq, ⟨true, 0⟩, fun _ => pure [], rfl, by
      rw [readOperandWith_quotedLiteral]
      rfl⟩
  rw [Operand.operands]
  refine ⟨fun op hop => ?_, fun t ht => ?_⟩
  · rw [List.mem_singleton.mp hop]
    exact ⟨_, .here (by simp), hreads⟩
  · rcases operandTextIn_singleton.mp ht with rfl | ⟨conditions, hc, -⟩
    · exact ⟨_, by simp, hreads⟩
    · simp [selectorText?, literal?_quotedLiteral] at hc

lemma corresponds_readAction (hr : r.strict = true) {piece : List Char} {a : Action}
    (h : (readAction r piece).result = .ok (some a)) :
    Corresponds (actionSides piece) a.operands := by
  obtain ⟨rest, body, target, hhead, hoptions, hbody, htarget⟩ := readAction_eq_some h
  have hsides : actionSides piece = bodySides a.kind body := by
    simp only [actionSides, hhead, readOptions_eq_ok_of hoptions]
  have htargetCorr (ht : Text.trim target = target) :
      Corresponds [target] (Operand.field a.target).operands :=
    corresponds_readOperandWithin hr _ target _ ht htarget
  rw [hsides, Action.operands]
  cases hkind : a.kind with
  | set =>
    rw [hkind] at hbody
    cases hbody with
    | set hcut _ _ hvalue =>
      simp only [bodySides, hcut]
      exact (corresponds_readOperandWithin hr _ _ _ (Text.trim_trim _) hvalue).append
        (htargetCorr (Text.trim_trim _))
  | add =>
    rw [hkind] at hbody
    generalize a.value = v at hbody
    cases hbody with
    | add hcut =>
      simp only [bodySides, hcut]
      obtain ⟨-, -, behind, -, -, rfl⟩ := cutTagBody?_eq_some hcut
      exact (corresponds_quotedLiteral _).append (htargetCorr (Text.trim_trim behind))
  | remove =>
    rw [hkind] at hbody
    generalize a.value = v at hbody
    cases hbody with
    | remove hcut =>
      simp only [bodySides, hcut]
      obtain ⟨-, -, behind, -, -, rfl⟩ := cutTagBody?_eq_some hcut
      exact (corresponds_quotedLiteral _).append (htargetCorr (Text.trim_trim behind))

/-! ## Rule files -/

/-- The rule of a block corresponds to the operand texts of the block. -/
lemma corresponds_readBlock {next : Option SourceLine} {block : Block} {rule : Rule}
    (h : (readBlock true next block).result = .ok rule) :
    Corresponds block.sides rule.operands := by
  obtain ⟨name, clauses, -, -, hclauses, hguards, -, hactions, -⟩ := readBlock_eq_ok h
  simp only [Block.sides, hclauses, Rule.operands]
  exact (corresponds_readConditionsWith rfl (corresponds_readOperandWithin rfl _) hguards).append
    (.flatMap (Reading.readPieces_strict rfl hactions) fun _ _ => corresponds_readAction rfl)

/-- In strict mode the operands of the rules of a file are what its operand texts are read as. -/
theorem corresponds_readRules {text : String} {rules : List Rule}
    (h : (readRules true text).result = .ok rules) :
    Corresponds ((splitBlocks (significantLines text.toList)).2.flatMap Block.sides)
      (rules.flatMap Rule.operands) := by
  exact .flatMap (readRules_eq_ok h).2 fun _ _ ⟨_, h⟩ => corresponds_readBlock h

end Cascade
