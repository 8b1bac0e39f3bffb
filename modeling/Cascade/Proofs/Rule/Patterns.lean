import Cascade.Proofs.Rule.Operands

/-!
# The literal patterns of a rule file

A comparison by pattern checks a pattern that is written out.  `literalPatterns` lists the patterns
that are checked in a rule file, in the order in which they are read: the right operand of a
condition comes before its left one, and the conditions of a selector come where the selector
stands.

A reading deals with patterns in order (`Checks`): where it has a result, all of them can be used,
and where it is refused a pattern, this is the first that cannot be used.  The property is closed
under the steps of a reading (`Checks.bind`), so every reader inherits it from those it calls; the
depth of selectors is the one induction (`checks_readOperandWithin`).

The main result is `readRules_ends_as_patterns_do`: a reading ends with rules, with a syntax error,
or with the refusal of a pattern, and of the last the first unusable pattern is the cause.  A
pattern that is well formed but refused is no syntax error to the reader
(`oversized_count_is_no_syntax_error`).
-/

namespace Cascade

/-! ## Patterns in the order of reading -/

/-- The pattern that stands on the right of an operator, if it is one and written out. -/
def ownPattern (comparison : Comparison) (right : List Char) : List String :=
  if comparison.takesPattern then (literal? right).toList else []

/-- The patterns of a condition, given those of operands. -/
def conditionPatterns (ofOperand : List Char → List String) (piece : List Char) : List String :=
  match findOperator piece with
  | none => []
  | some m =>
    let left := Text.trim m.before
    let right := Text.trim m.after
    if left.isEmpty || right.isEmpty then []
    else ofOperand right ++ (ownPattern m.comparison right ++ ofOperand left)

/-- The patterns of an operand with selectors nested at most to a depth. -/
def operandPatternsWithin : (depth : Nat) → List Char → List String
  | 0, _ => []
  | depth + 1, text =>
    match selectorText? (Text.trim text) with
    | none => []
    | some conditions =>
      (splitConditions conditions).flatMap (conditionPatterns (operandPatternsWithin depth))

/-- The patterns of an operand. -/
def operandPatterns (text : List Char) : List String := operandPatternsWithin (text.count '(') text

/-- The patterns of conditions. -/
def clausePatterns (text : List Char) : List String :=
  (splitConditions text).flatMap (conditionPatterns (operandPatternsWithin (text.count '(')))

/-- The patterns in the operand texts of an action; a text that is missing makes it no action. -/
def sidesPatterns (sides : List (List Char)) : List String :=
  if sides.any List.isEmpty then [] else sides.flatMap operandPatterns

/-- The patterns of an action, which stand in selectors of its value and of its target. -/
def actionPatterns (piece : List Char) : List String := sidesPatterns (actionSides piece)

/-- The patterns of a block. -/
def Block.patterns (block : Block) : List String :=
  match block.clauses? with
  | some clauses =>
    clausePatterns clauses.conditions ++ (splitActions clauses.actions).flatMap actionPatterns
  | none => []

/-- The patterns that are written out in a rule file. -/
def literalPatterns (text : String) : List String :=
  (splitBlocks (significantLines text.toList)).2.flatMap Block.patterns

/-! ## Readings and patterns -/

/-- A pattern can be used. -/
def IsUsable (pattern : Text) : Prop := ∃ node, Pattern.Node.read pattern = .ok node

/-- The first pattern that cannot be used is refused for this reason. -/
def FirstRefused (patterns : List String) (refusal : Pattern.Refusal) : Prop :=
  ∃ (before : List String) (pattern : String) (after : List String),
    patterns = before ++ pattern :: after ∧ (∀ p ∈ before, IsUsable p) ∧
    Pattern.Node.read pattern = .error (.refused refusal)

/-- A reading that has a result has met patterns that can be used only, and one that is refused a
pattern has met these patterns up to the first that cannot be used. -/
structure Checks {α : Type} (patterns : List String) (x : Read α) : Prop where
  usable : ∀ a, x.result = .ok a → ∀ p ∈ patterns, IsUsable p
  refused : ∀ refusal, x.result = .error (.refusedPattern refusal) → FirstRefused patterns refusal

namespace Checks

variable {α β : Type} {patterns more : List String}

lemma pure (a : α) : Checks [] (Pure.pure a : Read α) := ⟨fun _ _ => nofun, nofun⟩

lemma note (n : Notice) : Checks [] (Logged.note n : Read Unit) := ⟨fun _ _ => nofun, nofun⟩

/-- A reading that stops with a syntax error says nothing of patterns. -/
lemma rejected (e : SyntaxError) : Checks patterns (Logged.fail (.rejected e) : Read α) :=
  ⟨nofun, nofun⟩

lemma reject (r : Reading) (fault : SyntaxFault) (text : List Char) :
    Checks patterns (r.reject fault text : Read α) := rejected _

/-- What comes after a step meets the patterns behind those of the step. -/
lemma bind {x : Read α} {f : α → Read β} (hx : Checks patterns x)
    (hf : ∀ a, x.result = .ok a → Checks more (f a)) : Checks (patterns ++ more) (x >>= f) := by
  refine ⟨fun b hb => ?_, fun refusal hrefused => ?_⟩
  · obtain ⟨a, ha, hb⟩ := Logged.result_bind_eq_ok.mp hb
    intro p hp
    rcases List.mem_append.mp hp with hp | hp
    · exact hx.usable a ha p hp
    · exact (hf a ha).usable b hb p hp
  · cases hresult : x.result with
    | error e =>
      rw [Logged.bind_of_error hresult] at hrefused
      obtain rfl := Except.error.inj hrefused
      obtain ⟨before, pattern, after, rfl, hbefore, hpattern⟩ := hx.refused refusal hresult
      exact ⟨before, pattern, after ++ more, by simp, hbefore, hpattern⟩
    | ok a =>
      rw [Logged.bind_of_ok hresult] at hrefused
      obtain ⟨before, pattern, after, rfl, hbefore, hpattern⟩ :=
        (hf a hresult).refused refusal hrefused
      refine ⟨patterns ++ before, pattern, after, by simp, fun p hp => ?_, hpattern⟩
      rcases List.mem_append.mp hp with hp | hp
      · exact hx.usable a hresult p hp
      · exact hbefore p hp

/-- A step behind which no pattern is met. -/
lemma bind_silent {x : Read α} {f : α → Read β} (hx : Checks patterns x)
    (hf : ∀ a, x.result = .ok a → Checks [] (f a)) : Checks patterns (x >>= f) := by
  have h := hx.bind hf
  rwa [List.append_nil] at h

end Checks

variable {r : Reading}

/-! ## Pieces, operands and conditions -/

lemma checks_unrecognised (clause : Clause) (text : List Char) :
    Checks [] (r.unrecognised clause text) := by
  unfold Reading.unrecognised
  split
  · exact .reject _ _ _
  · exact .note _

lemma checks_readPieces {α : Type} {clause : Clause} {patterns : List Char → List String}
    {readPiece : List Char → Read (Option α)}
    (h : ∀ piece, Checks (patterns piece) (readPiece piece))
    (pieces : List (List Char)) :
    Checks (pieces.flatMap patterns) (r.readPieces clause readPiece pieces) := by
  induction pieces with
  | nil => exact .pure []
  | cons piece pieces ih =>
    rw [List.flatMap_cons]
    refine (h piece).bind fun found _ => ?_
    cases found with
    | some a => exact ih.bind_silent fun rest _ => .pure (a :: rest)
    | none => exact (checks_unrecognised clause piece).bind fun _ _ => ih

lemma checks_readPlainOperand (text : List Char) : Checks [] (readPlainOperand r text) := by
  unfold readPlainOperand
  dsimp only
  split
  · exact .pure _
  · split
    · exact .reject _ _ _
    · exact .pure _

/-- The patterns of an operand are those of the conditions in its selector. -/
lemma checks_readOperandWith {patterns : List Char → List String}
    {readInner : List Char → Read (List Condition)}
    (h : ∀ text, Checks (patterns text) (readInner text)) (text : List Char) :
    Checks (((selectorText? (Text.trim text)).map patterns).getD [])
      (readOperandWith readInner r text) := by
  unfold readOperandWith selectorText?
  dsimp only
  cases hl : literal? (Text.trim text) with
  | some value => exact .pure _
  | none =>
    cases hs : selectorScope? (Text.trim text) with
    | none => exact checks_readPlainOperand _
    | some p =>
      obtain ⟨scope, start⟩ := p
      dsimp only
      cases hp : selectorParts? scope start (Text.trim text) with
      | none =>
        simp only [Option.isSome_none, Bool.false_eq_true, if_false, Option.bind_some, hp,
          Option.map_none, Option.getD_none]
        split
        · exact .reject _ _ _
        · exact checks_readPlainOperand _
      | some parts =>
        simp only [Option.isSome_none, Bool.false_eq_true, if_false, Option.bind_some, hp,
          Option.map_some, Option.getD_some]
        refine (h parts.conditions).bind_silent fun conditions _ => ?_
        split
        · exact .reject _ _ _
        · exact .pure _

lemma checks_checkPattern (text : List Char) (pattern : String) :
    Checks [pattern] (checkPattern r text pattern) := by
  unfold checkPattern
  cases hread : Pattern.Node.read pattern with
  | ok node =>
    refine ⟨fun _ _ p hp => ?_, nofun⟩
    obtain rfl := List.mem_singleton.mp hp
    exact ⟨node, hread⟩
  | error fault =>
    cases fault with
    | malformed reason position => exact .reject _ _ _
    | refused refusal =>
      refine ⟨nofun, fun refusal' h => ?_⟩
      obtain rfl := ReadError.refusedPattern.inj (Except.error.inj h)
      exact ⟨[], pattern, [], rfl, nofun, hread⟩

/-- The right operand is a pattern that is checked where its text is. -/
lemma checks_checkRight {readInner : List Char → Read (List Condition)} {right : List Char}
    {operand : Operand} (hform : OperandForm readInner r right operand) (text : List Char)
    (comparison : Comparison) :
    Checks (ownPattern comparison right) (checkRight r text comparison operand) := by
  unfold ownPattern checkRight
  cases hform with
  | literal hl =>
    rw [hl]
    dsimp only
    split
    · exact checks_checkPattern text _
    · exact .pure ()
  | selector hl | qualified hl | implicit hl =>
    rw [hl]
    dsimp only
    split <;> exact .pure ()

lemma checks_readConditionWith {depth : Nat}
    (h : ∀ text, Checks (operandPatternsWithin depth text) (readOperandWithin r depth text))
    (piece : List Char) : Checks (conditionPatterns (operandPatternsWithin depth) piece)
      (readConditionWith (readOperandWithin r depth) r piece) := by
  unfold readConditionWith conditionPatterns
  cases findOperator piece with
  | none => exact .pure none
  | some m =>
    dsimp only
    split
    · exact .pure none
    · refine (h _).bind fun right hright => ?_
      obtain ⟨readInner, hform⟩ := readOperandWithin_eq_ok hright
      rw [Text.trim_trim] at hform
      refine (checks_checkRight hform piece m.comparison).bind fun _ _ => ?_
      exact (h _).bind_silent fun left _ => .pure _

lemma checks_readConditionsWith {depth : Nat}
    (h : ∀ text, Checks (operandPatternsWithin depth text) (readOperandWithin r depth text))
    (text : List Char) :
    Checks ((splitConditions text).flatMap (conditionPatterns (operandPatternsWithin depth)))
      (readConditionsWith (readOperandWithin r depth) r text) :=
  checks_readPieces (checks_readConditionWith h) (splitConditions text)

/-- Operands meet their patterns at every depth of selectors: one level deeper, the conditions of a
selector are read by readers of which it is known already. -/
lemma checks_readOperandWithin (depth : Nat) (text : List Char) :
    Checks (operandPatternsWithin depth text) (readOperandWithin r depth text) := by
  induction depth generalizing text with
  | zero =>
    have h := checks_readOperandWith (r := r) (fun _ => .pure ([] : List Condition)) text
    cases hs : selectorText? (Text.trim text) with
    | none => rwa [hs] at h
    | some conditions => rwa [hs] at h
  | succ depth ih =>
    have h := checks_readOperandWith (r := r) (checks_readConditionsWith ih) text
    rw [operandPatternsWithin]
    cases hs : selectorText? (Text.trim text) with
    | none => rwa [hs] at h
    | some conditions => rwa [hs] at h

lemma checks_readOperand (text : List Char) : Checks (operandPatterns text) (readOperand r text) :=
  checks_readOperandWithin _ text

lemma checks_readConditions (text : List Char) :
    Checks (clausePatterns text) (readConditions r text) :=
  checks_readConditionsWith (checks_readOperandWithin _) text

/-! ## Actions -/

lemma checks_readOptions (action body : List Char) : Checks [] (readOptions r action body) := by
  unfold readOptions
  split
  · split
    · dsimp only
      split
      · exact .pure _
      · exact .reject _ _ _
    · exact .pure _
  · exact .pure _

lemma sidesPatterns_pair (value target : List Char) : sidesPatterns [value, target] =
    if target.isEmpty || value.isEmpty then []
    else operandPatterns value ++ operandPatterns target := by
  simp [sidesPatterns, Bool.or_comm]

/-- There are no patterns in a literal; so those of a tag action are those of its target. -/
lemma sidesPatterns_quotedLiteral (value target : List Char) :
    sidesPatterns [quotedLiteral value, target] = operandPatterns target := by
  have hliteral : operandPatterns (quotedLiteral value) = [] := by
    have htext : selectorText? (Text.trim (quotedLiteral value)) = none := by
      rw [(isTrimmed_quotedLiteral value).trim_eq]
      simp [selectorText?, literal?_quotedLiteral]
    unfold operandPatterns
    cases (quotedLiteral value).count '(' with
    | zero => rfl
    | succ depth => rw [operandPatternsWithin, htext]
  rw [sidesPatterns_pair, hliteral, List.nil_append]
  cases target with
  | nil => rfl
  | cons c target => rfl

/-- What is left of an action when its value has been read. -/
lemma checks_target {kind : ActionKind} {value : Operand} {options : Options}
    (text target : List Char) :
    Checks (operandPatterns target) (do
      match ← readOperand r target with
      | .field target => return some { kind, target, value, options }
      | .literal _ => r.reject (.literalTarget kind) text : Read (Option Action)) := by
  refine (checks_readOperand target).bind_silent fun operand _ => ?_
  cases operand with
  | field reference => exact .pure _
  | literal value => exact .reject _ _ _

lemma checks_readAction (piece : List Char) :
    Checks (actionPatterns piece) (readAction r piece) := by
  unfold readAction
  cases hhead : actionHead? piece with
  | none =>
    have hsides : actionSides piece = [] := by simp only [actionSides, hhead]
    rw [actionPatterns, hsides]
    exact .pure none
  | some p =>
    obtain ⟨kind, rest⟩ := p
    rw [← List.nil_append (actionPatterns piece)]
    refine (checks_readOptions piece rest).bind fun found hoptions => ?_
    obtain ⟨options, body⟩ := found
    have hsides : actionSides piece = bodySides kind body := by
      simp only [actionSides, hhead, readOptions_eq_ok_of hoptions]
    rw [actionPatterns, hsides]
    cases kind with
    | set =>
      simp only [readBody, bodySides]
      cases cutEquals? .outside body with
      | none => exact .pure none
      | some cut =>
        obtain ⟨target, value⟩ := cut
        dsimp only
        rw [sidesPatterns_pair]
        split
        · exact .pure none
        · rw [bind_assoc]
          exact (checks_readOperand _).bind fun value _ => checks_target piece _
    | add =>
      simp only [readBody, bodySides]
      cases cutTagBody? "to" body with
      | none => exact .pure none
      | some cut =>
        dsimp only
        rw [sidesPatterns_quotedLiteral]
        exact checks_target piece _
    | remove =>
      simp only [readBody, bodySides]
      cases cutTagBody? "from" body with
      | none => exact .pure none
      | some cut =>
        dsimp only
        rw [sidesPatterns_quotedLiteral]
        exact checks_target piece _

lemma checks_readActions (text : List Char) :
    Checks ((splitActions text).flatMap actionPatterns) (readActions r text) :=
  checks_readPieces checks_readAction _

/-! ## Rule files -/

lemma checks_readBlock (strict : Bool) (next : Option SourceLine) (block : Block) :
    Checks block.patterns (readBlock strict next block) := by
  unfold readBlock
  split
  · exact .rejected _
  · dsimp only
    split
    · exact .rejected _
    · next whenLine lines hbody =>
      split
      · exact .rejected _
      · next firstCondition hwhen =>
        split
        · exact .rejected _
        · next thenLine actionLines hthen =>
          have hclauses : block.clauses? = some ⟨whenLine,
              joinClause firstCondition (lines.takeWhile fun line => !line.isThen), thenLine,
              joinClause ((clause? "then" thenLine.text).getD []) actionLines⟩ := by
            simp only [Block.clauses?, hbody, hwhen, SourceLine.isThen, hthen]
          rw [Block.patterns, hclauses]
          refine (checks_readConditions _).bind fun guards _ => ?_
          split
          · exact .rejected _
          · refine (checks_readActions _).bind_silent fun actions _ => ?_
            split
            · exact .rejected _
            · exact .pure _

lemma checks_readBlocks (strict : Bool) (blocks : List Block) :
    Checks (blocks.flatMap Block.patterns) (readBlocks strict blocks) := by
  induction blocks with
  | nil => exact .pure []
  | cons block blocks ih =>
    rw [List.flatMap_cons]
    exact (checks_readBlock strict _ block).bind fun rule _ => ih.bind_silent fun rules _ =>
      .pure (rule :: rules)

lemma checks_skipStray (strict : Bool) (lines : List SourceLine) :
    Checks [] (skipStray strict lines) := by
  induction lines with
  | nil => exact .pure ()
  | cons line rest ih =>
    unfold skipStray
    split
    · exact .rejected _
    · exact (Checks.note _).bind fun _ _ => ih

lemma checks_readRules (strict : Bool) (text : String) :
    Checks (literalPatterns text) (readRules strict text) :=
  (checks_skipStray strict _).bind fun _ _ => checks_readBlocks strict _

/-- **A reading of rules ends as its patterns do.**  In either mode there are rules, and then all
patterns that are written out can be used; or a syntax error; or, for no other reason than that the
first of the patterns that cannot be used is refused, this refusal.  Groups may be nested to any
depth here; that a reader runs out of stack is not among the refusals. -/
theorem readRules_ends_as_patterns_do (strict : Bool) (text : String) :
    (∃ rules, (readRules strict text).result = .ok rules ∧ ∀ p ∈ literalPatterns text, IsUsable p) ∨
    (∃ e, (readRules strict text).result = .error (.rejected e)) ∨
    ∃ refusal, (readRules strict text).result = .error (.refusedPattern refusal) ∧
      FirstRefused (literalPatterns text) refusal := by
  have hchecks := checks_readRules strict text
  cases hresult : (readRules strict text).result with
  | ok rules => exact .inl ⟨rules, rfl, hchecks.usable rules hresult⟩
  | error e =>
    cases e with
    | rejected e => exact .inr (.inl ⟨e, rfl⟩)
    | refusedPattern refusal => exact .inr (.inr ⟨refusal, rfl, hchecks.refused refusal hresult⟩)

/-- A count of repetitions that no number of the machine can hold is well formed, so the reader has
no syntax error for it, in either mode. -/
theorem oversized_count_is_no_syntax_error :
    let text :=
      "rule \"r\": when me.Title matches \"a\x7b4294967295\x7d\" then set me.State = \"X\""
    (readRules true text).result = .error (.refusedPattern .repetitionTooLarge) ∧
      (readRules false text).result = .error (.refusedPattern .repetitionTooLarge) := by
  decide +kernel

end Cascade
