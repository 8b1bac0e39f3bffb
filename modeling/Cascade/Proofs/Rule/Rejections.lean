import Cascade.Proofs.Rule.Validity

/-!
# What a rejection shows

A reading that stops with a syntax error shows a text and the number of a line.  The text is a part
of the one that is read, trimmed, and the number is that of the reading, wherever in the text the
fault was found: a reading has one number for all of its text (`SyntaxError.ShowsPart`).

What holds of the errors of each step holds of those of a reading (`RejectsOnly.bind`), and a part
of a part is a part of the whole (`SyntaxError.ShowsPart.trans`).  The one induction is that on the
depth of selectors (`showsPart_readOperandWithin`); the two clauses of a rule come last
(`showsPart_readConditions`, `showsPart_readActions`).
-/

namespace Cascade

/-! ## Syntax errors of a reading -/

/-- If a reading stops with a syntax error, this holds of it. -/
def RejectsOnly {α : Type} (P : SyntaxError → Prop) (x : Read α) : Prop :=
  ∀ e, x.result = .error (.rejected e) → P e

namespace RejectsOnly

variable {α β : Type} {P Q : SyntaxError → Prop}

lemma of_ok {x : Read α} {a : α} (h : x.result = .ok a) : RejectsOnly P x := by
  intro e he
  rw [h] at he
  cases he

lemma pure (a : α) : RejectsOnly P (Pure.pure a : Read α) := of_ok rfl

lemma rejected {e : SyntaxError} (h : P e) :
    RejectsOnly P (Logged.fail (.rejected e) : Read α) := by
  intro e' he
  obtain rfl := ReadError.rejected.inj (Except.error.inj he)
  exact h

/-- A refused pattern is no syntax error. -/
lemma refused (refusal : Pattern.Refusal) :
    RejectsOnly P (Logged.fail (.refusedPattern refusal) : Read α) := nofun

lemma mono {x : Read α} (h : RejectsOnly P x) (hPQ : ∀ e, P e → Q e) : RejectsOnly Q x :=
  fun e he => hPQ e (h e he)

/-- A syntax error of two steps is one of the first or one of the second. -/
lemma bind {x : Read α} {f : α → Read β} (hx : RejectsOnly P x)
    (hf : ∀ a, x.result = .ok a → RejectsOnly P (f a)) : RejectsOnly P (x >>= f) := by
  intro e he
  cases hresult : x.result with
  | error fault =>
    rw [Logged.bind_of_error hresult] at he
    obtain rfl := Except.error.inj he
    exact hx e hresult
  | ok a =>
    rw [Logged.bind_of_ok hresult] at he
    exact hf a hresult e he

end RejectsOnly

variable {r : Reading}

/-- An error shows a part of a text under the number of the reading. -/
def SyntaxError.ShowsPart (r : Reading) (text : List Char) (e : SyntaxError) : Prop :=
  e.number = r.number ∧ IsPart e.text.toList text

lemma SyntaxError.ShowsPart.trans {part text : List Char} (hpart : part <:+: text)
    (e : SyntaxError) (h : e.ShowsPart r part) : e.ShowsPart r text :=
  ⟨h.1, h.2.trans hpart⟩

open SyntaxError (ShowsPart)

lemma showsPart_reject {α : Type} (fault : SyntaxFault) {text part : List Char}
    (h : IsPart part text) : RejectsOnly (ShowsPart r text) (r.reject fault part : Read α) := by
  refine .rejected ⟨rfl, ?_⟩
  rw [String.toList_ofList]
  exact h

/-! ## Pieces, operands and conditions -/

lemma showsPart_unrecognised (clause : Clause) {text piece : List Char}
    (h : IsPart piece text) : RejectsOnly (ShowsPart r text) (r.unrecognised clause piece) := by
  unfold Reading.unrecognised
  split
  · exact showsPart_reject _ h
  · exact .of_ok rfl

lemma showsPart_readPieces {α : Type} {clause : Clause}
    {readPiece : List Char → Read (Option α)} {text : List Char} {pieces : List (List Char)}
    (hpieces : ∀ piece ∈ pieces, IsPart piece text)
    (h : ∀ piece ∈ pieces, RejectsOnly (ShowsPart r piece) (readPiece piece)) :
    RejectsOnly (ShowsPart r text) (r.readPieces clause readPiece pieces) := by
  induction pieces with
  | nil => exact .pure []
  | cons piece pieces ih =>
    have hpiece := hpieces piece List.mem_cons_self
    have hrest := ih (fun p hp => hpieces p (List.mem_cons_of_mem piece hp))
      fun p hp => h p (List.mem_cons_of_mem piece hp)
    refine ((h piece List.mem_cons_self).mono (.trans hpiece.1)).bind fun found _ => ?_
    cases found with
    | some a => exact hrest.bind fun rest _ => .pure (a :: rest)
    | none => exact (showsPart_unrecognised clause hpiece).bind fun _ _ => hrest

lemma showsPart_readPlainOperand {text : List Char} (h : Text.IsTrimmed text) :
    RejectsOnly (ShowsPart r text) (readPlainOperand r text) := by
  unfold readPlainOperand
  dsimp only
  split
  · exact .pure _
  · split
    · exact showsPart_reject _ ⟨List.infix_rfl, h⟩
    · exact .pure _

lemma showsPart_readOperandWith {readInner : List Char → Read (List Condition)}
    (hinner : ∀ text, RejectsOnly (ShowsPart r text) (readInner text)) (text : List Char) :
    RejectsOnly (ShowsPart r text) (readOperandWith readInner r text) := by
  have hpart : IsPart (Text.trim text) text := .trim List.infix_rfl
  have hplain : RejectsOnly (ShowsPart r text) (readPlainOperand r (Text.trim text)) :=
    (showsPart_readPlainOperand hpart.2).mono (.trans hpart.1)
  unfold readOperandWith
  dsimp only
  split
  · exact .pure _
  · split
    · exact hplain
    · next scope start hscope =>
      split
      · next parts hparts =>
        have hconditions := (selectorParts?_isInfix hscope hparts).trans hpart.1
        refine ((hinner _).mono (.trans hconditions)).bind fun conditions _ => ?_
        split
        · exact showsPart_reject _ hpart
        · exact .pure _
      · split
        · exact showsPart_reject _ hpart
        · exact hplain

lemma showsPart_checkRight {piece : List Char} (h : Text.IsTrimmed piece)
    (comparison : Comparison) (right : Operand) :
    RejectsOnly (ShowsPart r piece) (checkRight r piece comparison right) := by
  unfold checkRight
  split
  · next pattern =>
    split
    · unfold checkPattern
      split
      · exact .pure ()
      · exact showsPart_reject _ ⟨List.infix_rfl, h⟩
      · exact .refused _
    · exact .pure ()
  · exact .pure ()

lemma showsPart_readConditionWith {readOperand : List Char → Read Operand}
    (h : ∀ text, RejectsOnly (ShowsPart r text) (readOperand text)) {piece : List Char}
    (hpiece : Text.IsTrimmed piece) :
    RejectsOnly (ShowsPart r piece) (readConditionWith readOperand r piece) := by
  unfold readConditionWith
  split
  · exact .pure none
  · next m hm =>
    obtain ⟨hbefore, hafter⟩ := findOperator_parts hm
    dsimp only
    split
    · exact .pure none
    · refine ((h _).mono (.trans ((Text.trim_isInfix _).trans hafter))).bind fun right _ => ?_
      refine (showsPart_checkRight hpiece m.comparison right).bind fun _ _ => ?_
      exact ((h _).mono (.trans ((Text.trim_isInfix _).trans hbefore))).bind fun left _ => .pure _

lemma showsPart_readConditionsWith {readOperand : List Char → Read Operand}
    (h : ∀ text, RejectsOnly (ShowsPart r text) (readOperand text)) (text : List Char) :
    RejectsOnly (ShowsPart r text) (readConditionsWith readOperand r text) :=
  showsPart_readPieces (fun _ => isPart_of_mem_splitConditions) fun _ hpiece =>
    showsPart_readConditionWith h (isPart_of_mem_splitConditions hpiece).2

/-- Operands are rejected for parts of their text, at every depth of selectors. -/
lemma showsPart_readOperandWithin (depth : Nat) (text : List Char) :
    RejectsOnly (ShowsPart r text) (readOperandWithin r depth text) := by
  induction depth generalizing text with
  | zero => exact showsPart_readOperandWith (fun _ => .pure []) text
  | succ depth ih =>
    exact showsPart_readOperandWith (fun _ => showsPart_readConditionsWith ih _) text

/-- Conditions are rejected for parts of their clause. -/
lemma showsPart_readConditions (text : List Char) :
    RejectsOnly (ShowsPart r text) (readConditions r text) :=
  showsPart_readConditionsWith (showsPart_readOperandWithin _) text

/-! ## Actions -/

lemma showsPart_readOptions {piece : List Char} (h : Text.IsTrimmed piece) (body : List Char) :
    RejectsOnly (ShowsPart r piece) (readOptions r piece body) := by
  unfold readOptions
  split
  · split
    · dsimp only
      split
      · exact .pure _
      · exact showsPart_reject _ ⟨List.infix_rfl, h⟩
    · exact .pure _
  · exact .pure _

lemma showsPart_readBody (kind : ActionKind) (body : List Char) :
    RejectsOnly (ShowsPart r body) (readBody r kind body) := by
  cases kind with
  | set =>
    unfold readBody
    dsimp only
    split
    · exact .pure none
    · next target value hcut =>
      have hvalue : value <:+: body := by
        rw [cutEquals?_eq_some hcut]
        exact ((List.suffix_cons '=' value).trans (List.suffix_append target _)).isInfix
      split
      · exact .pure none
      · have hread := showsPart_readOperandWithin (r := r) ((Text.trim value).count '(')
          (Text.trim value)
        exact (hread.mono (.trans ((Text.trim_isInfix value).trans hvalue))).bind
          fun operand _ => .pure _
  | add => exact .pure _
  | remove => exact .pure _

/-- The text of a target stands in the body of its action. -/
lemma BodyForm.target_isInfix {body target : List Char} {kind : ActionKind} {value : Operand}
    (h : BodyForm r body kind value target) : target <:+: body := by
  have htag {word : String} {value : List Char}
    (hcut : cutTagBody? word body = some (value, target)) :
      target <:+: body := by
    obtain ⟨-, -, rest, hrest, -, rfl⟩ := cutTagBody?_eq_some hcut
    exact (Text.trim_isInfix rest).trans hrest.isInfix
  cases h with
  | @set before after operand hcut =>
    rw [cutEquals?_eq_some hcut]
    exact (Text.trim_isInfix before).trans (List.prefix_append before _).isInfix
  | add hcut => exact htag hcut
  | remove hcut => exact htag hcut

lemma showsPart_readAction {piece : List Char} (h : Text.IsTrimmed piece) :
    RejectsOnly (ShowsPart r piece) (readAction r piece) := by
  unfold readAction
  split
  · exact .pure none
  · next kind rest hhead =>
    refine (showsPart_readOptions h rest).bind fun p hoptions => ?_
    obtain ⟨options, body⟩ := p
    have hbody : body <:+: piece :=
      ((readOptions_eq_ok hoptions).1.trans (actionHead?_suffix hhead)).isInfix
    refine ((showsPart_readBody kind body).mono (.trans hbody)).bind fun parts? hparts => ?_
    cases parts? with
    | none => exact .pure none
    | some parts =>
      obtain ⟨value, target⟩ := parts
      have htarget : target <:+: piece := (readBody_eq_some hparts).target_isInfix.trans hbody
      refine ((showsPart_readOperandWithin _ target).mono (.trans htarget)).bind fun operand _ => ?_
      cases operand with
      | field reference => exact .pure _
      | literal _ => exact showsPart_reject _ ⟨List.infix_rfl, h⟩

/-- Actions are rejected for parts of their clause. -/
lemma showsPart_readActions (text : List Char) :
    RejectsOnly (ShowsPart r text) (readActions r text) :=
  showsPart_readPieces (fun _ => isPart_of_mem_splitActions) fun _ hpiece =>
    showsPart_readAction (isPart_of_mem_splitActions hpiece).2

end Cascade
