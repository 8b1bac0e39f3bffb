import Mathlib.Data.List.Forall2
import Mathlib.Data.List.TakeWhile
import Cascade.Proofs.Text.Trim
import Cascade.Rule.Reader

/-!
# What a successful reading has done

Reading rules is a cascade of steps that may each fail.  This file says, once for every reader, what
must have happened when it gives a result: which text it cut, which readers it called on the parts
and what they gave.  Later arguments about readings use these statements and never open a reader.

Two steps are taken apart by the bind lemma `Logged.result_bind_eq_ok`.  `readPieces_eq_ok` is the
statement for lists of pieces in both modes; `OperandForm` lists the four forms an operand text can
take, with everything the reader has checked, and `readOperandWith_eq_ok` is its inversion lemma.
`readConditionWith_eq_some`, `readAction_eq_some` and `readBlock_eq_ok` are those of the other
readers, and `tryComparison_eq_some_iff` that of a comparison that is tried at a place.
-/

namespace Cascade

variable {r : Reading}

/-- A rejection is never a result. -/
@[simp] lemma Reading.result_reject {α : Type} (fault : SyntaxFault) (text : List Char) (a : α) :
    (r.reject fault text : Read α).result ≠ .ok a := by
  simp [Reading.reject]

/-- Text that fits no grammar is let pass in lenient mode only. -/
lemma Reading.result_unrecognised {clause : Clause} {text : List Char} {u : Unit} :
    (r.unrecognised clause text).result = .ok u ↔ r.strict = false := by
  unfold Reading.unrecognised
  cases r.strict <;> simp

/-! ## Pieces of a clause -/

/-- When pieces are read, each has been read by itself; the result holds what was recognised, and in
strict mode everything was. -/
lemma Reading.readPieces_eq_ok {α : Type} {clause : Clause}
    {readPiece : List Char → Read (Option α)} {pieces : List (List Char)} {as : List α}
    (h : (r.readPieces clause readPiece pieces).result = .ok as) :
    ∃ found : List (Option α),
      List.Forall₂ (fun piece a => (readPiece piece).result = .ok a) pieces found ∧
      as = found.filterMap id ∧ (r.strict = true → none ∉ found) := by
  induction pieces generalizing as with
  | nil =>
    simp only [Reading.readPieces, Logged.result_pure, Except.ok.injEq] at h
    exact ⟨[], .nil, by simp [← h], by simp⟩
  | cons piece pieces ih =>
    simp only [Reading.readPieces] at h
    obtain ⟨a?, hpiece, h⟩ := Logged.result_bind_eq_ok.mp h
    cases a? with
    | some a =>
      obtain ⟨rest, hrest, h⟩ := Logged.result_bind_eq_ok.mp h
      simp only [Logged.result_pure, Except.ok.injEq] at h
      obtain ⟨found, hall, rfl, hnone⟩ := ih hrest
      exact ⟨some a :: found, .cons hpiece hall, by simp [← h], by simpa using hnone⟩
    | none =>
      obtain ⟨⟨⟩, hlenient, h⟩ := Logged.result_bind_eq_ok.mp h
      obtain ⟨found, hall, rfl, -⟩ := ih h
      have := Reading.result_unrecognised.mp hlenient
      exact ⟨none :: found, .cons hpiece hall, by simp, by simp [this]⟩

/-- In strict mode the pieces and what they are read to stand side by side. -/
lemma Reading.readPieces_strict {α : Type} {clause : Clause}
    {readPiece : List Char → Read (Option α)} {pieces : List (List Char)} {as : List α}
    (hr : r.strict = true) (h : (r.readPieces clause readPiece pieces).result = .ok as) :
    List.Forall₂ (fun piece a => (readPiece piece).result = .ok (some a)) pieces as := by
  obtain ⟨found, hall, rfl, hnone⟩ := Reading.readPieces_eq_ok h
  replace hnone := hnone hr
  clear h
  induction hall with
  | nil => exact .nil
  | @cons piece a? pieces found hpiece _ ih =>
    cases a? with
    | none => simp at hnone
    | some a => exact .cons hpiece (ih (by simpa using hnone))

/-! ## Cutting an operand text -/

/-- What stands behind a scope and a mark. -/
lemma scopeBefore?_eq_some {mark : Char} {scopes : List Scope} {text rest : List Char}
    {scope : Scope} (h : scopeBefore? mark scopes text = some (scope, rest)) :
    scope ∈ scopes ∧ text = scope.word.toList ++ mark :: rest := by
  obtain ⟨s, hs, h⟩ := List.exists_of_findSome?_eq_some h
  obtain ⟨t, ht, heq⟩ := Option.map_eq_some_iff.mp h
  obtain ⟨rfl, rfl⟩ := Prod.mk.inj heq
  have := Text.eq_append_of_after? ht
  rw [List.append_assoc] at this
  exact ⟨hs, this⟩

/-- A text with a scope and a mark at its start is found to have one. -/
lemma scopeBefore?_ne_none {mark : Char} {scopes : List Scope} {text rest : List Char}
    {scope : Scope} (hs : scope ∈ scopes) (ht : text = scope.word.toList ++ mark :: rest) :
    scopeBefore? mark scopes text ≠ none := by
  intro hnone
  have hafter := List.findSome?_eq_none_iff.mp hnone scope hs
  have hsplit : text = (scope.word.toList ++ [mark]) ++ rest := by simp [ht]
  rw [hsplit, Text.after?_append] at hafter
  cases hafter

/-- A line that stands alone is the whole text but for a line feed at its end. -/
lemma soleLine?_eq_some {text line : List Char} (h : soleLine? text = some line) :
    line ≠ [] ∧ Text.trim line = Text.trim text := by
  unfold soleLine? at h
  dsimp only at h
  split at h
  · next hc =>
    obtain ⟨hne, hrest⟩ := Bool.and_eq_true_iff.mp hc
    obtain rfl := Option.some.inj h
    refine ⟨by simpa using hne, ?_⟩
    have hsplit := List.takeWhile_append_dropWhile (p := (· ≠ '\n')) (l := text)
    have hblank : ∀ b ∈ text.dropWhile (· ≠ '\n'), Text.isBlank b = true := by
      rcases Bool.or_eq_true_iff.mp hrest with hnil | hfeed
      · rw [List.isEmpty_iff.mp hnil]
        simp
      · intro b hb
        rw [beq_iff_eq.mp hfeed, List.mem_singleton] at hb
        rw [hb]
        decide
    conv_rhs => rw [← hsplit]
    rw [Text.trim_append_blanks hblank]
  · cases h

/-- A text without line feed stands alone on its line unless it is empty. -/
lemma soleLine?_of_not_mem {text : List Char} (h : '\n' ∉ text) (hne : text ≠ []) :
    soleLine? text = some text := by
  have hall : ∀ c ∈ text, decide (c ≠ '\n') = true := fun c hc =>
    decide_eq_true fun he => h (he ▸ hc)
  have htake : text.takeWhile (· ≠ '\n') = text := List.takeWhile_eq_self_iff.mpr hall
  have hdrop : text.dropWhile (· ≠ '\n') = [] := List.dropWhile_eq_nil_iff.mpr hall
  unfold soleLine?
  dsimp only
  rw [htake, hdrop, if_pos]
  simp [hne]

/-- Double quotes at both ends make a literal, and nothing else does. -/
lemma literal?_eq_some {text : List Char} {value : String} :
    literal? text = some value ↔ text = '"' :: (value.toList ++ ['"']) := by
  constructor
  · intro h
    unfold literal? at h
    split at h
    · next rest =>
      split at h
      · next hlast =>
        obtain rfl := Option.some.inj h
        rw [String.toList_ofList, List.dropLast_append_getLast? '"' hlast]
      · cases h
    · cases h
  · rintro rfl
    simp [literal?]

/-- The parenthesis that is found closes what stands before it. -/
lemma closingFrom_eq_some {quoted : Bool} {depth : Int} {index stop : Nat} {text : List Char}
    (h : closingFrom quoted depth index text = some stop) :
    ∃ inner rest, text = inner ++ ')' :: rest ∧ stop = index + inner.length := by
  induction text generalizing quoted depth index with
  | nil => cases h
  | cons c text ih =>
    -- Either the scan goes on behind `c`, or `c` is the parenthesis.
    have hlater : ∀ {q : Bool} {d : Int}, closingFrom q d (index + 1) text = some stop →
        ∃ inner rest, c :: text = inner ++ ')' :: rest ∧ stop = index + inner.length := by
      intro q d h
      obtain ⟨inner, rest, rfl, rfl⟩ := ih h
      exact ⟨c :: inner, rest, rfl, by rw [List.length_cons]; omega⟩
    unfold closingFrom at h
    split at h
    · exact hlater h
    split at h
    · exact hlater h
    split at h
    · exact hlater h
    split at h
    · next hc =>
      split at h
      · obtain rfl := Option.some.inj h
        exact ⟨[], text, by rw [hc]; rfl, rfl⟩
      · exact hlater h
    · exact hlater h

/-- The parts of a selector operand: the conditions stand between the parenthesis behind the scope
and the one that closes it, the field behind the point that follows. -/
lemma selectorParts?_eq_some {scope scope' : Scope} {start : Nat} {text : List Char}
    {parts : SelectorParts} (hs : selectorScope? text = some (scope, start))
    (h : selectorParts? scope' start text = some parts) :
    scope ∈ [Scope.children, .child] ∧ parts.scope = scope' ∧ ∃ rest, rest ≠ [] ∧
      parts.field = Text.trim rest ∧
      text = scope.word.toList ++ '(' :: (parts.conditions ++ ')' :: '.' :: rest) ∧
      closingParen? text scope.word.length =
        some (scope.word.length + 1 + parts.conditions.length) := by
  obtain ⟨⟨s, tail⟩, hscope, heq⟩ := Option.map_eq_some_iff.mp hs
  obtain ⟨rfl, rfl⟩ := Prod.mk.inj heq
  obtain ⟨hmem, rfl⟩ := scopeBefore?_eq_some hscope
  unfold selectorParts? at h
  rw [← String.length_toList] at h ⊢
  generalize hw : s.word.toList = word at h ⊢
  cases hclose : closingParen? (word ++ '(' :: tail) word.length with
  | none => simp [hclose] at h
  | some stop =>
    -- the scan begins at the parenthesis itself, so it goes on behind it at depth one
    have hscan : closingFrom false 1 (word.length + 1) tail = some stop := by
      rwa [closingParen?, List.drop_left] at hclose
    obtain ⟨inner, rest, rfl, rfl⟩ := closingFrom_eq_some hscan
    have hdrop : (word ++ '(' :: (inner ++ ')' :: rest)).drop (word.length + 1 + inner.length + 1)
        = rest := by
      have : word ++ '(' :: (inner ++ ')' :: rest) = (word ++ '(' :: inner ++ [')']) ++ rest := by
        simp
      rw [this, List.drop_left']
      simp only [List.length_append, List.length_cons, List.length_nil]
      omega
    have htake : ((word ++ '(' :: (inner ++ ')' :: rest)).take
        (word.length + 1 + inner.length)).drop (word.length + 1) = inner := by
      have : word ++ '(' :: (inner ++ ')' :: rest) = (word ++ ['(']) ++ inner ++ ')' :: rest := by
        simp
      have hlen : (word ++ ['('] ++ inner).length = word.length + 1 + inner.length := by
        simp only [List.length_append, List.length_cons, List.length_nil]
      rw [this, List.take_left' hlen, List.drop_left' (by simp)]
    simp only [hclose, hdrop, htake] at h
    split at h
    · next c field =>
      obtain rfl := Option.some.inj h
      exact ⟨hmem, rfl, c :: field, List.cons_ne_nil c field, rfl, rfl, rfl⟩
    · cases h

/-! ## Trying a comparison -/

/-- Of several words the first one stands at the start, with white space behind it, and the others
stand behind that. -/
lemma afterWords?_cons_cons {word second text rest : List Char} {words : List (List Char)} :
    afterWords? (word :: second :: words) text = some rest ↔
      ∃ b behind, Text.after? word text = some (b :: behind) ∧ Text.isBlank b = true ∧
        afterWords? (second :: words) (Text.trimStart behind) = some rest := by
  rw [afterWords?]
  · constructor
    · intro h
      split at h
      · next b behind hafter =>
        obtain ⟨hb, h⟩ := Option.ite_none_right_eq_some.mp h
        exact ⟨b, behind, hafter, hb, h⟩
      · cases h
    · rintro ⟨b, behind, hafter, hb, h⟩
      simp only [hafter, hb, if_true, h]
  · exact List.cons_ne_nil _ _

/-- One comparison tried at a place. -/
def tryComparison (text : List Char) (c : Comparison) : Option (Comparison × List Char) :=
  match afterWords? (c.words.map String.toList) text with
  | some rest => if endsWord rest then some (c, rest) else none
  | none => none

lemma comparisonAt?_eq_findSome? (text : List Char) :
    comparisonAt? text = Comparison.all.findSome? (tryComparison text) := rfl

/-- A comparison is found with its words, if no word goes on behind them. -/
lemma tryComparison_eq_some_iff {c c' : Comparison} {text rest : List Char} :
    tryComparison text c = some (c', rest) ↔
      c = c' ∧ afterWords? (c.words.map String.toList) text = some rest ∧ endsWord rest = true := by
  unfold tryComparison
  cases afterWords? (c.words.map String.toList) text with
  | none => simp
  | some behind =>
    simp only [Option.ite_none_right_eq_some, Option.some.injEq, Prod.mk.injEq]
    constructor
    · rintro ⟨hends, rfl, rfl⟩
      exact ⟨rfl, rfl, hends⟩
    · rintro ⟨rfl, rfl, hends⟩
      exact ⟨hends, rfl, rfl⟩

/-! ## Operands -/

/-- The forms of an operand text and what a reading makes of them.  `readInner` reads the conditions
of a selector; the text is the trimmed one. -/
inductive OperandForm (readInner : List Char → Read (List Condition)) (r : Reading)
    (text : List Char) : Operand → Prop
  /-- Double quotes at both ends, whatever stands between. -/
  | literal {value : String} : literal? text = some value →
      OperandForm readInner r text (.literal value)
  /-- A closed selector with a point and a field behind it. -/
  | selector {scope : Scope} {start : Nat} {parts : SelectorParts} {conditions : List Condition} :
      literal? text = none → selectorScope? text = some (scope, start) →
      selectorParts? scope start text = some parts →
      (readInner parts.conditions).result = .ok conditions →
      (r.strict = true → conditions ≠ []) →
      OperandForm readInner r text
        (.field (.mk parts.scope (String.ofList parts.field) (some conditions)))
  /-- A scope, a point and the rest of the line. -/
  | qualified {scope : Scope} {rest name : List Char} : literal? text = none →
      (r.strict = true → selectorScope? text = none) →
      scopeBefore? '.' [.me, .parent, .children, .child] text = some (scope, rest) →
      soleLine? rest = some name →
      OperandForm readInner r text (.field (.mk scope (String.ofList (Text.trim name)) none))
  /-- Any other text; only in strict mode is it looked at. -/
  | implicit : literal? text = none → (r.strict = true → selectorScope? text = none) →
      (∀ scope rest, scopeBefore? '.' [.me, .parent, .children, .child] text = some (scope, rest) →
        soleLine? rest = none) →
      (r.strict = true → isFieldName text = true) →
      OperandForm readInner r text (.field (.mk .implicit (String.ofList text) none))

variable {readInner : List Char → Read (List Condition)}

/-- A plain operand is qualified or implicit. -/
lemma readPlainOperand_eq_ok {text : List Char} {op : Operand} (hl : literal? text = none)
    (hs : r.strict = true → selectorScope? text = none)
    (h : (readPlainOperand r text).result = .ok op) : OperandForm readInner r text op := by
  unfold readPlainOperand at h
  cases hb : scopeBefore? '.' [.me, .parent, .children, .child] text with
  | none =>
    simp only [hb] at h
    split at h
    · simp at h
    · next hf =>
      simp only [Logged.result_pure, Except.ok.injEq] at h
      subst h
      exact .implicit hl hs (by simp [hb]) fun hr => by simpa [hr] using hf
  | some p =>
    obtain ⟨scope, rest⟩ := p
    simp only [hb] at h
    cases hn : soleLine? rest with
    | some name =>
      simp only [hn, Option.map_some, Logged.result_pure, Except.ok.injEq] at h
      subst h
      exact .qualified hl hs hb hn
    | none =>
      simp only [hn, Option.map_none] at h
      split at h
      · simp at h
      · next hf =>
        simp only [Logged.result_pure, Except.ok.injEq] at h
        subst h
        refine .implicit hl hs ?_ fun hr => by simpa [hr] using hf
        rintro scope' rest' he
        rw [hb] at he
        cases he
        exact hn

/-- What is read as an operand has one of the forms. -/
lemma readOperandWith_eq_ok {text : List Char} {op : Operand}
    (h : (readOperandWith readInner r text).result = .ok op) :
    OperandForm readInner r (Text.trim text) op := by
  simp only [readOperandWith] at h
  cases hl : literal? (Text.trim text) with
  | some value =>
    simp only [hl, Logged.result_pure, Except.ok.injEq] at h
    subst h
    exact .literal hl
  | none =>
    simp only [hl] at h
    cases hs : selectorScope? (Text.trim text) with
    | none =>
      simp only [hs] at h
      exact readPlainOperand_eq_ok hl (fun _ => hs) h
    | some p =>
      obtain ⟨scope, start⟩ := p
      simp only [hs] at h
      cases hp : selectorParts? scope start (Text.trim text) with
      | some parts =>
        simp only [hp] at h
        obtain ⟨conditions, hc, h⟩ := Logged.result_bind_eq_ok.mp h
        split at h
        · simp at h
        · next hne =>
          simp only [Logged.result_pure, Except.ok.injEq] at h
          subst h
          exact .selector hl hs hp hc fun hr => by simpa [hr] using hne
      | none =>
        simp only [hp] at h
        split at h
        · simp at h
        · next hr => exact readPlainOperand_eq_ok hl (fun h' => absurd h' hr) h

/-- What is read as an operand at some depth of selectors has one of the forms. -/
lemma readOperandWithin_eq_ok {depth : Nat} {text : List Char} {op : Operand}
    (h : (readOperandWithin r depth text).result = .ok op) :
    ∃ readInner, OperandForm readInner r (Text.trim text) op := by
  cases depth with
  | zero => exact ⟨_, readOperandWith_eq_ok h⟩
  | succ depth => exact ⟨_, readOperandWith_eq_ok h⟩

/-! ## Conditions -/

variable {readOperand : List Char → Read Operand}

/-- A condition is read from the texts around its operator, which are not empty. -/
lemma readConditionWith_eq_some {text : List Char} {c : Condition}
    (h : (readConditionWith readOperand r text).result = .ok (some c)) :
    ∃ m left right, findOperator text = some m ∧ Text.trim m.before ≠ [] ∧ Text.trim m.after ≠ [] ∧
      (readOperand (Text.trim m.before)).result = .ok left ∧
      (readOperand (Text.trim m.after)).result = .ok right ∧
      (checkRight r text m.comparison right).result = .ok () ∧
      c = .mk left m.comparison right := by
  unfold readConditionWith at h
  cases hm : findOperator text with
  | none => simp [hm] at h
  | some m =>
    simp only [hm] at h
    split at h
    · simp at h
    · next hsides =>
      rw [Bool.or_eq_true, List.isEmpty_iff, List.isEmpty_iff, not_or] at hsides
      obtain ⟨right, hright, h⟩ := Logged.result_bind_eq_ok.mp h
      obtain ⟨⟨⟩, hcheck, h⟩ := Logged.result_bind_eq_ok.mp h
      obtain ⟨left, hleft, h⟩ := Logged.result_bind_eq_ok.mp h
      simp only [Logged.result_pure, Except.ok.injEq, Option.some.injEq] at h
      exact ⟨m, left, right, rfl, hsides.1, hsides.2, hleft, hright, hcheck, h.symm⟩

/-! ## Actions -/

/-- The line that follows white space is one that stands alone at the end of the text. -/
lemma blanksThenLine?_eq_some {text line : List Char} (h : blanksThenLine? text = some line) :
    ∃ rest, rest <:+ text ∧ soleLine? rest = some line := by
  induction text with
  | nil => cases h
  | cons c text ih =>
    unfold blanksThenLine? at h
    split at h
    · rcases Option.or_eq_some_iff.mp h with hlater | ⟨-, hhere⟩
      · obtain ⟨rest, hrest, hline⟩ := ih hlater
        exact ⟨rest, hrest.trans (List.suffix_cons c text), hline⟩
      · exact ⟨text, List.suffix_cons c text, hhere⟩
    · cases h

/-- The parts of the body of a tag action: the literal in quotes is not empty and holds no quote,
and the target is the end of the body, trimmed. -/
lemma cutTagBody?_eq_some {word : String} {body value target : List Char}
    (h : cutTagBody? word body = some (value, target)) :
    value ≠ [] ∧ '"' ∉ value ∧ ∃ rest, rest <:+ body ∧ rest ≠ [] ∧ target = Text.trim rest := by
  unfold cutTagBody? at h
  split at h
  · next tail =>
    dsimp only at h
    split at h
    · next c behind hd =>
      by_cases hv : ((tail.takeWhile (· ≠ '"')).isEmpty || !Text.isBlank c) = true
      · rw [if_pos hv] at h
        cases h
      · rw [if_neg hv] at h
        split at h
        · next afterWord hword =>
          obtain ⟨line, hline, ht⟩ := Option.map_eq_some_iff.mp h
          obtain ⟨rfl, rfl⟩ := Prod.mk.inj ht
          obtain ⟨rest, hrest, hsole⟩ := blanksThenLine?_eq_some hline
          obtain ⟨-, htrim⟩ := soleLine?_eq_some hsole
          refine ⟨fun hnil => hv (by rw [hnil]; rfl), fun hq => ?_, rest, ?_, ?_, htrim⟩
          · simpa using List.mem_takeWhile_imp hq
          · -- the blanks, the word and what was cut off before them stand in front
            have hafter : afterWord <:+ behind :=
              .trans ⟨_, (Text.eq_append_of_after? hword).symm⟩ (List.dropWhile_suffix _)
            have hbehind : behind <:+ tail :=
              .trans ⟨['"', c], hd.symm⟩ (List.dropWhile_suffix _)
            exact hrest.trans (hafter.trans (hbehind.trans (List.suffix_cons '"' tail)))
          · rintro rfl
            cases hsole
        · cases h
    · cases h
  · cases h

/-- The body of an action gives a value and the text of a target. -/
inductive BodyForm (r : Reading) (body : List Char) : ActionKind → Operand → List Char → Prop
  /-- Around the first equals sign at top level. -/
  | set {target value : List Char} {operand : Operand} :
      cutEquals? .outside body = some (target, value) →
      Text.trim target ≠ [] → Text.trim value ≠ [] →
      (Cascade.readOperand r (Text.trim value)).result = .ok operand →
      BodyForm r body .set operand (Text.trim target)
  | add {value target : List Char} : cutTagBody? "to" body = some (value, target) →
      BodyForm r body .add (.literal (String.ofList value)) target
  | remove {value target : List Char} : cutTagBody? "from" body = some (value, target) →
      BodyForm r body .remove (.literal (String.ofList value)) target

/-- What is read from the body of an action has the form for its kind. -/
lemma readBody_eq_some {kind : ActionKind} {body target : List Char} {value : Operand}
    (h : (readBody r kind body).result = .ok (some (value, target))) :
    BodyForm r body kind value target := by
  cases kind with
  | set =>
    simp only [readBody] at h
    cases hc : cutEquals? .outside body with
    | none => simp [hc] at h
    | some p =>
      obtain ⟨t, v⟩ := p
      simp only [hc] at h
      split at h
      · simp at h
      · next hsides =>
        rw [Bool.or_eq_true, List.isEmpty_iff, List.isEmpty_iff, not_or] at hsides
        obtain ⟨operand, hv, h⟩ := Logged.result_bind_eq_ok.mp h
        simp only [Logged.result_pure, Except.ok.injEq, Option.some.injEq, Prod.mk.injEq] at h
        obtain ⟨rfl, rfl⟩ := h
        exact .set hc hsides.1 hsides.2 hv
  | add =>
    simp only [readBody, Logged.result_pure, Except.ok.injEq, Option.map_eq_some_iff] at h
    obtain ⟨⟨v, t⟩, hc, h⟩ := h
    cases h
    exact .add hc
  | remove =>
    simp only [readBody, Logged.result_pure, Except.ok.injEq, Option.map_eq_some_iff] at h
    obtain ⟨⟨v, t⟩, hc, h⟩ := h
    cases h
    exact .remove hc

/-- An action is read from its keyword, its options, its body and its target. -/
lemma readAction_eq_some {text : List Char} {a : Action}
    (h : (readAction r text).result = .ok (some a)) :
    ∃ rest body target, actionHead? text = some (a.kind, rest) ∧
      (readOptions r text rest).result = .ok (a.options, body) ∧
      BodyForm r body a.kind a.value target ∧
      (Cascade.readOperand r target).result = .ok (.field a.target) := by
  unfold readAction at h
  cases hh : actionHead? text with
  | none => simp [hh] at h
  | some p =>
    obtain ⟨kind, rest⟩ := p
    simp only [hh] at h
    obtain ⟨⟨options, body⟩, ho, h⟩ := Logged.result_bind_eq_ok.mp h
    obtain ⟨parts?, hb, h⟩ := Logged.result_bind_eq_ok.mp h
    cases parts? with
    | none => simp at h
    | some parts =>
      obtain ⟨value, target⟩ := parts
      obtain ⟨operand, ht, h⟩ := Logged.result_bind_eq_ok.mp h
      cases operand with
      | literal _ => simp at h
      | field reference =>
        simp only [Logged.result_pure, Except.ok.injEq, Option.some.injEq] at h
        subst h
        exact ⟨rest, body, target, rfl, ho, readBody_eq_some hb, ht⟩

/-! ## Blocks -/

/-- The lines of a file are those of no block and those of the blocks. -/
lemma splitBlocks_lines (lines : List SourceLine) :
    (splitBlocks lines).1 ++ ((splitBlocks lines).2.flatMap fun b => b.header :: b.body) =
      lines := by
  induction lines with
  | nil => rfl
  | cons line lines ih =>
    rw [splitBlocks]
    dsimp only
    split
    · rw [List.flatMap_cons, List.nil_append, List.cons_append, ih]
    · rw [List.cons_append, ih]

/-! ## Rules -/

/-- The clauses of a block: the line of the word `when`, the text of the conditions, the line of the
word `then` and the text of the actions. -/
structure Clauses where
  whenLine : SourceLine
  conditions : List Char
  thenLine : SourceLine
  actions : List Char

/-- Whether a line opens the actions. -/
def SourceLine.isThen (line : SourceLine) : Bool := (clause? "then" line.text).isSome

/-- The clauses of a block that has both. -/
def Block.clauses? (block : Block) : Option Clauses :=
  match block.body with
  | [] => none
  | whenLine :: lines =>
    match clause? "when" whenLine.text, lines.dropWhile fun line => !line.isThen with
    | some firstCondition, thenLine :: actionLines =>
      some ⟨whenLine, joinClause firstCondition (lines.takeWhile fun line => !line.isThen),
        thenLine, joinClause ((clause? "then" thenLine.text).getD []) actionLines⟩
    | _, _ => none

/-- The clauses of a block whose first line opens the conditions and of which a later line is the
first to open the actions. -/
lemma Block.clauses?_eq_some {header whenLine thenLine : SourceLine}
    {conditionLines actionLines : List SourceLine} {first first' : List Char}
    (hwhen : clause? "when" whenLine.text = some first)
    (hthen : clause? "then" thenLine.text = some first')
    (hnone : ∀ line ∈ conditionLines, clause? "then" line.text = none) :
    Block.clauses? ⟨header, whenLine :: (conditionLines ++ thenLine :: actionLines)⟩ =
      some ⟨whenLine, joinClause first conditionLines, thenLine,
        joinClause first' actionLines⟩ := by
  have hall : ∀ line ∈ conditionLines, (!line.isThen) = true := by
    intro line hline
    rw [SourceLine.isThen, hnone line hline]
    rfl
  have hstop : thenLine.isThen = true := by rw [SourceLine.isThen, hthen]; rfl
  have htake : (conditionLines ++ thenLine :: actionLines).takeWhile (fun line => !line.isThen) =
      conditionLines := by
    rw [List.takeWhile_append_of_pos hall, List.takeWhile_cons_of_neg (by simp [hstop]),
      List.append_nil]
  have hdrop : (conditionLines ++ thenLine :: actionLines).dropWhile (fun line => !line.isThen) =
      thenLine :: actionLines := by
    rw [List.dropWhile_append_of_pos hall, List.dropWhile_cons_of_neg (by simp [hstop])]
  simp only [Block.clauses?, hwhen, htake, hdrop, hthen, Option.getD_some]

/-- A block with a name and both clauses is read clause by clause. -/
lemma readBlock_of_clauses? {strict : Bool} {block : Block} {name : List Char} {clauses : Clauses}
    (next : Option SourceLine) (hname : ruleName? block.header.text = some name)
    (hclauses : block.clauses? = some clauses) :
    readBlock strict next block = do
      let guards ← readConditions ⟨strict, clauses.whenLine.number⟩ clauses.conditions
      if guards.isEmpty then
        rejectLine (.noConditions (String.ofList name)) clauses.whenLine
      else do
        let actions ← readActions ⟨strict, clauses.thenLine.number⟩ clauses.actions
        if actions.isEmpty then rejectLine (.noActions (String.ofList name)) clauses.thenLine
        else return ⟨String.ofList name, guards, actions⟩ := by
  obtain ⟨header, body⟩ := block
  unfold Block.clauses? at hclauses
  split at hclauses
  · cases hclauses
  · next whenLine lines hbody =>
    subst hbody
    split at hclauses
    · next firstCondition thenLine actionLines hwhen hdrop =>
      obtain rfl := Option.some.inj hclauses
      unfold SourceLine.isThen at hdrop
      simp only [readBlock, hname, hwhen, hdrop]
      rfl
    · cases hclauses

/-- The rule of a block with a name and both clauses is made of what the clauses give. -/
lemma readBlock_eq_ok_of_clauses? {strict : Bool} {block : Block} {name : List Char}
    {clauses : Clauses} {rule : Rule} (next : Option SourceLine)
    (hname : ruleName? block.header.text = some name) (hclauses : block.clauses? = some clauses) :
    (readBlock strict next block).result = .ok rule ↔ rule.name = String.ofList name ∧
      (readConditions ⟨strict, clauses.whenLine.number⟩ clauses.conditions).result =
        .ok rule.guards ∧ rule.guards ≠ [] ∧
      (readActions ⟨strict, clauses.thenLine.number⟩ clauses.actions).result =
        .ok rule.actions ∧ rule.actions ≠ [] := by
  rw [readBlock_of_clauses? next hname hclauses]
  constructor
  · intro h
    obtain ⟨guards, hguards, h⟩ := Logged.result_bind_eq_ok.mp h
    split at h
    · cases h
    · next hg =>
      obtain ⟨actions, hactions, h⟩ := Logged.result_bind_eq_ok.mp h
      split at h
      · cases h
      · next ha =>
        obtain rfl := Except.ok.inj h
        exact ⟨rfl, hguards, by simpa using hg, hactions, by simpa using ha⟩
  · rintro ⟨hrule, hguards, hg, hactions, ha⟩
    refine Logged.result_bind_eq_ok.mpr ⟨rule.guards, hguards, ?_⟩
    rw [if_neg (by simpa using hg)]
    refine Logged.result_bind_eq_ok.mpr ⟨rule.actions, hactions, ?_⟩
    rw [if_neg (by simpa using ha), ← hrule]
    rfl

/-- A rule is read from the header and the two clauses of its block. -/
lemma readBlock_eq_ok {strict : Bool} {next : Option SourceLine} {block : Block} {rule : Rule}
    (h : (readBlock strict next block).result = .ok rule) :
    ∃ name clauses, ruleName? block.header.text = some name ∧ rule.name = String.ofList name ∧
      block.clauses? = some clauses ∧
      (readConditions ⟨strict, clauses.whenLine.number⟩ clauses.conditions).result =
        .ok rule.guards ∧ rule.guards ≠ [] ∧
      (readActions ⟨strict, clauses.thenLine.number⟩ clauses.actions).result =
        .ok rule.actions ∧ rule.actions ≠ [] := by
  unfold readBlock at h
  cases hname : ruleName? block.header.text with
  | none => simp [hname, rejectLine] at h
  | some name =>
    simp only [hname] at h
    cases hbody : block.body with
    | nil => simp [hbody, rejectLine] at h
    | cons whenLine lines =>
      simp only [hbody] at h
      cases hwhen : clause? "when" whenLine.text with
      | none => simp [hwhen, rejectLine] at h
      | some firstCondition =>
        simp only [hwhen] at h
        cases hthen : lines.dropWhile fun line => !(clause? "then" line.text).isSome with
        | nil =>
          simp only [hthen] at h
          simp [rejectLine] at h
        | cons thenLine actionLines =>
          simp only [hthen] at h
          obtain ⟨guards, hguards, h⟩ := Logged.result_bind_eq_ok.mp h
          split at h
          · simp [rejectLine] at h
          · next hg =>
            obtain ⟨actions, hactions, h⟩ := Logged.result_bind_eq_ok.mp h
            split at h
            · simp [rejectLine] at h
            · next ha =>
              simp only [Logged.result_pure, Except.ok.injEq] at h
              subst h
              have hclauses : block.clauses? = some ⟨whenLine,
                  joinClause firstCondition (lines.takeWhile fun line => !line.isThen), thenLine,
                  joinClause ((clause? "then" thenLine.text).getD []) actionLines⟩ := by
                simp only [Block.clauses?, hbody, hwhen, SourceLine.isThen, hthen]
              exact ⟨name, _, rfl, rfl, hclauses, hguards, by simpa using hg, hactions,
                by simpa using ha⟩

/-- The rules of blocks are read block by block. -/
lemma readBlocks_eq_ok {strict : Bool} {blocks : List Block} {rules : List Rule}
    (h : (readBlocks strict blocks).result = .ok rules) :
    List.Forall₂ (fun block rule => ∃ next, (readBlock strict next block).result = .ok rule)
      blocks rules := by
  induction blocks generalizing rules with
  | nil =>
    simp only [readBlocks, Logged.result_pure, Except.ok.injEq] at h
    exact h ▸ .nil
  | cons block blocks ih =>
    obtain ⟨rule, hrule, h⟩ := Logged.result_bind_eq_ok.mp h
    obtain ⟨rest, hrest, h⟩ := Logged.result_bind_eq_ok.mp h
    simp only [Logged.result_pure, Except.ok.injEq] at h
    exact h ▸ .cons ⟨_, hrule⟩ (ih hrest)

/-- The rules of a text are those of its blocks; in strict mode no line stands outside of one. -/
lemma readRules_eq_ok {strict : Bool} {text : String} {rules : List Rule}
    (h : (readRules strict text).result = .ok rules) :
    (strict = true → (splitBlocks (significantLines text.toList)).1 = []) ∧
      List.Forall₂ (fun block rule => ∃ next, (readBlock strict next block).result = .ok rule)
        (splitBlocks (significantLines text.toList)).2 rules := by
  unfold readRules readLines at h
  obtain ⟨⟨⟩, hskip, h⟩ := Logged.result_bind_eq_ok.mp h
  refine ⟨fun hs => ?_, readBlocks_eq_ok h⟩
  subst hs
  cases hstray : (splitBlocks (significantLines text.toList)).1 with
  | nil => rfl
  | cons line rest =>
    rw [hstray] at hskip
    simp [skipStray, rejectLine] at hskip

end Cascade
