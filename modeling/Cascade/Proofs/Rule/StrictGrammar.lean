import Cascade.Proofs.Rule.Names
import Cascade.Proofs.Rule.Operands

/-!
# When strict reading stays within the grammar of operands

The grammar knows four forms of operand texts: a literal in quotes with no quote inside, the name of
a field, a scope with a point and a name, and a selector with a point and a name
(`FitsOperandGrammar`).  An operand fits the grammar when its literal holds no quote or its field is
a name (`Operand.FitsGrammar`).

Strict reading rejects an unqualified field that is no name, but it takes any text with quotes at
both ends for a literal, and whatever stands behind a scope or a selector for a field.  The main
result `strict_operands_fit_iff` says exactly when the operands of accepted rules fit the grammar:
when every operand text of the file does.  `strict_swallows_disjunction` is an accepted rule for
which it does not.
-/

namespace Cascade

/-- The documented forms of operand texts. -/
inductive FitsOperandGrammar : List Char → Prop
  | literal {value : List Char} : '"' ∉ value → FitsOperandGrammar (quotedLiteral value)
  /-- A name by itself; one with a scope, a point and more in front is of the next form. -/
  | name {text : List Char} : isFieldName text = true →
      (∀ scope ∈ qualifiers, ∀ rest, rest ≠ [] → text ≠ scope.word.toList ++ '.' :: rest) →
      FitsOperandGrammar text
  | qualified {scope : Scope} {rest : List Char} : scope ∈ qualifiers →
      isFieldName (Text.trim rest) = true →
      FitsOperandGrammar (scope.word.toList ++ '.' :: rest)
  | selector {scope : Scope} {conditions rest text : List Char} :
      scope ∈ [Scope.children, .child] → isFieldName (Text.trim rest) = true →
      text = scope.word.toList ++ '(' :: (conditions ++ ')' :: '.' :: rest) →
      closingParen? text scope.word.length = some (scope.word.length + 1 + conditions.length) →
      FitsOperandGrammar text

/-- An operand that the grammar can write: a literal without quotes, or a field with a name. -/
def Operand.FitsGrammar : Operand → Prop
  | .literal text => '"' ∉ text.toList
  | .field reference => isFieldName reference.name.toList = true

/-! ## Form by form -/

section
variable {text : List Char}

/-- A text in quotes fits the grammar when no quote stands inside. -/
lemma fitsOperandGrammar_quotedLiteral {value : List Char} :
    FitsOperandGrammar (quotedLiteral value) ↔ '"' ∉ value := by
  constructor
  · intro h
    generalize ht : quotedLiteral value = text at h
    cases h with
    | literal hq =>
      obtain rfl := List.append_cancel_right (List.cons.inj ht).2
      exact hq
    | name hname _ =>
      have : '"' ∈ text := by simp [← ht, quotedLiteral]
      exact absurd this (isFieldName_not_mem hname (by decide))
    | qualified hs _ => exact absurd ht (quote_cons_ne_scope hs)
    | selector hs _ htext _ =>
      exact absurd (ht.trans htext) (quote_cons_ne_scope (mem_qualifiers_of_mem hs))
  · exact .literal

/-- A scope with a point in front fits the grammar when a name follows. -/
lemma fitsOperandGrammar_qualified {scope : Scope} (hs : scope ∈ qualifiers) {rest : List Char}
    (hne : rest ≠ []) :
    FitsOperandGrammar (scope.word.toList ++ '.' :: rest) ↔
      isFieldName (Text.trim rest) = true := by
  constructor
  · intro h
    generalize ht : scope.word.toList ++ '.' :: rest = text at h
    cases h with
    | literal _ => exact absurd ht.symm (quote_cons_ne_scope hs)
    | name _ hno => exact absurd ht.symm (hno scope hs rest hne)
    | qualified hs' hname =>
      obtain ⟨-, -, rfl⟩ := scope_mark_unique hs hs' (.inl rfl) (.inl rfl) ht
      exact hname
    | selector hs' _ htext _ =>
      have := scope_mark_unique hs (mem_qualifiers_of_mem hs') (.inl rfl) (.inr rfl)
        (ht.trans htext)
      exact absurd this.2.1 (by decide)
  · exact .qualified hs

/-- A selector fits the grammar when a name follows the point behind it. -/
lemma fitsOperandGrammar_selector {scope : Scope} (hs : scope ∈ [Scope.children, .child])
    {conditions rest : List Char}
    (htext : text = scope.word.toList ++ '(' :: (conditions ++ ')' :: '.' :: rest))
    (hclose : closingParen? text scope.word.length =
      some (scope.word.length + 1 + conditions.length)) :
    FitsOperandGrammar text ↔ isFieldName (Text.trim rest) = true := by
  have hq := mem_qualifiers_of_mem hs
  constructor
  · intro h
    cases h with
    | literal _ => exact absurd htext (quote_cons_ne_scope hq)
    | name hname _ =>
      have : '(' ∈ text := by simp [htext]
      exact absurd this (isFieldName_not_mem hname (by decide))
    | qualified hs' _ =>
      have := scope_mark_unique hs' hq (.inl rfl) (.inr rfl) htext
      exact absurd this.2.1 (by decide)
    | @selector scope' conditions' rest' _ hs' hname htext' hclose' =>
      obtain ⟨rfl, -, heq⟩ := scope_mark_unique hq (mem_qualifiers_of_mem hs') (.inr rfl)
        (.inr rfl) (htext.symm.trans htext')
      -- the same parenthesis closes both selectors, so their conditions are of one length
      rw [hclose] at hclose'
      have hlen : conditions.length = conditions'.length := by
        have := Option.some.inj hclose'
        omega
      obtain ⟨-, htail⟩ := List.append_inj heq hlen
      simp only [List.cons.injEq, true_and] at htail
      rw [htail]
      exact hname
  · exact fun hname => .selector hs hname htext hclose

end

/-- A name that no scope qualifies fits the grammar by itself. -/
lemma fitsOperandGrammar_name {text : List Char} (hname : isFieldName text = true)
    (hlines : ∀ scope rest, scopeBefore? '.' qualifiers text = some (scope, rest) →
      soleLine? rest = none) : FitsOperandGrammar text := by
  refine .name hname fun scope hs rest hne htext => ?_
  -- A scope with more behind the point would have been taken off: a name holds no line feed.
  cases hb : scopeBefore? '.' qualifiers text with
  | none => exact scopeBefore?_ne_none hs htext hb
  | some p =>
    obtain ⟨scope', rest'⟩ := p
    obtain ⟨hs', htext'⟩ := scopeBefore?_eq_some hb
    obtain ⟨-, -, rfl⟩ := scope_mark_unique hs hs' (.inl rfl) (.inl rfl) (htext.symm.trans htext')
    have hfeed : '\n' ∉ rest := fun h =>
      isFieldName_not_mem hname (by decide) (c := '\n') (by simp [htext, h])
    have halone := soleLine?_of_not_mem hfeed hne
    rw [hlines _ _ hb] at halone
    cases halone

/-- What strict reading makes of a text fits the grammar exactly when the text does. -/
lemma OperandForm.fitsGrammar_iff {readInner : List Char → Read (List Condition)} {r : Reading}
    (hr : r.strict = true) {text : List Char} {op : Operand}
    (h : OperandForm readInner r text op) : op.FitsGrammar ↔ FitsOperandGrammar text := by
  cases h with
  | literal hl =>
    rw [literal?_eq_some.mp hl]
    exact fitsOperandGrammar_quotedLiteral.symm
  | selector hl hsel hparts _ _ =>
    obtain ⟨hs, -, rest, -, hfield, htext, hclose⟩ := selectorParts?_eq_some hsel hparts
    rw [fitsOperandGrammar_selector hs htext hclose, Operand.FitsGrammar, ← hfield]
    simp [Reference.name]
  | qualified hl _ hb hn =>
    obtain ⟨hs, htext⟩ := scopeBefore?_eq_some hb
    obtain ⟨hne, htrim⟩ := soleLine?_eq_some hn
    rw [htext, fitsOperandGrammar_qualified hs, ← htrim, Operand.FitsGrammar]
    · simp [Reference.name]
    · rintro rfl
      cases hn
  | implicit _ _ hlines hname =>
    refine ⟨fun _ => fitsOperandGrammar_name (hname hr) hlines, fun _ => ?_⟩
    simpa [Operand.FitsGrammar, Reference.name] using hname hr

/-- A text and the operand it is read as fit the grammar together. -/
lemma ReadsAs.fitsGrammar_iff {text : List Char} {op : Operand} (h : ReadsAs text op) :
    op.FitsGrammar ↔ FitsOperandGrammar text := by
  obtain ⟨htrim, r, readInner, hr, hread⟩ := h
  have hform := readOperandWith_eq_ok hread
  rw [htrim] at hform
  exact hform.fitsGrammar_iff hr

/-! ## The exact condition -/

/-- **When strict reading keeps to the grammar.**  If a rule file is accepted in strict mode, the
operands of its rules, at any depth of selectors, fit the grammar exactly when all its operand texts
do. -/
theorem strict_operands_fit_iff {text : String} {rules : List Rule}
    (h : (readRules true text).result = .ok rules) :
    (∀ rule ∈ rules, ∀ op ∈ rule.operands, op.FitsGrammar) ↔
      ∀ t, OperandText text t → FitsOperandGrammar t := by
  have hcorr := corresponds_readRules h
  constructor
  · intro hops t ht
    obtain ⟨op, hop, hread⟩ := hcorr.operand_of_text t ht
    obtain ⟨rule, hrule, hop⟩ := List.mem_flatMap.mp hop
    exact hread.fitsGrammar_iff.mp (hops rule hrule op hop)
  · intro htexts rule hrule op hop
    obtain ⟨t, ht, hread⟩ :=
      hcorr.text_of_operand op (List.mem_flatMap.mpr ⟨rule, hrule, hop⟩)
    exact hread.fitsGrammar_iff.mpr (htexts t ht)

/-- A rule whose guard has two comparisons on its right side. -/
def disjunctionText : String :=
  "rule \"r\": when me.Title is \"A\" or me.State is \"B\" then set me.State = \"X\""

/-- What strict reading makes of it: one guard, whose right side is a single literal. -/
def disjunctionRules : List Rule :=
  [{ name := "r"
     guards := [.mk (.field (.mk .me "Title" none)) .equal (.literal "A\" or me.State is \"B")]
     actions := [{ kind := .set, target := .mk .me "State" none, value := .literal "X" }] }]

/-- Strict reading accepts that rule with a literal that holds quotes, and one of its operand texts
is not in the grammar. -/
theorem strict_swallows_disjunction :
    (readRules true disjunctionText).result = .ok disjunctionRules ∧
      ¬ ∀ t, OperandText disjunctionText t → FitsOperandGrammar t := by
  have hread : (readRules true disjunctionText).result = .ok disjunctionRules := by decide +kernel
  refine ⟨hread, fun htexts => ?_⟩
  have hfits := (strict_operands_fit_iff hread).mpr htexts
  have hliteral := hfits _ List.mem_cons_self (.literal "A\" or me.State is \"B") (by
    simp [Rule.operands, Condition.operands, conditionOperands, Operand.operands])
  exact hliteral (by simp)

end Cascade
