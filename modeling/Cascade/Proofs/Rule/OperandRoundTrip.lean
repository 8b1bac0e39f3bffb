import Cascade.Proofs.Rule.Rendering

/-!
# Reading written operands and conditions

What the printer writes for an operand or a condition is read back as it was, in both modes and
without a notice (`readOperandWithin_render`, `readConditions_render`).  The recursion through
selectors is followed by induction on the depth up to which the reader goes: every selector is
written with a parenthesis, so a reader that may go as deep as there are parentheses goes deep
enough.
-/

namespace Cascade

open Text (IsTrimmed isLineBreak isBlank isWord)

variable {r : Reading} {readInner : List Char → Read (List Condition)}

/-- A phrase does not begin with one of its words. -/
lemma IsPhrase.takeWhile_not_mem {words : List (List Char)} {t rest : List Char}
    (h : IsPhrase words t) (hnil : [] ∉ words) (hrest : endsWord rest = true) :
    (t ++ rest).takeWhile isWord ∉ words := by
  intro hmem
  have hquiet := h.quiet none rest hrest
  obtain ⟨c, t, rfl⟩ := List.exists_cons_of_ne_nil h.nonempty
  by_cases hc : isWord c = true
  · refine hquiet.1 ?_ ⟨rfl, hmem⟩
    obtain ⟨h1, h2, h3⟩ : IsPlain c := IsNameChar.isPlain (.inl hc)
    simp [Nesting.isTopLevel, h1, h2, h3]
  · rw [List.cons_append, List.takeWhile_cons_of_neg hc] at hmem
    exact hnil hmem

/-! ## References without selector -/

/-- The word of a scope is the first run of a text that goes on with a point. -/
lemma head?_wordRuns_scope {scope : Scope} (rest : List Char) :
    (wordRuns (scope.word.toList ++ '.' :: rest)).head? = some scope.word.toList := by
  have hpoint : endsWord ('.' :: rest) = true := endsWord_cons.mpr (by decide)
  have hword : wordRuns scope.word.toList = [scope.word.toList] := by cases scope <;> decide
  rw [wordRuns_append hpoint, hword]
  rfl

/-- A scope and its mark are found at the start of a text. -/
lemma scopeBefore?_scope {mark : Char} {scopes : List Scope} {scope : Scope} {rest : List Char}
    (hmark : mark = '.' ∨ mark = '(') (hs : scope ∈ scopes) (hsub : scopes ⊆ qualifiers) :
    scopeBefore? mark scopes (scope.word.toList ++ mark :: rest) = some (scope, rest) := by
  cases hb : scopeBefore? mark scopes (scope.word.toList ++ mark :: rest) with
  | none => exact absurd hb (scopeBefore?_ne_none hs rfl)
  | some p =>
    obtain ⟨scope', rest'⟩ := p
    obtain ⟨hs', htext⟩ := scopeBefore?_eq_some hb
    obtain ⟨rfl, -, rfl⟩ := scope_mark_unique (hsub hs) (hsub hs') hmark hmark htext
    rfl

lemma Scope.lead_of_ne {scope : Scope} (h : scope ≠ .implicit) :
    scope.lead = scope.word.toList ++ ['.'] ∧ scope ∈ qualifiers := by
  cases scope with
  | implicit => exact absurd rfl h
  | _ => exact ⟨rfl, by decide⟩

/-- A name with its scope is read back. -/
lemma readPlainOperand_render {scope : Scope} {name : String} (h : IsFieldOf scope name) :
    readPlainOperand r (scope.lead ++ name.toList) = pure (.field (.mk scope name none)) := by
  unfold readPlainOperand
  by_cases hscope : scope = .implicit
  · subst hscope
    have hnone : scopeBefore? '.' qualifiers name.toList = none := by
      cases hb : scopeBefore? '.' qualifiers name.toList with
      | none => rfl
      | some p =>
        obtain ⟨hs, htext⟩ := scopeBefore?_eq_some hb
        have hrun : (wordRuns (p.1.word.toList ++ '.' :: p.2)).head? = some p.1.word.toList :=
          head?_wordRuns_scope p.2
        rw [← htext] at hrun
        exact absurd hrun (h.no_scope rfl p.1 hs)
    simp only [Scope.lead, List.nil_append]
    rw [show [Scope.me, .parent, .children, .child] = qualifiers from rfl, hnone]
    simp [h.isName]
  · obtain ⟨hlead, hmem⟩ := Scope.lead_of_ne hscope
    have hline : soleLine? name.toList = some name.toList :=
      soleLine?_of_not_mem (isFieldName_not_mem h.isName (by decide)) h.ne_nil
    have htrim : Text.trim name.toList = name.toList :=
      (isTrimmed_of_forall fun c hc => (h.isNameChar c hc).isBlank_eq_false).trim_eq
    rw [hlead, List.append_assoc, List.singleton_append,
      show [Scope.me, .parent, .children, .child] = qualifiers from rfl,
      scopeBefore?_scope (.inl rfl) hmem (List.Subset.refl _)]
    simp [hline, htrim]

/-- A text of name characters is neither a literal nor a selector. -/
lemma literal?_of_nameChars {t : List Char} (h : ∀ c ∈ t, IsNameChar c) : literal? t = none := by
  cases hl : literal? t with
  | none => rfl
  | some value =>
    have hq : '"' ∈ t := by simp [literal?_eq_some.mp hl]
    exact absurd rfl ((h _ hq).ne (by decide))

lemma selectorScope?_of_nameChars {t : List Char} (h : ∀ c ∈ t, IsNameChar c) :
    selectorScope? t = none := by
  cases hs : scopeBefore? '(' [.children, .child] t with
  | none => rw [selectorScope?, hs, Option.map_none]
  | some p =>
    have hp : '(' ∈ t := by simp [(scopeBefore?_eq_some hs).2]
    exact absurd rfl ((h _ hp).ne (by decide))

lemma isNameChar_of_mem_word {scope : Scope} {c : Char} (h : c ∈ scope.word.toList) :
    IsNameChar c := by
  have hall : scope.word.toList.all isWord = true := by cases scope <;> decide
  exact .inl (List.all_eq_true.mp hall c h)

lemma isNameChar_of_mem_plainReference {scope : Scope} {name : String} (h : IsFieldOf scope name) :
    ∀ c ∈ scope.lead ++ name.toList, IsNameChar c := by
  intro c hc
  rcases List.mem_append.mp hc with hc | hc
  · by_cases hscope : scope = .implicit
    · subst hscope
      cases hc
    · rw [(Scope.lead_of_ne hscope).1] at hc
      rcases List.mem_append.mp hc with hc | hc
      · exact isNameChar_of_mem_word hc
      · exact .inr (.inl (List.mem_singleton.mp hc))
  · exact h.isNameChar c hc

/-- A written operand begins with a quote or a name. -/
lemma Operand.exists_render_eq_cons {op : Operand} (h : op.WellFormed) :
    ∃ c t, op.render = c :: t ∧ (c = '"' ∨ IsNameChar c) := by
  match op, h with
  | .literal text, _ => exact ⟨_, _, rfl, .inl rfl⟩
  | .field (.mk scope name none), h =>
    obtain ⟨c, t, hct⟩ := List.exists_cons_of_ne_nil (isPhrase_plainReference h).nonempty
    have hc : c ∈ scope.lead ++ name.toList := hct ▸ List.mem_cons_self
    exact ⟨c, t, hct, .inr (isNameChar_of_mem_plainReference h c hc)⟩
  | .field (.mk scope name (some cs)), _ =>
    obtain ⟨c, t, hct⟩ := List.exists_cons_of_ne_nil (isPhrase_scope scope).nonempty
    have hc : c ∈ scope.word.toList := hct ▸ List.mem_cons_self
    refine ⟨c, t ++ ('(' :: (renderConditions cs ++ [')'])) ++ '.' :: name.toList, ?_,
      .inr (isNameChar_of_mem_word hc)⟩
    rw [Operand.render, Reference.render, hct]
    rfl

lemma readOperandWith_plainReference {scope : Scope} {name : String} (h : IsFieldOf scope name) :
    readOperandWith readInner r (scope.lead ++ name.toList) =
      pure (.field (.mk scope name none)) := by
  have hchars := isNameChar_of_mem_plainReference h
  simp only [readOperandWith, (isPhrase_plainReference h).trimmed.trim_eq,
    literal?_of_nameChars hchars, selectorScope?_of_nameChars hchars, readPlainOperand_render h]

/-! ## References with selector -/

section
variable {scope : Scope} {name : String} {conditions : List Char}

/-- The parts of a written selector are found. -/
lemma selectorParts?_render (hname : IsFieldOf scope name) (hc : Balanced conditions) :
    selectorParts? scope scope.word.length
        (scope.word.toList ++ ('(' :: (conditions ++ [')'])) ++ '.' :: name.toList) =
      some ⟨scope, conditions, name.toList⟩ := by
  have htext : scope.word.toList ++ ('(' :: (conditions ++ [')'])) ++ '.' :: name.toList =
      scope.word.toList ++ '(' :: (conditions ++ ')' :: '.' :: name.toList) := by simp
  have hclose : closingParen? (scope.word.toList ++ '(' :: (conditions ++ ')' :: '.' ::
      name.toList)) scope.word.length = some (scope.word.length + 1 + conditions.length) := by
    rw [closingParen?, ← String.length_toList, List.drop_left]
    show closingFrom false ((0 + 1 : Nat) : Int) (scope.word.toList.length + 1) _ = _
    rw [hc.closingFrom_append]
    rfl
  have hdrop : (scope.word.toList ++ '(' :: (conditions ++ ')' :: '.' :: name.toList)).drop
      (scope.word.length + 1 + conditions.length + 1) = '.' :: name.toList := by
    have : scope.word.toList ++ '(' :: (conditions ++ ')' :: '.' :: name.toList) =
        (scope.word.toList ++ '(' :: conditions ++ [')']) ++ '.' :: name.toList := by simp
    rw [this, List.drop_left']
    simp only [List.length_append, List.length_cons, List.length_nil, String.length_toList]
    omega
  have hinner : ((scope.word.toList ++ '(' :: (conditions ++ ')' :: '.' :: name.toList)).take
      (scope.word.length + 1 + conditions.length)).drop (scope.word.length + 1) = conditions := by
    have : scope.word.toList ++ '(' :: (conditions ++ ')' :: '.' :: name.toList) =
        (scope.word.toList ++ ['(']) ++ conditions ++ ')' :: '.' :: name.toList := by simp
    have hlen : (scope.word.toList ++ ['('] ++ conditions).length =
        scope.word.length + 1 + conditions.length := by
      simp only [List.length_append, List.length_cons, List.length_nil, String.length_toList]
    rw [this, List.take_left' hlen, List.drop_left' (by simp [String.length_toList])]
  have htrim : Text.trim name.toList = name.toList :=
    (isTrimmed_of_forall fun c hc => (hname.isNameChar c hc).isBlank_eq_false).trim_eq
  obtain ⟨c, rest, hcons⟩ := List.exists_cons_of_ne_nil hname.ne_nil
  rw [hcons] at htrim hdrop hclose hinner ⊢
  rw [hcons] at htext
  rw [htext, selectorParts?, hclose]
  simp only [hdrop, hinner, htrim]

/-- A selector is read back when its conditions are. -/
lemma readOperandWith_selector {cs : List Condition} (hname : IsFieldOf scope name)
    (hs : scope ∈ [Scope.children, .child]) (hne : cs ≠ [])
    (hcs : conditionsWellFormed cs)
    (hinner : readInner (renderConditions cs) = pure cs) :
    readOperandWith readInner r (Reference.mk scope name (some cs)).render =
      pure (.field (.mk scope name (some cs))) := by
  have hphrase := isPhrase_reference (.mk scope name (some cs)) ⟨hname, hs, hne, hcs⟩
  have hparts := selectorParts?_render hname (balanced_renderConditions cs hcs).1
  rw [Reference.render] at hphrase ⊢
  have hscope : selectorScope? (scope.word.toList ++ ('(' :: (renderConditions cs ++ [')'])) ++
      '.' :: name.toList) = some (scope, scope.word.length) := by
    rw [List.append_assoc, List.cons_append, selectorScope?,
      scopeBefore?_scope (.inr rfl) hs (by decide), Option.map_some]
  have hliteral : literal? (scope.word.toList ++ ('(' :: (renderConditions cs ++ [')'])) ++
      '.' :: name.toList) = none := by
    cases hl : literal? _ with
    | none => rfl
    | some value =>
      have := literal?_eq_some.mp hl
      rw [List.append_assoc] at this
      exact absurd this.symm (quote_cons_ne_scope (mem_qualifiers_of_mem hs))
  have hempty : cs.isEmpty = false := by simpa using hne
  simp only [readOperandWith, hphrase.trimmed.trim_eq, hliteral, hscope, hparts, hinner, pure_bind,
    hempty, Bool.false_and, Bool.false_eq_true, if_false, String.ofList_toList]

end

/-! ## Conditions -/

lemma afterWords?_spelling_self (c : Comparison) (right : List Char) :
    afterWords? (c.words.map String.toList) (c.spelling.toList ++ ' ' :: right) =
      some (' ' :: right) := by
  have hblank : isBlank ' ' = true := by decide
  have hletters : isBlank 'm' = false ∧ isBlank 'w' = false ∧ isBlank 'n' = false := by decide
  cases c <;> simp [Comparison.words, Comparison.spelling, afterWords?, Text.after?, hblank,
    Text.trimStart, hletters]

/-- Another comparison does not stand where one is written, except that `is` may go on. -/
lemma afterWords?_spelling_of_ne {c other : Comparison} {right : List Char} (hne : other ≠ c)
    (hequal : other ≠ .equal) (htrim : IsTrimmed right) :
    afterWords? (other.words.map String.toList) (c.spelling.toList ++ ' ' :: right) =
      if c = .equal ∧ other = .notEqual then Text.after? "not".toList right else none := by
  have hblank : isBlank ' ' = true := by decide
  have hstart : Text.trimStart right = right := Text.trimStart_eq_self htrim.1
  cases other with
  | equal => exact absurd rfl hequal
  | _ =>
    cases c <;> first
      | exact absurd rfl hne
      | simp [Comparison.words, Comparison.spelling, afterWords?, Text.after?, hblank, hstart]

/-- A written comparison is found where it begins, unless the word `not` follows it. -/
lemma comparisonAt?_spelling (c : Comparison) {right : List Char} (htrim : IsTrimmed right)
    (hnot : right.takeWhile isWord ≠ "not".toList) :
    comparisonAt? (c.spelling.toList ++ ' ' :: right) = some (c, ' ' :: right) := by
  rw [comparisonAt?_eq_findSome?]
  have hself : tryComparison (c.spelling.toList ++ ' ' :: right) c = some (c, ' ' :: right) := by
    simp only [tryComparison, afterWords?_spelling_self, endsWord_space, if_true]
  have hother : ∀ other, other ≠ c → other ≠ .equal →
      tryComparison (c.spelling.toList ++ ' ' :: right) other = none := by
    intro other hne hequal
    simp only [tryComparison, afterWords?_spelling_of_ne hne hequal htrim]
    split
    · next rest hafter =>
      split at hafter
      · rw [if_neg]
        intro hrest
        exact hnot (takeWhile_isWord_of_after? (by decide) hafter hrest)
      · cases hafter
    · rfl
  -- `is` is the last one to be tried, so it is in no other's way
  cases c <;> simp [Comparison.all, hself, hother]

/-- Behind a space a written comparison is the operator. -/
lemma findOperatorFrom_spelling (c : Comparison) {right : List Char} (htrim : IsTrimmed right)
    (hnot : right.takeWhile isWord ≠ "not".toList) :
    ∃ written, findOperatorFrom .outside (some ' ') (c.spelling.toList ++ ' ' :: right) =
      some ⟨[], c, written, ' ' :: right⟩ := by
  have hfound := comparisonAt?_spelling c htrim hnot
  obtain ⟨d, spelling, hspelling⟩ := List.exists_cons_of_ne_nil (isPhrase_spelling c).nonempty
  have htop : Nesting.outside.isTopLevel d = true := by
    have hall : c.spelling.toList.all Nesting.outside.isTopLevel = true := by cases c <;> decide
    exact List.all_eq_true.mp hall d (by simp [hspelling])
  have hspace : ((some ' ').map isWord).getD false = false := isInsideWord_space
  rw [hspelling, List.cons_append] at hfound ⊢
  rw [findOperatorFrom, htop, hspace, Bool.not_false, Bool.and_self, if_pos rfl, hfound]
  exact ⟨_, rfl⟩

/-- The operator of a written condition is found between its operands. -/
lemma findOperator_render {left right : Operand} {comparison : Comparison}
    (hleft : left.WellFormed) (hright : right.WellFormed) :
    ∃ written, findOperator (Condition.mk left comparison right).render =
      some ⟨left.render ++ [' '], comparison, written, ' ' :: right.render⟩ := by
  have hl := isPhrase_operand left hleft
  have hr := isPhrase_operand right hright
  have hnot : right.render.takeWhile isWord ≠ "not".toList := by
    intro h
    have hno : (right.render ++ []).takeWhile isWord ∉ languageWords :=
      hr.takeWhile_not_mem nil_not_mem_languageWords rfl
    rw [List.append_nil, h] at hno
    exact hno (by decide)
  have hquiet : Quiet OperatorHit .outside none (left.render ++ [' '])
      (comparison.spelling.toList ++ ' ' :: right.render) :=
    (hl.quiet_space nil_not_mem_languageWords _ _).mono fun _ _ =>
      OperatorHit.wordHit (by decide)
  obtain ⟨written, hfound⟩ := findOperatorFrom_spelling comparison hr.trimmed hnot
  refine ⟨written, ?_⟩
  rw [Condition.render, findOperator, ← List.singleton_append, ← List.append_assoc,
    findOperatorFrom_append hquiet, hl.steps_space, lastOf_space, hfound]
  simp

/-- A written condition is read back when its operands are. -/
lemma readConditionWith_render {readOperand : List Char → Read Operand} {left right : Operand}
    {comparison : Comparison} (h : (Condition.mk left comparison right).WellFormed)
    (hleft : readOperand left.render = pure left)
    (hright : readOperand right.render = pure right) :
    readConditionWith readOperand r (Condition.mk left comparison right).render =
      pure (some (.mk left comparison right)) := by
  obtain ⟨written, hfound⟩ : ∃ written, findOperator (Condition.mk left comparison right).render =
      some ⟨left.render ++ [' '], comparison, written, ' ' :: right.render⟩ :=
    findOperator_render h.1 h.2.1
  have hl := isPhrase_operand left h.1
  have hr := isPhrase_operand right h.2.1
  have hcheck : ∀ text, checkRight r text comparison right = pure () := by
    intro text
    unfold checkRight
    split
    · next pattern =>
      split
      · next htakes =>
        obtain ⟨node, hnode⟩ := h.2.2 htakes
        simp only [checkPattern, hnode]
      · rfl
    · rfl
  simp only [readConditionWith, hfound, hl.trim_append_space, hr.trim_space_cons, hright, hleft,
    hcheck, pure_bind, List.isEmpty_eq_false_iff.mpr hl.nonempty,
    List.isEmpty_eq_false_iff.mpr hr.nonempty, Bool.or_self, Bool.false_eq_true, if_false]

/-! ## Lists of conditions -/

/-- Trimming leaves phrases alone. -/
lemma trimPieces_of_phrases {words : List (List Char)} {pieces : List (List Char)}
    (h : ∀ piece ∈ pieces, IsPhrase words piece) : trimPieces pieces = pieces := by
  have hmap : pieces.map Text.trim = pieces :=
    List.map_congr_left (fun piece hp => (h piece hp).trimmed.trim_eq) |>.trans (List.map_id _)
  rw [trimPieces, hmap, List.filter_eq_self]
  intro piece hp
  simpa using (h piece hp).nonempty

/-- At a conjunction a piece ends and the next one begins. -/
lemma cutConditions_conjunction (rest : List Char) :
    cutConditions .outside 0 (conjunction ++ rest) = [] :: cutConditions .outside 0 rest := by
  have hconj : conjunction = [' ', 'a', 'n', 'd', ' '] := by decide
  have htop : Nesting.outside.isTopLevel ' ' = true := by decide
  simp [hconj, cutConditions, htop]

/-- Written conditions are cut where they were joined. -/
lemma cutConditions_render {cs : List Condition} (hne : cs ≠ []) (h : conditionsWellFormed cs) :
    cutConditions .outside 0 (renderConditions cs) = cs.map Condition.render := by
  induction cs with
  | nil => exact absurd rfl hne
  | cons c cs ih =>
    have hphrase := isPhrase_condition c h.1
    have hquiet : ∀ rest, endsWord rest = true →
        Quiet ConjunctionHit .outside none c.render rest := fun rest hrest =>
      quiet_conjunction (by decide) (hphrase.quiet none rest hrest) hrest
    cases cs with
    | nil =>
      have hnil : cutConditions (Nesting.outside.steps c.render) 0 [] = [[]] := rfl
      have hcut := cutConditions_append (hquiet [] rfl) hnil
      rw [List.append_nil] at hcut
      exact hcut
    | cons d rest =>
      have hrest : cutConditions (Nesting.outside.steps c.render) 0
          (conjunction ++ renderConditions (d :: rest)) =
            [] :: (d :: rest).map Condition.render := by
        rw [hphrase.balanced.steps_outside, cutConditions_conjunction,
          ih (List.cons_ne_nil d rest) h.2]
      have hends : endsWord (conjunction ++ renderConditions (d :: rest)) = true := rfl
      rw [renderConditions, List.append_assoc, cutConditions_append (hquiet _ hends) hrest,
        List.append_nil]
      rfl

lemma splitConditions_render {cs : List Condition} (hne : cs ≠ []) (h : conditionsWellFormed cs) :
    splitConditions (renderConditions cs) = cs.map Condition.render := by
  have hphrases : ∀ piece ∈ cs.map Condition.render, IsPhrase clauseWords piece := by
    intro piece hp
    obtain ⟨c, hc, rfl⟩ := List.mem_map.mp hp
    exact isPhrase_condition c (conditionsWellFormed_iff.mp h c hc)
  rw [splitConditions, cutConditions_render hne h, trimPieces_of_phrases hphrases]

/-- Pieces that are read one by one are read as a list. -/
lemma Reading.readPieces_map {α : Type} {clause : Clause}
    {readPiece : List Char → Read (Option α)} {write : α → List Char} {as : List α}
    (h : ∀ a ∈ as, readPiece (write a) = pure (some a)) :
    r.readPieces clause readPiece (as.map write) = pure as := by
  induction as with
  | nil => rfl
  | cons a as ih =>
    rw [List.map_cons, Reading.readPieces, h a List.mem_cons_self,
      ih fun b hb => h b (List.mem_cons_of_mem a hb)]
    simp only [pure_bind]

/-! ## Any depth of selectors -/

/-- No condition has more parentheses than the list it stands in. -/
lemma count_render_le {c : Condition} {cs : List Condition} (hc : c ∈ cs) :
    c.render.count '(' ≤ (renderConditions cs).count '(' := by
  induction cs with
  | nil => cases hc
  | cons d cs ih =>
    cases cs with
    | nil =>
      rw [List.mem_singleton.mp hc]
      exact Nat.le_refl _
    | cons e rest =>
      rw [renderConditions, List.count_append, List.count_append]
      rcases List.mem_cons.mp hc with rfl | hc
      · omega
      · have := ih hc
        omega

/-- Written operands are read back by a reader that may go as deep as there are parentheses. -/
lemma readOperandWithin_render {depth : Nat} {op : Operand} (h : op.WellFormed)
    (hdepth : op.render.count '(' ≤ depth) : readOperandWithin r depth op.render = pure op := by
  induction depth generalizing op with
  | zero =>
    match op, h, hdepth with
    | .literal text, _, _ =>
      rw [readOperandWithin, Operand.render, readOperandWith_quotedLiteral, String.ofList_toList]
    | .field (.mk scope name none), h, _ => exact readOperandWith_plainReference h
    | .field (.mk scope name (some cs)), _, hdepth =>
      -- a selector has a parenthesis
      rw [Operand.render, Reference.render, List.count_append, List.count_append,
        List.count_cons_self] at hdepth
      omega
  | succ depth ih =>
    match op, h, hdepth with
    | .literal text, _, _ =>
      rw [readOperandWithin, Operand.render, readOperandWith_quotedLiteral, String.ofList_toList]
    | .field (.mk scope name none), h, _ => exact readOperandWith_plainReference h
    | .field (.mk scope name (some cs)), ⟨hname, hscope, hne, hcs⟩, hdepth =>
      rw [Operand.render, Reference.render, List.count_append, List.count_append,
        List.count_cons_self, List.count_append] at hdepth
      refine readOperandWith_selector hname hscope hne hcs ?_
      rw [readConditionsWith, splitConditions_render hne hcs]
      refine Reading.readPieces_map fun c hc => ?_
      have hle := count_render_le hc
      have hwf := conditionsWellFormed_iff.mp hcs c hc
      obtain ⟨left, comparison, right⟩ := c
      rw [Condition.render, List.count_append, List.count_cons, List.count_append,
        List.count_cons] at hle
      exact readConditionWith_render hwf (ih hwf.1 (by omega)) (ih hwf.2.1 (by omega))

/-- Written operands are read back. -/
theorem readOperand_render {op : Operand} (h : op.WellFormed) :
    readOperand r op.render = pure op :=
  readOperandWithin_render h (Nat.le_refl _)

/-- Written conditions are read back. -/
theorem readConditions_render {cs : List Condition} (hne : cs ≠ []) (h : ∀ c ∈ cs, c.WellFormed) :
    readConditions r (renderConditions cs) = pure cs := by
  have hcs := conditionsWellFormed_iff.mpr h
  rw [readConditions, readConditionsWith, splitConditions_render hne hcs]
  refine Reading.readPieces_map fun c hc => ?_
  have hle := count_render_le hc
  have hwf := h c hc
  obtain ⟨left, comparison, right⟩ := c
  rw [Condition.render, List.count_append, List.count_cons, List.count_append,
    List.count_cons] at hle
  exact readConditionWith_render hwf (readOperandWithin_render hwf.1 (by omega))
    (readOperandWithin_render hwf.2.1 (by omega))

end Cascade
