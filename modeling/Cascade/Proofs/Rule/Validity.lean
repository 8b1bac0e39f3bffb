import Cascade.Proofs.Rule.Conditions
import Cascade.Proofs.Rule.Parts

/-!
# Rules that have been read are valid

Running rules, grouping updates and showing rules as data take for granted that rules are as a file
can write them: that a field has a name, that only children are selected, that the value of a tag
action is one piece of text.  `Rule.IsValid` says what they may take for granted, and
`isValid_of_mem_readRules` that reading, in either mode, gives no other rules.

What a field is called stands at the end of a trimmed text that is not empty, and is trimmed itself;
so it is not empty (`OperandForm.isValid`).  Every operand of a rule has been read from such a text:
the sides of conditions by the reader of conditions, at any depth of selectors
(`Condition.IsRead.sides`), and the value and the target of an action by that of actions
(`isRead_of_readAction`), whose pieces are trimmed before they are read.

Strict and lenient reading differ in one point: a selector without conditions is an error in strict
mode only.
-/

namespace Cascade

/-! ## Valid rules -/

/-- A reference that a file can write.  Its field has a name, only children are selected, and in
strict mode a selector has conditions. -/
structure Reference.IsValid (strict : Bool) (r : Reference) : Prop where
  name_ne_empty : r.name ≠ ""
  name_isTrimmed : Text.IsTrimmed r.name.toList
  scope_of_selector : r.selector ≠ none → r.scope = .child ∨ r.scope = .children
  selector_ne_nil : strict = true → r.selector ≠ some []

/-- An action that a file can write.  That its target is no literal is said by its type; the value
of a tag action is a literal, and not being bound by the rules of the tracker can be asked for but
not declined. -/
structure Action.IsValid (a : Action) : Prop where
  value_of_tag : a.kind ≠ .set →
    ∃ text : String, a.value = .literal text ∧ text ≠ "" ∧ '"' ∉ text.toList
  bypassRules_ne_false : a.options.bypassRules ≠ some false

/-- A rule that a file can write, with all references at any depth of selectors. -/
structure Rule.IsValid (strict : Bool) (rule : Rule) : Prop where
  name_ne_empty : rule.name ≠ ""
  quote_not_mem_name : '"' ∉ rule.name.toList
  guards_ne_nil : rule.guards ≠ []
  actions_ne_nil : rule.actions ≠ []
  action : ∀ a ∈ rule.actions, a.IsValid
  reference : ∀ r, .field r ∈ rule.operands → r.IsValid strict

/-! ## Operands -/

variable {r : Reading} {strict : Bool}

/-- An operand that a reading in a mode has made of a text that is not empty. -/
def Operand.IsRead (strict : Bool) (op : Operand) : Prop :=
  ∃ (r : Reading) (readInner : List Char → Read (List Condition)) (text : List Char),
    r.strict = strict ∧ Text.IsTrimmed text ∧ text ≠ [] ∧ OperandForm readInner r text op

lemma isRead_of_readOperandWithin {depth : Nat} {text : List Char} {op : Operand}
    (hne : Text.trim text ≠ []) (h : (readOperandWithin r depth text).result = .ok op) :
    op.IsRead r.strict := by
  obtain ⟨readInner, hform⟩ := readOperandWithin_eq_ok h
  exact ⟨r, readInner, Text.trim text, rfl, Text.isTrimmed_trim text, hne, hform⟩

/-- A name that stands at the end of a trimmed text is a name of a field. -/
lemma name_of_suffix {text rest : List Char} (htext : Text.IsTrimmed text) (hrest : rest <:+ text)
    (hne : rest ≠ []) :
    String.ofList (Text.trim rest) ≠ "" ∧
      Text.IsTrimmed (String.ofList (Text.trim rest)).toList := by
  rw [String.toList_ofList]
  refine ⟨fun hempty => htext.trim_ne_nil hrest hne ?_, Text.isTrimmed_trim rest⟩
  simpa using congrArg String.toList hempty

/-- Whatever the form of a text that is not empty, the reference that is read from it is valid. -/
lemma OperandForm.isValid {readInner : List Char → Read (List Condition)} {text : List Char}
    {ref : Reference} (htext : Text.IsTrimmed text) (hne : text ≠ [])
    (h : OperandForm readInner r text (.field ref)) : ref.IsValid r.strict := by
  cases h with
  | @selector scope start parts conditions _ hscope hparts _ hconditions =>
    obtain ⟨hmem, hsame, rest, hrest, hfield, rfl, -⟩ := selectorParts?_eq_some hscope hparts
    have hsuffix : rest <:+ scope.word.toList ++ '(' :: (parts.conditions ++ ')' :: '.' :: rest) :=
      ⟨scope.word.toList ++ '(' :: (parts.conditions ++ [')', '.']), by simp⟩
    obtain ⟨hname, htrimmed⟩ := name_of_suffix htext hsuffix hrest
    rw [hfield, hsame]
    refine ⟨hname, htrimmed, fun _ => ?_, fun hstrict hnil => ?_⟩
    · rcases List.mem_pair.mp hmem with rfl | rfl
      · exact .inr rfl
      · exact .inl rfl
    · exact hconditions hstrict (Option.some.inj hnil)
  | @qualified scope rest name _ _ hscope hline =>
    obtain ⟨-, rfl⟩ := scopeBefore?_eq_some hscope
    obtain ⟨-, htrim⟩ := soleLine?_eq_some hline
    have hrest : rest ≠ [] := by
      rintro rfl
      cases hline
    have hsuffix : rest <:+ scope.word.toList ++ '.' :: rest :=
      ⟨scope.word.toList ++ ['.'], by simp⟩
    obtain ⟨hname, htrimmed⟩ := name_of_suffix htext hsuffix hrest
    rw [htrim]
    exact ⟨hname, htrimmed, fun hsome => absurd rfl hsome, fun _ => nofun⟩
  | implicit _ _ _ _ =>
    obtain ⟨hname, htrimmed⟩ := name_of_suffix htext List.suffix_rfl hne
    rw [htext.trim_eq] at hname htrimmed
    exact ⟨hname, htrimmed, fun hsome => absurd rfl hsome, fun _ => nofun⟩

lemma Operand.IsRead.isValid {ref : Reference} (h : (Operand.field ref).IsRead strict) :
    ref.IsValid strict := by
  obtain ⟨r, readInner, text, rfl, htext, hne, hform⟩ := h
  exact hform.isValid htext hne

/-- Both sides of a condition that has been read have been read, from texts that are not empty. -/
lemma Condition.IsRead.sides {c : Condition} (h : c.IsRead strict) {op : Operand}
    (hside : c.HasSide op) : op.IsRead strict := by
  obtain ⟨r, depth, piece, rfl, hread⟩ := h
  obtain ⟨m, left, right, -, hbefore, hafter, hleft, hright, -, rfl⟩ :=
    readConditionWith_eq_some hread
  rw [← Text.trim_trim] at hbefore hafter
  rcases hside with rfl | rfl
  · exact isRead_of_readOperandWithin hbefore hleft
  · exact isRead_of_readOperandWithin hafter hright

/-! ## Actions -/

/-- Options are taken off the front of a text, and none of them says that the rules of the tracker
are to be kept. -/
lemma takeOptions_spec {o : Options} (ho : o.bypassRules ≠ some false) (fuel : Nat)
    (text : List Char) : (takeOptions o fuel text).2 <:+ text ∧
      (takeOptions o fuel text).1.bypassRules ≠ some false := by
  induction fuel generalizing o text with
  | zero => exact ⟨List.suffix_rfl, ho⟩
  | succ fuel ih =>
    unfold takeOptions
    split
    · next word rest hword =>
      have htake : (o.take word).bypassRules ≠ some false := by
        unfold Options.take
        split
        · exact ho
        · split
          · exact ho
          · exact nofun
      obtain ⟨hsuffix, hbypass⟩ := ih htake rest
      exact ⟨hsuffix.trans (optionWord?_suffix hword), hbypass⟩
    · exact ⟨List.suffix_rfl, ho⟩

lemma readOptions_eq_ok {action body rest : List Char} {o : Options}
    (h : (readOptions r action body).result = .ok (o, rest)) :
    rest <:+ body ∧ o.bypassRules ≠ some false := by
  have hnone : (pure ({}, body) : Read (Options × List Char)).result = .ok (o, rest) →
      rest <:+ body ∧ o.bypassRules ≠ some false := by
    intro h
    obtain ⟨rfl, rfl⟩ := Prod.mk.inj (Except.ok.inj h)
    exact ⟨List.suffix_rfl, nofun⟩
  unfold readOptions at h
  split at h
  · next c behind hword =>
    split at h
    · dsimp only at h
      split at h
      · have hbehind : Text.trimStart behind <:+ body :=
          (List.dropWhile_suffix _).trans
            ((List.suffix_cons c behind).trans ⟨_, (Text.eq_append_of_after? hword).symm⟩)
        have hspec := takeOptions_spec (o := {}) nofun (Text.trimStart behind).length
          (Text.trimStart behind)
        rw [Except.ok.inj h] at hspec
        exact ⟨hspec.1.trans hbehind, hspec.2⟩
      · simp at h
    · exact hnone h
  · exact hnone h

/-- An action that is read from a trimmed piece has a value and a target that have been read from
texts that are not empty. -/
lemma isRead_of_readAction {piece : List Char} {a : Action} (hpiece : Text.IsTrimmed piece)
    (h : (readAction r piece).result = .ok (some a)) :
    a.IsValid ∧ a.value.IsRead r.strict ∧ (Operand.field a.target).IsRead r.strict := by
  obtain ⟨rest, body, target, hhead, hoptions, hbody, htarget⟩ := readAction_eq_some h
  obtain ⟨hsuffix, hbypass⟩ := readOptions_eq_ok hoptions
  replace hsuffix := hsuffix.trans (actionHead?_suffix hhead)
  -- the literal of a tag action, and its target at the end of the piece
  have htag {word : String} {value : List Char}
      (hcut : cutTagBody? word body = some (value, target)) :
      (∃ text : String, Operand.literal (String.ofList value) = .literal text ∧ text ≠ "" ∧
        '"' ∉ text.toList) ∧
      (Operand.literal (String.ofList value)).IsRead r.strict ∧ Text.trim target ≠ [] := by
    obtain ⟨hvalue, hquote, behind, hbehind, hne, rfl⟩ := cutTagBody?_eq_some hcut
    refine ⟨⟨_, rfl, fun hempty => hvalue ?_, by simpa using hquote⟩, ?_, ?_⟩
    · simpa using congrArg String.toList hempty
    · exact ⟨r, fun _ => pure [], quotedLiteral value, rfl, isTrimmed_quotedLiteral value,
        List.cons_ne_nil _ _, .literal (literal?_quotedLiteral value)⟩
    · rw [Text.trim_trim]
      exact hpiece.trim_ne_nil (hbehind.trans hsuffix) hne
  have hread : Text.trim target ≠ [] → (Operand.field a.target).IsRead r.strict := fun hne =>
    isRead_of_readOperandWithin hne htarget
  obtain ⟨kind, reference, value, options⟩ := a
  cases hbody with
  | set _ htargetText hvalueText hvalue =>
    rw [← Text.trim_trim] at hvalueText htargetText
    exact ⟨⟨fun hkind => absurd rfl hkind, hbypass⟩,
      isRead_of_readOperandWithin hvalueText hvalue, hread htargetText⟩
  | add hcut | remove hcut =>
    obtain ⟨hliteral, hvalue, htargetText⟩ := htag hcut
    exact ⟨⟨fun _ => hliteral, hbypass⟩, hvalue, hread htargetText⟩

/-! ## Rules -/

/-- The name in a header stands between quotes and holds none. -/
lemma readHeader_eq_some {line name rest : List Char}
    (h : readHeader line = some (name, rest)) : name ≠ [] ∧ '"' ∉ name := by
  unfold readHeader at h
  split at h
  · split at h
    · split at h
      · next behind _ =>
        dsimp only at h
        split at h
        · split at h
          · cases h
          · next hne =>
            obtain ⟨rfl, -⟩ := Prod.mk.inj (Option.some.inj h)
            refine ⟨by simpa using hne, fun hmem => ?_⟩
            simpa using List.mem_takeWhile_imp hmem
        · cases h
      · cases h
    · cases h
  · cases h

lemma ruleName?_eq_some {line name : List Char} (h : ruleName? line = some name) :
    name ≠ [] ∧ '"' ∉ name := by
  unfold ruleName? at h
  split at h
  · next hheader =>
    split at h
    · obtain rfl := Option.some.inj h
      exact readHeader_eq_some hheader
    · cases h
  · cases h

/-- **Rules that have been read are valid.**  In either mode, every rule that is read from a text
has a name without quotes, guards and actions; its tag actions have literals without quotes for
values; and all references in it, at any depth of selectors, have a trimmed name that is not empty,
select nothing but children and in strict mode never without a condition. -/
theorem isValid_of_mem_readRules {strict : Bool} {text : String} {rules : List Rule}
    (h : (readRules strict text).result = .ok rules) : ∀ rule ∈ rules, rule.IsValid strict := by
  intro rule hrule
  obtain ⟨block, -, next, hblock⟩ := exists_left_of_mem (readRules_eq_ok h).2 hrule
  obtain ⟨name, clauses, hheader, hname, -, -, hguards, hactions, hne⟩ := readBlock_eq_ok hblock
  have haction : ∀ a ∈ rule.actions, a.IsValid ∧ a.value.IsRead strict ∧
      (Operand.field a.target).IsRead strict := by
    intro a ha
    obtain ⟨piece, hpiece, hread⟩ := Reading.exists_piece_of_mem hactions ha
    exact isRead_of_readAction (isPart_of_mem_splitActions hpiece).2 hread
  obtain ⟨hnonempty, hquote⟩ := ruleName?_eq_some hheader
  refine ⟨fun hempty => hnonempty ?_, ?_, hguards, hne, fun a ha => (haction a ha).1,
    fun r hr => ?_⟩
  · rw [hname] at hempty
    simpa using congrArg String.toList hempty
  · rw [hname, String.toList_ofList]
    exact hquote
  · refine Operand.IsRead.isValid ?_
    rcases side_of_mem_operands hr with ⟨c, hc, hside⟩ | ⟨a, ha, hop | hop⟩
    · exact (isRead_of_mem_readRules h hrule hc).sides hside
    · exact hop ▸ (haction a ha).2.1
    · exact hop ▸ (haction a ha).2.2

/-- A rule whose guard and whose action have selectors, one of them inside another, is valid in
strict mode.  Lenient reading drops what the selector of the other rule says, which leaves it
without a condition; strict reading would not have it. -/
theorem isValid_nested_and_emptied :
    let tag := "rule \"tag\":\n" ++
      "when children(child(Title matches \"a|b\").State is \"New\").Tags contains \"x\"\n" ++
      "then add with bypassRules \"late\" to children( State is \"New\" ). Tags"
    let close := "rule \"close\": when me.State is \"Done\" " ++
      "then set children(Title).State = \"Done\""
    let field (scope : Scope) (name : String) (selector : Option (List Condition)) : Operand :=
      .field (.mk scope name selector)
    let new (left : Operand) : Condition := .mk left .equal (.literal "New")
    let titled : Condition := .mk (field .implicit "Title" none) .matching (.literal "a|b")
    let tagRule : Rule := ⟨"tag",
      [.mk (field .children "Tags" (some [new (field .child "State" (some [titled]))])) .contains
        (.literal "x")],
      [⟨.add, .mk .children "Tags" (some [new (field .implicit "State" none)]), .literal "late",
        ⟨none, some true⟩⟩]⟩
    let closeRule : Rule := ⟨"close", [.mk (field .me "State" none) .equal (.literal "Done")],
      [⟨.set, .mk .children "State" (some []), .literal "Done", {}⟩]⟩
    ((readRules true tag).result = .ok [tagRule] ∧ tagRule.IsValid true) ∧
      (readRules false close).result = .ok [closeRule] ∧ closeRule.IsValid false ∧
      ¬ closeRule.IsValid true := by
  intro tag close field new titled tagRule closeRule
  have htag : (readRules true tag).result = .ok [tagRule] := by decide +kernel
  have hclose : (readRules false close).result = .ok [closeRule] := by decide +kernel
  refine ⟨⟨htag, isValid_of_mem_readRules htag _ List.mem_cons_self⟩, hclose,
    isValid_of_mem_readRules hclose _ List.mem_cons_self, fun hvalid => ?_⟩
  have hmem : field .children "State" (some []) ∈ closeRule.operands := by decide +kernel
  exact (hvalid.reference _ hmem).selector_ne_nil rfl rfl

end Cascade
