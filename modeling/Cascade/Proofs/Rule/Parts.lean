import Cascade.Proofs.Rule.Reading

/-!
# What is cut out of a text stands in it

The readers of the rule language hand on parts of the text they are given, and nothing else: every
cutter gives texts that stand in the one that is cut (`<:+:`), and what is read to its end stands at
its end (`<:+`).  A reader that is called on such a part can show only what the whole text says, and
meets no more parentheses in it than the whole text has.

The lines that count are such parts too.  A physical line may be cut into several of them; the last
one goes on to the end of the line (`areCutFrom_cutLine`).
-/

namespace Cascade

/-! ## Trimming and joining -/

namespace Text

lemma trimEnd_isPrefix (s : List Char) : trimEnd s <+: s := by
  have h : s.reverse.dropWhile isBlank <:+ s.reverse := List.dropWhile_suffix _
  rw [← List.reverse_prefix, List.reverse_reverse] at h
  exact h

lemma trimStart_suffix (s : List Char) : trimStart s <:+ s := List.dropWhile_suffix _

lemma trim_isInfix (s : List Char) : trim s <:+: s :=
  (trimEnd_isPrefix _).isInfix.trans (trimStart_suffix s).isInfix

lemma infix_joinWith (sep : List Char) {piece : List Char} {pieces : List (List Char)}
    (h : piece ∈ pieces) : piece <:+: joinWith sep pieces := by
  induction pieces with
  | nil => cases h
  | cons first pieces ih =>
    cases pieces with
    | nil =>
      rw [List.mem_singleton.mp h]
      exact List.infix_rfl
    | cons second pieces =>
      have hjoin : joinWith sep (first :: second :: pieces) =
          first ++ sep ++ joinWith sep (second :: pieces) := rfl
      rw [hjoin]
      rcases List.mem_cons.mp h with rfl | h
      · rw [List.append_assoc]
        exact (List.prefix_append _ _).isInfix
      · exact (ih h).trans (List.suffix_append _ _).isInfix

end Text

/-- A trimmed part of a text. -/
def IsPart (part text : List Char) : Prop := part <:+: text ∧ Text.IsTrimmed part

namespace IsPart

variable {part text whole : List Char}

lemma trim (h : part <:+: text) : IsPart (Text.trim part) text :=
  ⟨(Text.trim_isInfix part).trans h, Text.isTrimmed_trim part⟩

lemma trans (h : IsPart part text) (htext : text <:+: whole) : IsPart part whole :=
  ⟨h.1.trans htext, h.2⟩

end IsPart

/-! ## Pieces of clauses -/

lemma isPart_of_mem_trimPieces {text piece : List Char} {pieces : List (List Char)}
    (hpieces : ∀ raw ∈ pieces, raw <:+: text) (h : piece ∈ trimPieces pieces) :
    IsPart piece text := by
  obtain ⟨raw, hraw, rfl⟩ := List.mem_map.mp (List.mem_of_mem_filter h)
  exact .trim (hpieces raw hraw)

lemma isPart_of_mem_splitConditions {text piece : List Char} (h : piece ∈ splitConditions text) :
    IsPart piece text := by
  refine isPart_of_mem_trimPieces (fun raw hraw => ?_) h
  have hpart := Text.infix_joinWith conjunction hraw
  rwa [joinWith_cutConditions] at hpart

lemma isPart_of_mem_splitActions {text piece : List Char} (h : piece ∈ splitActions text) :
    IsPart piece text := by
  refine isPart_of_mem_trimPieces (fun raw hraw => ?_) h
  have hpart := List.infix_of_mem_flatten hraw
  rwa [flatten_cutActions] at hpart

/-! ## Parts of conditions, operands and actions -/

lemma afterWords?_suffix {words : List (List Char)} {text rest : List Char}
    (h : afterWords? words text = some rest) : rest <:+ text := by
  induction words generalizing text with
  | nil =>
    obtain rfl := Option.some.inj h
    exact List.suffix_rfl
  | cons word words ih =>
    cases words with
    | nil => exact ⟨word, (Text.eq_append_of_after? h).symm⟩
    | cons word' words =>
      obtain ⟨c, behind, hafter, -, h⟩ := afterWords?_cons_cons.mp h
      have hbehind : behind <:+ text :=
        (List.suffix_cons c behind).trans ⟨word, (Text.eq_append_of_after? hafter).symm⟩
      exact (ih h).trans ((Text.trimStart_suffix behind).trans hbehind)

lemma comparisonAt?_suffix {text rest : List Char} {c : Comparison}
    (h : comparisonAt? text = some (c, rest)) : rest <:+ text := by
  rw [comparisonAt?_eq_findSome?] at h
  obtain ⟨c', -, h⟩ := List.exists_of_findSome?_eq_some h
  exact afterWords?_suffix (tryComparison_eq_some_iff.mp h).2.1

lemma findOperatorFrom_parts {n : Nesting} {last : Option Char} {text : List Char}
    {m : OperatorMatch} (h : findOperatorFrom n last text = some m) :
    m.before <+: text ∧ m.after <:+ text := by
  induction text generalizing n last m with
  | nil => cases h
  | cons c text ih =>
    have hlater : ((findOperatorFrom (n.step c) (some c) text).map fun m =>
        { m with before := c :: m.before }) = some m →
        m.before <+: c :: text ∧ m.after <:+ c :: text := by
      intro h
      obtain ⟨m', hm', rfl⟩ := Option.map_eq_some_iff.mp h
      obtain ⟨hbefore, hafter⟩ := ih hm'
      exact ⟨List.cons_prefix_cons.mpr ⟨rfl, hbefore⟩, hafter.trans (List.suffix_cons c text)⟩
    rw [findOperatorFrom] at h
    split at h
    · split at h
      · next comparison after hhere =>
        obtain rfl := Option.some.inj h
        exact ⟨List.nil_prefix, comparisonAt?_suffix hhere⟩
      · exact hlater h
    · exact hlater h

lemma findOperator_parts {text : List Char} {m : OperatorMatch} (h : findOperator text = some m) :
    m.before <:+: text ∧ m.after <:+: text := by
  obtain ⟨hbefore, hafter⟩ := findOperatorFrom_parts h
  exact ⟨hbefore.isInfix, hafter.isInfix⟩

/-- The conditions in a selector stand in the text of the operand. -/
lemma selectorParts?_isInfix {scope scope' : Scope} {start : Nat} {text : List Char}
    {parts : SelectorParts} (hs : selectorScope? text = some (scope, start))
    (h : selectorParts? scope' start text = some parts) : parts.conditions <:+: text := by
  obtain ⟨-, -, rest, -, -, htext, -⟩ := selectorParts?_eq_some hs h
  exact ⟨scope.word.toList ++ ['('], ')' :: '.' :: rest, by rw [htext]; simp⟩

lemma cutEquals?_eq_some {n : Nesting} {text before after : List Char}
    (h : cutEquals? n text = some (before, after)) : text = before ++ '=' :: after := by
  induction text generalizing n before with
  | nil => cases h
  | cons c text ih =>
    rw [cutEquals?] at h
    split at h
    · next hc =>
      obtain ⟨rfl, rfl⟩ := Prod.mk.inj (Option.some.inj h)
      obtain rfl : c = '=' := by simpa using (Bool.and_eq_true_iff.mp hc).2
      rfl
    · obtain ⟨⟨before', after'⟩, hlater, heq⟩ := Option.map_eq_some_iff.mp h
      obtain ⟨rfl, rfl⟩ := Prod.mk.inj heq
      rw [ih hlater, List.cons_append]

lemma clause?_suffix {keyword : String} {line rest : List Char}
    (h : clause? keyword line = some rest) : rest <:+ line := by
  unfold clause? at h
  split at h
  · obtain rfl := Option.some.inj h
    exact List.nil_suffix
  · next c behind hword =>
    split at h
    · obtain rfl := Option.some.inj h
      have hbehind : behind <:+ line :=
        (List.suffix_cons c behind).trans ⟨_, (Text.eq_append_of_after? hword).symm⟩
      exact (Text.trimStart_suffix behind).trans hbehind
    · cases h
  · cases h

lemma actionHead?_suffix {text rest : List Char} {kind : ActionKind}
    (h : actionHead? text = some (kind, rest)) : rest <:+ text := by
  obtain ⟨kind', -, h⟩ := List.exists_of_findSome?_eq_some h
  obtain ⟨rest', hclause, heq⟩ := Option.map_eq_some_iff.mp h
  obtain ⟨rfl, rfl⟩ := Prod.mk.inj heq
  exact clause?_suffix hclause

lemma optionWord?_suffix {text rest : List Char} {word : String}
    (h : optionWord? text = some (word, rest)) : rest <:+ text := by
  obtain ⟨word', -, h⟩ := List.exists_of_findSome?_eq_some h
  split at h
  · next behind hword =>
    split at h
    · obtain ⟨rfl, rfl⟩ := Prod.mk.inj (Option.some.inj h)
      exact (List.dropWhile_suffix _).trans ⟨_, (Text.eq_append_of_after? hword).symm⟩
    · cases h
  · cases h

/-! ## Pieces of lines -/

lemma cutThen?_eq_some {n : Nesting} {last : Option Char} {text before clause : List Char}
    (h : cutThen? n last text = some (before, clause)) : text = before ++ clause ∧ clause ≠ [] := by
  induction text generalizing n last before with
  | nil => cases h
  | cons c text ih =>
    rw [cutThen?] at h
    split at h
    · obtain ⟨rfl, rfl⟩ := Prod.mk.inj (Option.some.inj h)
      exact ⟨rfl, List.cons_ne_nil c text⟩
    · obtain ⟨⟨before', clause'⟩, hlater, heq⟩ := Option.map_eq_some_iff.mp h
      obtain ⟨rfl, rfl⟩ := Prod.mk.inj heq
      obtain ⟨htext, hclause⟩ := ih hlater
      exact ⟨by rw [htext, List.cons_append], hclause⟩

/-- Pieces that a line has been cut into: they stand in it, and the last one, which is not empty,
goes on to its end. -/
structure AreCutFrom (line : List Char) (pieces : List (List Char)) : Prop where
  parts : ∀ piece ∈ pieces, piece <:+: line
  last : ∃ init final, pieces = init ++ [final] ∧ final ≠ [] ∧ final <:+ line

lemma AreCutFrom.cons {line rest piece : List Char} {pieces : List (List Char)}
    (h : AreCutFrom rest pieces) (hrest : rest <:+ line) (hpiece : piece <:+: line) :
    AreCutFrom line (piece :: pieces) := by
  obtain ⟨init, final, rfl, hne, hfinal⟩ := h.last
  refine ⟨fun p hp => ?_, piece :: init, final, rfl, hne, hfinal.trans hrest⟩
  rcases List.mem_cons.mp hp with rfl | hp
  · exact hpiece
  · exact (h.parts p hp).trans hrest.isInfix

lemma areCutFrom_splitThen {line : List Char} (hne : line ≠ []) :
    AreCutFrom line (splitThen line) := by
  have hwhole : AreCutFrom line [line] :=
    ⟨fun p hp => List.mem_singleton.mp hp ▸ List.infix_rfl, [], line, rfl, hne, List.suffix_rfl⟩
  unfold splitThen
  split
  · next before clause hcut =>
    obtain ⟨hline, hclause⟩ := cutThen?_eq_some hcut
    have hsuffix : clause <:+ line := ⟨before, hline.symm⟩
    have hbefore : before <:+: line := ⟨[], clause, by rw [hline]; rfl⟩
    refine AreCutFrom.cons ⟨fun p hp => ?_, [], clause, rfl, hclause, List.suffix_rfl⟩ hsuffix
      ((Text.trim_isInfix before).trans hbefore)
    obtain rfl := List.mem_singleton.mp hp
    exact List.infix_rfl
  · exact hwhole

/-- What stands behind the colon of a header goes on to the end of the line. -/
lemma readHeader_suffix {line name rest : List Char} (h : readHeader line = some (name, rest)) :
    rest <:+ line := by
  unfold readHeader at h
  split at h
  · next c behind hword =>
    split at h
    · split at h
      · next quoted hquoted =>
        dsimp only at h
        split at h
        · next after hafter =>
          split at h
          · cases h
          · obtain ⟨-, rfl⟩ := Prod.mk.inj (Option.some.inj h)
            have hafter' : after <:+ quoted :=
              .trans ⟨['"', ':'], hafter.symm⟩ (List.dropWhile_suffix _)
            have hquoted' : quoted <:+ behind :=
              .trans ⟨['"'], hquoted.symm⟩ (Text.trimStart_suffix behind)
            have hbehind : behind <:+ line :=
              (List.suffix_cons c behind).trans ⟨_, (Text.eq_append_of_after? hword).symm⟩
            exact hafter'.trans (hquoted'.trans hbehind)
        · cases h
      · cases h
    · cases h
  · cases h

lemma areCutFrom_cutLine {line : List Char} (hne : line ≠ []) : AreCutFrom line (cutLine line) := by
  have hfilter {pieces : List (List Char)} (h : AreCutFrom line pieces) :
      AreCutFrom line (pieces.filter (!·.isEmpty)) := by
    obtain ⟨init, final, rfl, hfinal, hsuffix⟩ := h.last
    refine ⟨fun p hp => h.parts p (List.mem_of_mem_filter hp), init.filter (!·.isEmpty), final, ?_,
      hfinal, hsuffix⟩
    simp [List.filter_append, hfinal]
  unfold cutLine
  dsimp only
  apply hfilter
  split
  · next name rest hheader =>
    split
    · exact areCutFrom_splitThen hne
    · next hclauses =>
      have hrest : Text.trimStart rest <:+ line :=
        (Text.trimStart_suffix rest).trans (readHeader_suffix hheader)
      exact (areCutFrom_splitThen (by simpa using hclauses)).cons hrest
        (List.take_prefix _ _).isInfix
  · exact areCutFrom_splitThen hne

end Cascade
