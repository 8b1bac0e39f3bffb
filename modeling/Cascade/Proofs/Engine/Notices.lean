import Cascade.Proofs.Engine.Refusals

/-!
# Notices about patterns

A malformed pattern does not stop an evaluation; there is a notice, and the condition is false.
Each notice of this kind belongs to one search, so those of an evaluation are the ones that its
patterns call for, in order, as far as it comes (`Searching.notesAs`).  That needs nothing of the
context: where the triggering item is lacking, evaluations stop earlier and notice less.

Of rules that have been read, the patterns that are written out can be used at any depth of
selectors (`isChecked_of_mem_readRules`).  So no notice is about a literal; each is about the text
of a field (`unusable_patterns_come_from_fields`).
-/

namespace Cascade

variable {ctx : Context}

/-- Whether a notice is about a pattern. -/
def Notice.isAboutPattern : Notice → Bool
  | .unusablePattern _ _ => true
  | .skippedLine _ _ | .droppedText _ _ _ | .removalOutsideTags _ => false

/-- The notice that a search with a pattern calls for, if the pattern is malformed. -/
def malformedNotice? (pattern : Text) : Option Notice :=
  match Pattern.Node.read pattern with
  | .error (.malformed reason position) =>
    some (.unusablePattern pattern (Pattern.malformedText pattern reason position))
  | _ => none

/-- The notices of an evaluation about patterns are those that these patterns call for, in order; an
evaluation without a result may have come no further than the first of them. -/
structure NotesAs {α : Type} (patterns : List Text) (x : Eval α) : Prop where
  upTo : x.notices.filter Notice.isAboutPattern <+: patterns.filterMap malformedNotice?
  ok : ∀ a, x.result = .ok a →
    x.notices.filter Notice.isAboutPattern = patterns.filterMap malformedNotice?

namespace NotesAs

variable {α β : Type} {patterns more : List Text}

lemma of_eq {x : Eval α}
    (h : x.notices.filter Notice.isAboutPattern = patterns.filterMap malformedNotice?) :
    NotesAs patterns x :=
  ⟨h ▸ List.prefix_rfl, fun _ _ => h⟩

/-- What comes after a step adds its notices to those of the step, which is there with a result. -/
lemma bind {x : Eval α} {f : α → Eval β} (hx : NotesAs patterns x)
    (hf : ∀ a, x.result = .ok a → NotesAs more (f a)) : NotesAs (patterns ++ more) (x >>= f) := by
  cases hresult : x.result with
  | error e =>
    rw [Logged.bind_of_error hresult]
    refine ⟨?_, fun a h => nomatch h⟩
    rw [List.filterMap_append]
    exact hx.upTo.trans (List.prefix_append _ _)
  | ok a =>
    have hstep := hx.ok a hresult
    rw [Logged.bind_of_ok hresult]
    refine ⟨?_, fun b hb => ?_⟩
    · rw [List.filter_append, List.filterMap_append, hstep]
      exact (List.prefix_append_right_inj _).mpr (hf a hresult).upTo
    · rw [List.filter_append, List.filterMap_append, hstep, (hf a hresult).ok b hb]

/-- A pattern that a notice is about is one of these, and cannot be used. -/
lemma mem_of_mem_notices {x : Eval α} {pattern reason : Text} (h : NotesAs patterns x)
    (hnotice : .unusablePattern pattern reason ∈ x.notices) :
    pattern ∈ patterns ∧ ¬ IsUsable pattern := by
  have hfilter : .unusablePattern pattern reason ∈ x.notices.filter Notice.isAboutPattern :=
    List.mem_filter.mpr ⟨hnotice, rfl⟩
  obtain ⟨p, hp, hcalled⟩ := List.mem_filterMap.mp (h.upTo.subset hfilter)
  unfold malformedNotice? at hcalled
  split at hcalled
  · next hread =>
    obtain ⟨rfl, -⟩ := Notice.unusablePattern.inj (Option.some.inj hcalled)
    exact ⟨hp, fun ⟨node, hnode⟩ => nomatch hnode.symm.trans hread⟩
  · cases hcalled

end NotesAs

lemma notesAs_searchPattern (pattern subject : Text) :
    NotesAs [pattern] (searchPattern pattern subject) := by
  refine .of_eq ?_
  rw [List.filterMap_cons, List.filterMap_nil]
  cases hread : Pattern.Node.read pattern with
  | ok node =>
    rw [searchPattern, malformedNotice?, hread]
    rfl
  | error fault =>
    rw [searchPattern, malformedNotice?, hread]
    cases fault <;> rfl

/-- The notices of an evaluation about patterns are those that its patterns call for. -/
lemma Searching.notesAs {lacking : Prop} {α : Type} {patterns : List Text} {x : Eval α}
    (h : Searching lacking patterns x) : NotesAs patterns x := by
  induction h with
  | pure a => exact .of_eq rfl
  | search pattern subject => exact notesAs_searchPattern pattern subject
  | removal field => exact .of_eq rfl
  | absent part _ => exact .of_eq rfl
  | bind _ _ hx hf => exact hx.bind hf

/-! ## The main result -/

/-- A pattern is the text of a field on the right of a comparison by pattern in these rules, and no
such comparison has it written out. -/
def ComesFromField (rules : List Rule) (items : List WorkItem) (pattern : Text) : Prop :=
  (∃ rule ∈ rules, ∃ c ∈ rule.conditions, c.TakesField items pattern) ∧
    ∀ rule ∈ rules, ∀ c ∈ rule.conditions, c.comparison.takesPattern = true →
      ∀ literal, c.right = .literal literal → pattern ≠ literal

/-- **Only field values are found unusable as patterns.**  In rules that have been read, in either
mode, every pattern that is written out can be used, at any depth of selectors.  Running the rules,
trying the guards of one and executing one, whatever items there are, each make the notices about
patterns that their searches call for; and every pattern noticed is the text of a field, not one
that is written out. -/
theorem unusable_patterns_come_from_fields {strict : Bool} {text : String} {rules : List Rule}
    (h : (readRules strict text).result = .ok rules) :
    (∀ rule ∈ rules, ∀ c ∈ rule.conditions, c.IsChecked) ∧
    ∀ (trigger parent : Option WorkItem) (children : List WorkItem),
      let ctx := Context.ofTrigger trigger parent children
      NotesAs (runSearched ctx rules) (runRules ctx rules) ∧
      (∀ rule ∈ rules, NotesAs (rule.guardsSearchedIn ctx) (rule.holdsIn ctx) ∧
        NotesAs (rule.actionsSearchedIn ctx) (rule.execute ctx)) ∧
      ∀ pattern reason : Text,
        (.unusablePattern pattern reason ∈ (runRules ctx rules).notices ∨
          ∃ rule ∈ rules, .unusablePattern pattern reason ∈ (rule.holdsIn ctx).notices ∨
            .unusablePattern pattern reason ∈ (rule.execute ctx).notices) →
        ComesFromField rules ctx.items pattern := by
  have hchecked : ∀ rule ∈ rules, ∀ c ∈ rule.conditions, c.IsChecked := fun rule hrule c hc =>
    isChecked_of_mem_readRules h hrule hc
  refine ⟨hchecked, fun trigger parent children => ?_⟩
  intro ctx
  have hrun := (searching_runRules ctx rules).notesAs
  have hguards (rule : Rule) : NotesAs (rule.guardsSearchedIn ctx) (rule.holdsIn ctx) :=
    (searching_rule_holdsIn ctx rule : Searching False _ _).notesAs
  have hactions (rule : Rule) := (searching_executeAll ctx rule.actions).notesAs
  refine ⟨hrun, fun rule _ => ⟨hguards rule, hactions rule⟩, fun pattern reason hnotice => ?_⟩
  -- whoever makes the notice, one of the rules searches with the pattern
  obtain ⟨⟨rule, hrule, hmem⟩, hfault⟩ :
      (∃ rule ∈ rules, pattern ∈ rule.guardsSearchedIn ctx ++ rule.actionsSearchedIn ctx) ∧
        ¬ IsUsable pattern := by
    rcases hnotice with hnotice | ⟨rule, hrule, hnotice | hnotice⟩
    · obtain ⟨hmem, hfault⟩ := hrun.mem_of_mem_notices hnotice
      exact ⟨exists_rule_of_mem_runSearched hmem, hfault⟩
    · obtain ⟨hmem, hfault⟩ := (hguards rule).mem_of_mem_notices hnotice
      exact ⟨⟨rule, hrule, List.mem_append_left _ hmem⟩, hfault⟩
    · obtain ⟨hmem, hfault⟩ := (hactions rule).mem_of_mem_notices hnotice
      exact ⟨⟨rule, hrule, List.mem_append_right _ hmem⟩, hfault⟩
  obtain ⟨c, hc, hfield⟩ := takesField_of_not_isUsable (Context.hasImplicit_ofTrigger _ _ _)
    (hchecked rule hrule) hmem hfault
  refine ⟨⟨rule, hrule, c, hc, hfield⟩, ?_⟩
  rintro rule' hrule' c' hc' hpattern literal hright rfl
  exact hfault (hchecked rule' hrule' c' hc' hpattern literal hright)

/-- Inside a selector a rule searches with a literal and with the reason of the triggering item,
which is no pattern: it is noticed once for each child, though the rule does not match. -/
theorem malformed_reason_noticed :
    let text := "rule \"r\":\n" ++
      "when children(Title matches \"a|b\" and Title matches me.Reason).State is \"New\"\n" ++
      "then set me.State = \"X\""
    let titled (right : Operand) : Condition :=
      .mk (.field (.mk .implicit "Title" none)) .matching right
    let selected : Operand := .field (.mk .children "State"
      (some [titled (.literal "a|b"), titled (.field (.mk .me "Reason" none))]))
    let rules : List Rule := [⟨"r", [.mk selected .equal (.literal "New")],
      [⟨.set, .mk .me "State" none, .literal "X", {}⟩]⟩]
    let child (id : Int) (title : String) : WorkItem :=
      ⟨id, "u", [("System.Title", .str title)], []⟩
    let trigger : WorkItem := ⟨1, "u1", [("System.Reason", .str "(")], []⟩
    let ctx := Context.ofTrigger (some trigger) none [child 2 "a", child 3 "c", child 4 "b"]
    let notice := Notice.unusablePattern "(" "missing ), unterminated subpattern at position 0"
    (readRules true text).result = .ok rules ∧ (runRules ctx rules).notices = [notice, notice] ∧
      (runRules ctx rules).result = .ok {} ∧ ComesFromField rules ctx.items "(" := by
  intro text titled selected rules child trigger ctx notice
  have hread : (readRules true text).result = .ok rules := by decide +kernel
  have hnotices : (runRules ctx rules).notices = [notice, notice] := by decide +kernel
  have hmem : notice ∈ (runRules ctx rules).notices := hnotices ▸ List.mem_cons_self
  obtain ⟨-, hall⟩ := unusable_patterns_come_from_fields hread
  obtain ⟨-, -, hsource⟩ := hall trigger none ctx.children
  exact ⟨hread, hnotices, by decide +kernel, hsource "(" _ (.inl hmem)⟩

end Cascade
