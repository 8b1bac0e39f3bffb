import Cascade.Proofs.Engine.Searches
import Cascade.Proofs.Engine.Targets
import Cascade.Proofs.Rule.CheckedPatterns

/-!
# Evaluations that a field value stops

Where the triggering item is there, only one thing stops an evaluation: searching with a pattern
that is well formed and refused all the same.  A missing value and a malformed pattern do not; they
make the condition false (`holdsIn_eq_false`).

A pattern of an evaluation is supplied by the right operand of a comparison by pattern, at some
depth of the selectors (`maySearch_of_mem_rule`).  Of rules that have been read, the patterns that
are written out can be used; so the pattern at fault is the text of a field
(`takesField_of_refused`).

The main result is `evaluation_ends_as_searches_do`.  The value of one field is enough to stop a run
(`run_refused_by_field_value`).
-/

namespace Cascade

variable {ctx : Context}

/-! ## Where patterns come from -/

/-- The text of a value that an operand can have: the literal, or what one of the items holds in the
field. -/
inductive Operand.Supplies (items : List WorkItem) : Operand → Text → Prop
  | literal (text : String) : Supplies items (.literal text) text
  | field {r : Reference} {item : WorkItem} {value : Value} (hitem : item ∈ items)
      (hread : item.read r.name = some value) : Supplies items (.field r) value.text

/-- The right operand of a comparison by pattern can have this pattern as its text. -/
def Condition.MaySearch (items : List WorkItem) (c : Condition) (pattern : Text) : Prop :=
  c.comparison.takesPattern = true ∧ c.right.Supplies items pattern

/-- A pattern is the text of a field, and stands on the right of a comparison by pattern. -/
def Condition.TakesField (items : List WorkItem) (c : Condition) (pattern : Text) : Prop :=
  c.comparison.takesPattern = true ∧ ∃ r, c.right = .field r ∧
    ∃ item ∈ items, ∃ value, item.read r.name = some value ∧ value.text = pattern

/-- The item at hand, if there is one, is an item of the context. -/
def Context.HasImplicit (ctx : Context) : Prop := ∀ item ∈ ctx.implicit, item ∈ ctx.items

lemma Context.hasImplicit_ofTrigger (trigger parent : Option WorkItem) (children : List WorkItem) :
    (Context.ofTrigger trigger parent children).HasImplicit := by
  intro item hitem
  obtain rfl : trigger = some item := hitem
  simp [Context.items, Context.ofTrigger]

lemma Context.hasImplicit_withImplicit_child {child : WorkItem} (h : child ∈ ctx.children) :
    (ctx.withImplicit (some child)).HasImplicit := by
  rintro item ⟨⟩
  exact List.mem_append_right _ h

lemma Context.hasImplicit_withImplicit_triggering :
    (ctx.withImplicit ctx.triggering).HasImplicit := by
  intro item hitem
  obtain hitem : ctx.triggering = some item := hitem
  simp [Context.items, hitem]

lemma mem_children_of_matchingChild {selector : Option (List Condition)} {item : WorkItem}
    (h : (matchingChild ctx selector).result = .ok (some item)) : item ∈ ctx.children :=
  @mem_children_of_itemIn ctx "" selector item (by rwa [itemIn_mk])

lemma mem_items_of_itemIn {r : Reference} {item : WorkItem} (himplicit : ctx.HasImplicit)
    (h : (r.itemIn ctx).result = .ok (some item)) : item ∈ ctx.items := by
  obtain ⟨scope, name, selector⟩ := r
  rw [itemIn_mk] at h
  cases scope with
  | implicit => exact himplicit item (Except.ok.inj h)
  | me =>
    obtain h : ctx.triggering = some item := Except.ok.inj h
    simp [Context.items, h]
  | parent =>
    obtain h : ctx.parent = some item := Except.ok.inj h
    simp [Context.items, h]
  | child | children => exact List.mem_append_right _ (mem_children_of_matchingChild h)

lemma supplies_of_valueIn {op : Operand} {value : Value} (himplicit : ctx.HasImplicit)
    (h : (op.valueIn ctx).result = .ok (some value)) : op.Supplies ctx.items value.text := by
  cases op with
  | literal text =>
    rw [Operand.valueIn] at h
    obtain rfl : Value.str text = value := Option.some.inj (Except.ok.inj h)
    exact .literal text
  | field r =>
    rw [valueIn_field] at h
    obtain ⟨item, hitem, h⟩ := Logged.result_bind_eq_ok.mp h
    obtain ⟨item, rfl, hread⟩ := Option.bind_eq_some_iff.mp (Except.ok.inj h)
    exact .field (mem_items_of_itemIn himplicit hitem) hread

lemma mem_searched {c : Comparison} {left right : Option Value} {p : Text}
    (h : p ∈ c.searched left right) :
    c.takesPattern = true ∧ ∃ value, right = some value ∧ value.text = p := by
  cases left with
  | none => cases h
  | some left =>
    cases right with
    | none => cases h
    | some right =>
      rw [Comparison.searched] at h
      split at h
      · next hpattern => exact ⟨hpattern, right, rfl, (List.mem_singleton.mp h).symm⟩
      · cases h

lemma eq_ok_some_of_join {ε α : Type} {x : Except ε (Option α)} {a : α}
    (h : x.toOption.join = some a) : x = .ok (some a) := by
  cases x with
  | error e => cases h
  | ok a? => exact congrArg _ h

lemma exists_candidate_of_mem_firstSearched {α : Type} {test : α → Eval Bool}
    {searched : α → List Text} {candidates : List α} {p : Text}
    (h : p ∈ firstSearched test searched candidates) : ∃ a ∈ candidates, p ∈ searched a := by
  induction candidates with
  | nil => cases h
  | cons a rest ih =>
    rcases List.mem_append.mp h with h | h
    · exact ⟨a, List.mem_cons_self, h⟩
    · split at h
      · cases h
      · obtain ⟨b, hb, h⟩ := ih h
        exact ⟨b, List.mem_cons_of_mem a hb, h⟩

mutual

/-- The patterns of a condition are supplied by its own right operand or by one in its selectors. -/
theorem maySearch_of_mem_condition : (ctx : Context) → (himplicit : ctx.HasImplicit) →
    (c : Condition) → ∀ p ∈ c.searchedIn ctx, ∃ d ∈ c.conditions, d.MaySearch ctx.items p
  | ctx, himplicit, .mk left comparison right => by
    intro p hp
    rw [Condition.searchedIn, List.mem_append, List.mem_append] at hp
    rw [Condition.conditions]
    rcases hp with hp | hp | hp
    · obtain ⟨d, hd, h⟩ := maySearch_of_mem_operand ctx himplicit left p hp
      exact ⟨d, by simp [hd], h⟩
    · obtain ⟨d, hd, h⟩ := maySearch_of_mem_operand ctx himplicit right p hp
      exact ⟨d, by simp [hd], h⟩
    · obtain ⟨hpattern, value, hvalue, rfl⟩ := mem_searched hp
      exact ⟨_, List.mem_cons_self, hpattern,
        supplies_of_valueIn himplicit (eq_ok_some_of_join hvalue)⟩

/-- The patterns of an operand are supplied by conditions in its selectors. -/
theorem maySearch_of_mem_operand : (ctx : Context) → (himplicit : ctx.HasImplicit) →
    (op : Operand) → ∀ p ∈ op.searchedIn ctx, ∃ d ∈ op.conditions, d.MaySearch ctx.items p
  | _, _, .literal _ => by
    rw [Operand.searchedIn]
    exact nofun
  | _, _, .field (.mk scope name none) => by
    cases scope <;> · rw [Operand.searchedIn, Reference.searchedIn] <;> exact nofun
  | ctx, _, .field (.mk scope name (some conditions)) => by
    have hfirst : ∀ p ∈ firstSearched
        (fun child => allHold (ctx.withImplicit (some child)) conditions)
        (fun child => allSearched (ctx.withImplicit (some child)) conditions) ctx.children,
        ∃ d ∈ nestedConditions conditions, d.MaySearch ctx.items p := by
      intro p hp
      obtain ⟨child, hchild, hp⟩ := exists_candidate_of_mem_firstSearched hp
      exact maySearch_of_mem_all (ctx.withImplicit (some child))
        (Context.hasImplicit_withImplicit_child hchild) conditions p hp
    rw [Operand.searchedIn, Operand.conditions]
    cases scope with
    | implicit | me | parent =>
      rw [Reference.searchedIn]
      · exact nofun
      all_goals simp
    | child | children =>
      rw [Reference.searchedIn]
      exact hfirst

/-- The patterns of conditions are supplied by them and by those in their selectors. -/
theorem maySearch_of_mem_all : (ctx : Context) → (himplicit : ctx.HasImplicit) →
    (cs : List Condition) → ∀ p ∈ allSearched ctx cs,
      ∃ d ∈ nestedConditions cs, d.MaySearch ctx.items p
  | _, _, [] => by
    rw [allSearched]
    exact nofun
  | ctx, himplicit, c :: rest => by
    intro p hp
    rw [allSearched, List.mem_append] at hp
    rw [nestedConditions]
    rcases hp with hp | hp
    · obtain ⟨d, hd, h⟩ := maySearch_of_mem_condition ctx himplicit c p hp
      exact ⟨d, List.mem_append_left _ hd, h⟩
    · split at hp
      · obtain ⟨d, hd, h⟩ := maySearch_of_mem_all ctx himplicit rest p hp
        exact ⟨d, List.mem_append_right _ hd, h⟩
      · cases hp

end

lemma maySearch_of_mem_targets {r : Reference} {p : Text} (himplicit : ctx.HasImplicit)
    (h : p ∈ r.targetsSearchedIn ctx) :
    ∃ d ∈ (Operand.field r).conditions, d.MaySearch ctx.items p := by
  obtain ⟨scope, name, selector⟩ := r
  cases scope with
  | implicit | me | parent => cases h
  | child =>
    refine maySearch_of_mem_operand ctx himplicit (.field (.mk .child name selector)) p ?_
    rwa [Operand.searchedIn]
  | children =>
    cases selector with
    | none => cases h
    | some conditions =>
      obtain ⟨child, hchild, h⟩ := List.mem_flatMap.mp h
      rw [Operand.conditions]
      exact maySearch_of_mem_all _ (Context.hasImplicit_withImplicit_child hchild) conditions p h

lemma maySearch_of_mem_action {a : Action} {p : Text} (himplicit : ctx.HasImplicit)
    (h : p ∈ a.searchedIn ctx) : ∃ d ∈ a.conditions, d.MaySearch ctx.items p := by
  rw [Action.searchedIn, List.mem_append] at h
  rw [Action.conditions]
  rcases h with h | h
  · obtain ⟨d, hd, h⟩ := maySearch_of_mem_targets himplicit h
    exact ⟨d, List.mem_append_right _ hd, h⟩
  · split at h
    · cases h
    · obtain ⟨d, hd, h⟩ :=
        maySearch_of_mem_operand _ Context.hasImplicit_withImplicit_triggering a.value p h
      exact ⟨d, List.mem_append_left _ hd, h⟩

lemma maySearch_of_mem_rule {rule : Rule} {p : Text} (himplicit : ctx.HasImplicit)
    (h : p ∈ rule.guardsSearchedIn ctx ++ rule.actionsSearchedIn ctx) :
    ∃ c ∈ rule.conditions, c.MaySearch ctx.items p := by
  rw [Rule.conditions]
  rcases List.mem_append.mp h with h | h
  · obtain ⟨c, hc, h⟩ := maySearch_of_mem_all ctx himplicit rule.guards p h
    exact ⟨c, List.mem_append_left _ hc, h⟩
  · obtain ⟨a, ha, h⟩ := List.mem_flatMap.mp h
    obtain ⟨c, hc, h⟩ := maySearch_of_mem_action himplicit h
    exact ⟨c, List.mem_append_right _ (List.mem_flatMap.mpr ⟨a, ha, hc⟩), h⟩

lemma exists_rule_of_mem_runSearched {rules : List Rule} {p : Text}
    (h : p ∈ runSearched ctx rules) :
    ∃ rule ∈ rules, p ∈ rule.guardsSearchedIn ctx ++ rule.actionsSearchedIn ctx := by
  induction rules with
  | nil => cases h
  | cons rule rest ih =>
    rcases List.mem_append.mp h with h | h
    · exact ⟨rule, List.mem_cons_self, List.mem_append_left _ h⟩
    · split at h
      · exact ⟨rule, List.mem_cons_self, List.mem_append_right _ h⟩
      · obtain ⟨rule', hrule', h⟩ := ih h
        exact ⟨rule', List.mem_cons_of_mem rule hrule', h⟩

lemma refusal?_eq_none_of_isUsable {pattern : Text} (h : IsUsable pattern) :
    refusal? pattern = none := by
  obtain ⟨node, hnode⟩ := h
  rw [refusal?, hnode]

/-- A pattern with which a checked rule searches and that cannot be used is the text of a field. -/
lemma takesField_of_not_isUsable {rule : Rule} {p : Text} (himplicit : ctx.HasImplicit)
    (hchecked : ∀ c ∈ rule.conditions, c.IsChecked)
    (h : p ∈ rule.guardsSearchedIn ctx ++ rule.actionsSearchedIn ctx) (hfault : ¬ IsUsable p) :
    ∃ c ∈ rule.conditions, c.TakesField ctx.items p := by
  obtain ⟨c, hc, hpattern, hsupplies⟩ := maySearch_of_mem_rule himplicit h
  refine ⟨c, hc, hpattern, ?_⟩
  generalize hright : c.right = right at hsupplies
  -- a literal that cannot be used would have stopped the reading of the rule
  cases hsupplies with
  | literal text => exact absurd (hchecked c hc hpattern _ hright) hfault
  | @field r item value hitem hread => exact ⟨r, rfl, item, hitem, value, hread, rfl⟩

lemma takesField_of_refused {rule : Rule} {p : Text} (himplicit : ctx.HasImplicit)
    (hchecked : ∀ c ∈ rule.conditions, c.IsChecked)
    (h : p ∈ rule.guardsSearchedIn ctx ++ rule.actionsSearchedIn ctx)
    (hrefused : refusal? p ≠ none) : ∃ c ∈ rule.conditions, c.TakesField ctx.items p :=
  takesField_of_not_isUsable himplicit hchecked h fun husable =>
    hrefused (refusal?_eq_none_of_isUsable husable)

/-! ## Conditions that are false instead -/

/-- A comparison by pattern cannot be made with this value, as its text is no pattern. -/
def Comparison.IsMalformed (c : Comparison) (right : Option Value) : Prop :=
  c.takesPattern = true ∧ ∃ value reason position, right = some value ∧
    Pattern.Node.read value.text = .error (.malformed reason position)

/-- Operands without a value, and fields that hold no pattern, make a condition false. -/
lemma holdsIn_eq_false {c : Condition} {left right : Option Value}
    (hleft : (c.left.valueIn ctx).result = .ok left)
    (hright : (c.right.valueIn ctx).result = .ok right)
    (h : left = none ∨ right = none ∨ c.comparison.IsMalformed right) :
    (c.holdsIn ctx).result = .ok false := by
  obtain ⟨leftOperand, comparison, rightOperand⟩ := c
  simp only [Condition.left, Condition.comparison, Condition.right] at hleft hright h
  have hbetween : (comparison.between left right).result = .ok false := by
    rcases h with rfl | rfl | ⟨hpattern, value, reason, position, rfl, hmalformed⟩
    · rfl
    · rw [Comparison.between_none_right]
      rfl
    · cases left with
      | none => rfl
      | some left =>
        have hsearch : (searchPattern value.text left.text).result = .ok none :=
          result_searchPattern_of_malformed hmalformed left.text
        cases comparison with
        | matching | notMatching =>
          rw [Comparison.between, Comparison.holds, Logged.bind_of_ok hsearch]
          rfl
        | contains | startsWith | endsWith | equal | notEqual => cases hpattern
  rw [holdsIn_mk, Logged.bind_of_ok hleft, Logged.bind_of_ok hright]
  exact hbetween

/-! ## The main result -/

/-- **An evaluation ends as the patterns it searches with do.**  For rules that have been read, in
either mode, and a triggering item with any parent and children: running them, trying the guards of
one and executing one each give a result, unless a pattern that is searched with on the way is
refused; then the first such refusal is the error.  Only the text of a field can be such a pattern.
Operands without a value and malformed patterns make a condition false.  Groups of a pattern may be
nested to any depth here; that a reader runs out of stack is not among the refusals. -/
theorem evaluation_ends_as_searches_do {strict : Bool} {text : String} {rules : List Rule}
    (h : (readRules strict text).result = .ok rules) (trigger : WorkItem)
    (parent : Option WorkItem) (children : List WorkItem) :
    let ctx := Context.ofTrigger (some trigger) parent children
    EndsAt (runSearched ctx rules) (runRules ctx rules) ∧
    (∀ rule ∈ rules, EndsAt (rule.guardsSearchedIn ctx) (rule.holdsIn ctx) ∧
      EndsAt (rule.actionsSearchedIn ctx) (rule.execute ctx)) ∧
    (∀ p ∈ runSearched ctx rules,
      ∃ rule ∈ rules, p ∈ rule.guardsSearchedIn ctx ++ rule.actionsSearchedIn ctx) ∧
    (∀ rule ∈ rules, ∀ p ∈ rule.guardsSearchedIn ctx ++ rule.actionsSearchedIn ctx,
      refusal? p ≠ none → ∃ c ∈ rule.conditions, c.TakesField ctx.items p) ∧
    ∀ (item : Option WorkItem) (c : Condition) (left right : Option Value),
      (c.left.valueIn (ctx.withImplicit item)).result = .ok left →
      (c.right.valueIn (ctx.withImplicit item)).result = .ok right →
      left = none ∨ right = none ∨ c.comparison.IsMalformed right →
      (c.holdsIn (ctx.withImplicit item)).result = .ok false := by
  intro ctx
  have htrigger : ctx.triggering = some trigger := rfl
  refine ⟨endsAt_runRules htrigger rules,
    fun rule _ => ⟨endsAt_rule_holdsIn ctx rule, endsAt_executeAll htrigger rule.actions⟩,
    fun p hp => exists_rule_of_mem_runSearched hp, fun rule hrule p hp hrefused => ?_,
    fun item c left right hleft hright h => holdsIn_eq_false hleft hright h⟩
  exact takesField_of_refused (Context.hasImplicit_ofTrigger _ _ _)
    (fun c hc => isChecked_of_mem_readRules h hrule hc) hp hrefused

/-- A field holds a count of repetitions that no number of the machine can hold, and a rule searches
with it: the run has no result. -/
theorem run_refused_by_field_value :
    let text := "rule \"r\": when me.Title matches me.Reason then set me.State = \"X\""
    let field (name : String) : Operand := .field (.mk .me name none)
    let rules : List Rule := [⟨"r", [.mk (field "Title") .matching (field "Reason")],
      [⟨.set, .mk .me "State" none, .literal "X", {}⟩]⟩]
    let trigger : WorkItem := ⟨7, "u7",
      [("System.Reason", .str "a\x7b4294967295\x7d"), ("System.Title", .str "t")], []⟩
    (readRules true text).result = .ok rules ∧
      (runRules (Context.ofTrigger (some trigger) none []) rules).result =
        .error (.refusedPattern .repetitionTooLarge) := by
  intro text field rules trigger
  have hread : (readRules true text).result = .ok rules := by decide +kernel
  have hrefused :
      (runSearched (Context.ofTrigger (some trigger) none []) rules).findSome? refusal? =
      some .repetitionTooLarge := by decide +kernel
  obtain ⟨hrun, -⟩ := evaluation_ends_as_searches_do hread trigger none []
  exact ⟨hread, hrun.error _ hrefused⟩

end Cascade
