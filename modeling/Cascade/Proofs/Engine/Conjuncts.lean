import Cascade.Proofs.Engine.Refusals
import Cascade.Proofs.Engine.Selection

/-!
# The order of conjuncts

Conditions are tried from left to right until one is false, and a selector is tried on one child
after another.  Which patterns an evaluation searches with depends on that order, but what it finds
out does not: two conjunctions with the same conjuncts hold alike (`agree_allHold`).

`Rule.Alike` relates rules that differ in the order and number of conjuncts only, be it in guards or
in selectors at any depth.  Two evaluations agree (`Agree`) if they have the same result, unless one
of them meets a pattern that is refused; the other may have stopped before it.  As this is kept by
every step (`Agree.bind`), the evaluations of alike rules agree by induction on the nesting of
selectors (`agree_holdsIn` and the theorems beside it), and so do executions and runs.

Where no pattern that the rules can search with is refused, both evaluations have a result.  The
main result is `conjuncts_in_any_order`.
-/

namespace Cascade

/-! ## Rules that differ in their conjunctions -/

mutual

/-- Two conditions are the same but for the conjunctions in their selectors. -/
inductive Condition.Alike : Condition → Condition → Prop
  | mk {left left' right right' : Operand} (comparison : Comparison)
    (hleft : Operand.Alike left left') (hright : Operand.Alike right right') :
    Condition.Alike (.mk left comparison right) (.mk left' comparison right')

/-- Two operands are the same but for the conjunctions in their selectors. -/
inductive Operand.Alike : Operand → Operand → Prop
  | literal (text : String) : Operand.Alike (.literal text) (.literal text)
  | field {r r' : Reference} (h : Reference.Alike r r') : Operand.Alike (.field r) (.field r')

/-- Two references are the same but for the conjunctions in their selectors. -/
inductive Reference.Alike : Reference → Reference → Prop
  | bare (scope : Scope) (name : String) :
    Reference.Alike (.mk scope name none) (.mk scope name none)
  | selective {conditions conditions' : List Condition} (scope : Scope) (name : String)
    (hthere : EachAlike conditions conditions') (hback : EachAlike conditions' conditions) :
    Reference.Alike (.mk scope name (some conditions)) (.mk scope name (some conditions'))

/-- Each of some conditions is like one of others. -/
inductive EachAlike : List Condition → List Condition → Prop
  | nil (others : List Condition) : EachAlike [] others
  | cons {c other : Condition} {rest others : List Condition} (hmem : other ∈ others)
    (h : Condition.Alike c other) (hrest : EachAlike rest others) : EachAlike (c :: rest) others

end

/-- Two conjunctions have the same conjuncts, in whatever order and however often. -/
structure ConjunctionsAlike (conditions conditions' : List Condition) : Prop where
  there : EachAlike conditions conditions'
  back : EachAlike conditions' conditions

/-- Two actions are the same but for the conjunctions in their selectors. -/
structure Action.Alike (a a' : Action) : Prop where
  kind : a.kind = a'.kind
  options : a.options = a'.options
  target : a.target.Alike a'.target
  value : a.value.Alike a'.value

/-- Two rules are the same but for their conjunctions. -/
structure Rule.Alike (rule rule' : Rule) : Prop where
  name : rule.name = rule'.name
  guards : ConjunctionsAlike rule.guards rule'.guards
  actions : List.Forall₂ Action.Alike rule.actions rule'.actions

variable {c d : Condition} {cs ds : List Condition}

lemma Reference.Alike.name_eq {r r' : Reference} (h : r.Alike r') : r.name = r'.name := by
  cases h <;> rfl

mutual

theorem Condition.Alike.refl : (c : Condition) → c.Alike c
  | .mk left comparison right => .mk comparison (Operand.Alike.refl left) (Operand.Alike.refl right)

theorem Operand.Alike.refl : (op : Operand) → op.Alike op
  | .literal text => .literal text
  | .field r => .field (Reference.Alike.refl r)

theorem Reference.Alike.refl : (r : Reference) → r.Alike r
  | .mk scope name none => .bare scope name
  | .mk scope name (some conditions) =>
    .selective scope name (EachAlike.of_subset conditions fun _ => id)
      (EachAlike.of_subset conditions fun _ => id)

/-- Conditions are like themselves wherever they stand. -/
theorem EachAlike.of_subset : (cs : List Condition) → {ds : List Condition} → cs ⊆ ds →
    EachAlike cs ds
  | [], _, _ => .nil _
  | c :: rest, _, h =>
    .cons (h List.mem_cons_self) (Condition.Alike.refl c)
      (EachAlike.of_subset rest fun _ hmem => h (List.mem_cons_of_mem c hmem))

end

/-- A conjunction may be permuted, and its conjuncts may be repeated. -/
lemma ConjunctionsAlike.of_mem_iff (h : ∀ c, c ∈ cs ↔ c ∈ ds) : ConjunctionsAlike cs ds :=
  ⟨EachAlike.of_subset cs fun c => (h c).mp, EachAlike.of_subset ds fun c => (h c).mpr⟩

mutual

theorem Condition.Alike.symm : {c d : Condition} → c.Alike d → d.Alike c
  | _, _, .mk comparison hleft hright => .mk comparison hleft.symm hright.symm

theorem Operand.Alike.symm : {op op' : Operand} → op.Alike op' → op'.Alike op
  | _, _, .literal text => .literal text
  | _, _, .field h => .field h.symm

theorem Reference.Alike.symm : {r r' : Reference} → r.Alike r' → r'.Alike r
  | _, _, .bare scope name => .bare scope name
  | _, _, .selective scope name hthere hback => .selective scope name hback hthere

end

lemma Action.Alike.symm {a a' : Action} (h : a.Alike a') : a'.Alike a :=
  ⟨h.kind.symm, h.options.symm, h.target.symm, h.value.symm⟩

lemma Rule.Alike.symm {rule rule' : Rule} (h : rule.Alike rule') : rule'.Alike rule :=
  ⟨h.name.symm, ⟨h.guards.back, h.guards.there⟩, (h.actions.imp fun _ _ ha => ha.symm).flip⟩

/-! ## Evaluations that agree -/

/-- An evaluation ends with a pattern that is refused. -/
def IsRefused {α : Type} (x : Eval α) : Prop :=
  ∃ refusal, x.result = .error (.refusedPattern refusal)

/-- Two evaluations have the same result, be it an error, unless a pattern is refused in one. -/
def Agree {α : Type} (x y : Eval α) : Prop := ¬ IsRefused x → ¬ IsRefused y → x.result = y.result

namespace Agree

variable {α β : Type} {x y : Eval α}

lemma of_eq (h : x.result = y.result) : Agree x y := fun _ _ => h

lemma symm (h : Agree x y) : Agree y x := fun hy hx => (h hx hy).symm

/-- Where two steps agree, so do the evaluations that they begin. -/
lemma bind {f g : α → Eval β} (h : Agree x y) (hfg : ∀ a, Agree (f a) (g a)) :
    Agree (x >>= f) (y >>= g) := by
  intro hx hy
  have hsame : x.result = y.result := by
    refine h (fun ⟨refusal, herror⟩ => hx ⟨refusal, ?_⟩) (fun ⟨refusal, herror⟩ => hy ⟨refusal, ?_⟩)
    · rw [Logged.bind_of_error herror]
    · rw [Logged.bind_of_error herror]
  cases hout : y.result with
  | error e =>
    rw [Logged.bind_of_error (hsame.trans hout), Logged.bind_of_error hout]
  | ok a =>
    rw [Logged.bind_of_ok (hsame.trans hout)] at hx ⊢
    rw [Logged.bind_of_ok hout] at hy ⊢
    exact hfg a hx hy

end Agree

variable {ctx : Context}

/-! ## Conditions -/

/-- Trying conditions gives a result unless a pattern is refused. -/
lemma exists_allHold (h : ¬ IsRefused (allHold ctx cs)) :
    ∃ holds, (allHold ctx cs).result = .ok holds := by
  have hends : EndsAt (allSearched ctx cs) (allHold ctx cs) :=
    (searching_allHold ctx cs).endsAt not_false
  cases hfirst : (allSearched ctx cs).findSome? refusal? with
  | none => exact hends.ok hfirst
  | some refusal => exact absurd ⟨refusal, hends.error refusal hfirst⟩ h

/-- If conditions do not all hold, one of them is false. -/
lemma exists_false_of_allHold (h : (allHold ctx cs).result = .ok false) :
    ∃ c ∈ cs, (c.holdsIn ctx).result = .ok false := by
  induction cs with
  | nil => simp [allHold] at h
  | cons c rest ih =>
    rw [allHold] at h
    obtain ⟨holds, hholds, hrest⟩ := Logged.result_bind_eq_ok.mp h
    cases holds with
    | false => exact ⟨c, List.mem_cons_self, hholds⟩
    | true =>
      obtain ⟨d, hd, hfalse⟩ := ih hrest
      exact ⟨d, List.mem_cons_of_mem c hd, hfalse⟩

/-- Each condition of the first list agrees with one of the second, in every context. -/
def EachAgrees (cs ds : List Condition) : Prop :=
  ∀ c ∈ cs, ∃ d ∈ ds, ∀ ctx, Agree (c.holdsIn ctx) (d.holdsIn ctx)

/-- Conditions all hold if those all hold with which they agree. -/
lemma allHold_of_eachAgrees (h : EachAgrees ds cs) {holds : Bool}
    (hall : (allHold ctx cs).result = .ok true) (hother : (allHold ctx ds).result = .ok holds) :
    holds = true := by
  refine eq_true_of_ne_false fun hfalse => ?_
  subst hfalse
  obtain ⟨d, hd, hdfalse⟩ := exists_false_of_allHold hother
  obtain ⟨c, hc, hagree⟩ := h d hd
  have hctrue := allHold_eq_true_iff.mp hall c hc
  have hsame := hagree ctx (by simp [IsRefused, hdfalse]) (by simp [IsRefused, hctrue])
  rw [hdfalse, hctrue] at hsame
  cases hsame

/-- Conjunctions hold alike if their conjuncts do, wherever they stand. -/
lemma agree_allHold (hthere : EachAgrees cs ds) (hback : EachAgrees ds cs) (ctx : Context) :
    Agree (allHold ctx cs) (allHold ctx ds) := by
  intro hcs hds
  obtain ⟨a, ha⟩ := exists_allHold hcs
  obtain ⟨b, hb⟩ := exists_allHold hds
  rw [ha, hb]
  congr 1
  cases a with
  | true => exact (allHold_of_eachAgrees hback ha hb).symm
  | false =>
    cases b with
    | false => rfl
    | true => exact allHold_of_eachAgrees hthere hb ha

/-! ## Selectors -/

section

variable {α : Type} {test test' : α → Eval Bool}

lemma agree_findFirst (h : ∀ a, Agree (test a) (test' a)) (candidates : List α) :
    Agree (findFirst test candidates) (findFirst test' candidates) := by
  induction candidates with
  | nil => exact .of_eq rfl
  | cons a rest ih =>
    refine (h a).bind fun passes => ?_
    cases passes with
    | true => exact .of_eq rfl
    | false => exact ih

lemma agree_findAll (h : ∀ a, Agree (test a) (test' a)) (candidates : List α) :
    Agree (findAll test candidates) (findAll test' candidates) := by
  induction candidates with
  | nil => exact .of_eq rfl
  | cons a rest ih => exact (h a).bind fun passes => ih.bind fun more => .of_eq rfl

end

lemma agree_matchingChild (hthere : EachAgrees cs ds) (hback : EachAgrees ds cs) (ctx : Context) :
    Agree (matchingChild ctx (some cs)) (matchingChild ctx (some ds)) :=
  agree_findFirst (fun _ => agree_allHold hthere hback _) ctx.children

mutual

/-- Alike conditions hold alike. -/
theorem agree_holdsIn : {c d : Condition} → c.Alike d → (ctx : Context) →
    Agree (c.holdsIn ctx) (d.holdsIn ctx)
  | _, _, .mk comparison hleft hright, ctx => by
    rw [holdsIn_mk, holdsIn_mk]
    exact (agree_valueIn hleft ctx).bind fun l =>
      (agree_valueIn hright ctx).bind fun r => .of_eq rfl

theorem agree_valueIn : {op op' : Operand} → op.Alike op' → (ctx : Context) →
    Agree (op.valueIn ctx) (op'.valueIn ctx)
  | _, _, .literal text, _ => .of_eq rfl
  | _, _, .field h, ctx => by
    rw [valueIn_field, valueIn_field, h.name_eq]
    exact (agree_itemIn h ctx).bind fun item => .of_eq rfl

theorem agree_itemIn : {r r' : Reference} → r.Alike r' → (ctx : Context) →
    Agree (r.itemIn ctx) (r'.itemIn ctx)
  | _, _, .bare scope name, _ => .of_eq rfl
  | _, _, .selective scope name hthere hback, ctx => by
    rw [itemIn_mk, itemIn_mk]
    cases scope with
    | implicit | me | parent => exact .of_eq rfl
    | child | children => exact agree_matchingChild (eachAgrees hthere) (eachAgrees hback) ctx

theorem eachAgrees : {cs ds : List Condition} → EachAlike cs ds → EachAgrees cs ds
  | _, _, .nil _ => nofun
  | _, _, .cons hmem hother hrest =>
    List.forall_mem_cons.mpr ⟨⟨_, hmem, agree_holdsIn hother⟩, eachAgrees hrest⟩

end

/-! ## Targets, actions and runs -/

lemma agree_matchingChildren (hthere : EachAgrees cs ds) (hback : EachAgrees ds cs)
    (ctx : Context) : Agree (matchingChildren ctx (some cs)) (matchingChildren ctx (some ds)) :=
  agree_findAll (fun _ => agree_allHold hthere hback _) ctx.children

lemma agree_targetsIn {r r' : Reference} (h : r.Alike r') (ctx : Context) :
    Agree (r.targetsIn ctx) (r'.targetsIn ctx) := by
  cases h with
  | bare scope name => exact .of_eq rfl
  | @selective conditions conditions' scope name hthere hback =>
    have hthere := eachAgrees hthere
    have hback := eachAgrees hback
    rw [targetsIn_mk, targetsIn_mk]
    cases scope with
    | implicit | me | parent => exact .of_eq rfl
    | child => exact (agree_matchingChild hthere hback ctx).bind fun item => .of_eq rfl
    | children => exact (agree_matchingChildren hthere hback ctx).bind fun items => .of_eq rfl

variable {a a' : Action} {rule rule' : Rule} {rules rules' : List Rule}

/-- What an action does to its targets does not depend on how it selects them. -/
lemma Action.Alike.apply_eq (h : a.Alike a') (targets : List (Option WorkItem)) (value : Text) :
    a.apply targets value = a'.apply targets value := by
  have hname : a.target.name = a'.target.name := h.target.name_eq
  have hreplacement : a.replacement = a'.replacement := by
    funext item value
    simp only [Action.replacement, h.options, hname]
  have htag : a.isOnTags = a'.isOnTags := by simp only [Action.isOnTags, hname]
  simp only [Action.apply, h.kind, hreplacement, htag, hname]

lemma agree_execute (h : a.Alike a') (ctx : Context) : Agree (a.execute ctx) (a'.execute ctx) := by
  refine (agree_targetsIn h.target ctx).bind fun targets => ?_
  split
  · exact .of_eq rfl
  · refine (agree_valueIn h.value _).bind fun value => ?_
    cases value with
    | none => exact .of_eq rfl
    | some value => exact .of_eq (congrArg _ (h.apply_eq targets value.text))

lemma agree_executeAll {actions actions' : List Action}
    (h : List.Forall₂ Action.Alike actions actions')
    (ctx : Context) : Agree (executeAll ctx actions) (executeAll ctx actions') := by
  induction h with
  | nil => exact .of_eq rfl
  | cons ha _ ih =>
    exact (agree_execute ha ctx).bind fun operations => ih.bind fun more => .of_eq rfl

lemma agree_rule_holdsIn (h : rule.Alike rule') (ctx : Context) :
    Agree (rule.holdsIn ctx) (rule'.holdsIn ctx) :=
  agree_allHold (eachAgrees h.guards.there) (eachAgrees h.guards.back) ctx

/-- Alike rules run alike. -/
lemma agree_runRules (h : List.Forall₂ Rule.Alike rules rules') (ctx : Context) :
    Agree (runRules ctx rules) (runRules ctx rules') := by
  induction h with
  | nil => exact .of_eq rfl
  | @cons rule rule' rest rest' hrule _ ih =>
    refine (agree_rule_holdsIn hrule ctx).bind fun holds => ?_
    cases holds with
    | false => exact ih
    | true =>
      refine Agree.bind (.of_eq rfl) fun _ => ?_
      refine (agree_executeAll hrule.actions ctx).bind fun operations => .of_eq ?_
      rw [hrule.name]

/-! ## Where no pattern is refused -/

mutual

/-- A condition inside a condition is like one inside any that is like the outer one. -/
theorem Condition.Alike.exists_inner : {c d : Condition} → c.Alike d →
    ∀ e ∈ c.conditions, ∃ e' ∈ d.conditions, e.Alike e'
  | _, _, .mk comparison hleft hright => by
    have hl := hleft.exists_inner
    have hr := hright.exists_inner
    have hself := Condition.Alike.mk comparison hleft hright
    intro e he
    rw [Condition.conditions, List.mem_cons, List.mem_append] at he
    rw [Condition.conditions]
    rcases he with rfl | he | he
    · exact ⟨_, List.mem_cons_self, hself⟩
    · obtain ⟨e', he', h⟩ := hl e he
      exact ⟨e', by simp [he'], h⟩
    · obtain ⟨e', he', h⟩ := hr e he
      exact ⟨e', by simp [he'], h⟩

theorem Operand.Alike.exists_inner : {op op' : Operand} → op.Alike op' →
    ∀ e ∈ op.conditions, ∃ e' ∈ op'.conditions, e.Alike e'
  | _, _, .literal text => by
    rw [Operand.conditions]
    exact nofun
  | _, _, .field h => h.exists_inner

theorem Reference.Alike.exists_inner : {r r' : Reference} → r.Alike r' →
    ∀ e ∈ (Operand.field r).conditions, ∃ e' ∈ (Operand.field r').conditions, e.Alike e'
  | _, _, .bare scope name => by
    rw [Operand.conditions]
    exact nofun
  | _, _, .selective scope name hthere hback => by
    rw [Operand.conditions, Operand.conditions]
    exact hthere.exists_inner

theorem EachAlike.exists_inner : {cs ds : List Condition} → EachAlike cs ds →
    ∀ e ∈ nestedConditions cs, ∃ e' ∈ nestedConditions ds, e.Alike e'
  | _, _, .nil _ => by
    rw [nestedConditions]
    exact nofun
  | _, ds, .cons hmem hother hrest => by
    have hc := hother.exists_inner
    have hmore := hrest.exists_inner
    intro e he
    rw [nestedConditions, List.mem_append] at he
    rcases he with he | he
    · obtain ⟨e', he', h⟩ := hc e he
      exact ⟨e', mem_nestedConditions.mpr ⟨_, hmem, he'⟩, h⟩
    · exact hmore e he

end

lemma Action.Alike.exists_inner (h : a.Alike a') :
    ∀ e ∈ a.conditions, ∃ e' ∈ a'.conditions, e.Alike e' := by
  intro e he
  rw [Action.conditions] at he ⊢
  rcases List.mem_append.mp he with he | he
  · obtain ⟨e', he', h⟩ := h.value.exists_inner e he
    exact ⟨e', List.mem_append_left _ he', h⟩
  · obtain ⟨e', he', h⟩ := h.target.exists_inner e he
    exact ⟨e', List.mem_append_right _ he', h⟩

lemma Rule.Alike.exists_inner (h : rule.Alike rule') :
    ∀ e ∈ rule.conditions, ∃ e' ∈ rule'.conditions, e.Alike e' := by
  intro e he
  rw [Rule.conditions] at he ⊢
  rcases List.mem_append.mp he with he | he
  · obtain ⟨e', he', h⟩ := h.guards.there.exists_inner e he
    exact ⟨e', List.mem_append_left _ he', h⟩
  · obtain ⟨a, ha, he⟩ := List.mem_flatMap.mp he
    obtain ⟨a', ha', haa⟩ := exists_left_of_mem (h.actions.imp fun _ _ ha => ha.symm).flip ha
    obtain ⟨e', he', h⟩ := haa.symm.exists_inner e he
    exact ⟨e', List.mem_append_right _ (List.mem_flatMap.mpr ⟨a', ha', he'⟩), h⟩

lemma Condition.Alike.maySearch {items : List WorkItem} {p : Text} (h : c.Alike d)
    (hp : c.MaySearch items p) : d.MaySearch items p := by
  cases h with
  | mk comparison hleft hright =>
    obtain ⟨hpattern, hsupplies⟩ := hp
    refine ⟨hpattern, ?_⟩
    cases hright with
    | literal text => exact hsupplies
    | field hr =>
      cases hsupplies with
      | field hitem hread => exact .field hitem (hr.name_eq ▸ hread)

/-- No pattern that conditions can search with on these items is refused. -/
def Unrefused (items : List WorkItem) (conditions : List Condition) : Prop :=
  ∀ c ∈ conditions, ∀ p, c.MaySearch items p → refusal? p = none

namespace Unrefused

variable {items : List WorkItem}

lemma of_alike (h : Unrefused items cs) (halike : ∀ d ∈ ds, ∃ c ∈ cs, d.Alike c) :
    Unrefused items ds := by
  intro d hd p hp
  obtain ⟨c, hc, hdc⟩ := halike d hd
  exact h c hc p (hdc.maySearch hp)

lemma of_mem_actions (h : Unrefused items rule.conditions) (ha : a ∈ rule.actions) :
    Unrefused items a.conditions := by
  intro c hc
  rw [Rule.conditions] at h
  exact h c (List.mem_append_right _ (List.mem_flatMap.mpr ⟨a, ha, hc⟩))

end Unrefused

section

variable {trigger : WorkItem}

lemma EndsAt.exists_result {α : Type} {patterns : List Text} {x : Eval α}
    (h : EndsAt patterns x) (hpatterns : ∀ p ∈ patterns, refusal? p = none) :
    ∃ a, x.result = .ok a :=
  h.ok (List.findSome?_eq_none_iff.mpr hpatterns)

lemma exists_rule_holdsIn (h : Unrefused ctx.items rule.conditions) (himplicit : ctx.HasImplicit) :
    ∃ holds, (rule.holdsIn ctx).result = .ok holds := by
  refine (endsAt_rule_holdsIn ctx rule).exists_result fun p hp => ?_
  obtain ⟨c, hc, hsearch⟩ := maySearch_of_mem_rule himplicit (List.mem_append_left _ hp)
  exact h c hc p hsearch

lemma exists_rule_execute (h : Unrefused ctx.items rule.conditions) (himplicit : ctx.HasImplicit)
    (htrigger : ctx.triggering = some trigger) :
    ∃ operations, (rule.execute ctx).result = .ok operations := by
  refine (endsAt_executeAll htrigger rule.actions).exists_result fun p hp => ?_
  obtain ⟨c, hc, hsearch⟩ := maySearch_of_mem_rule himplicit (List.mem_append_right _ hp)
  exact h c hc p hsearch

lemma exists_action_targets (h : Unrefused ctx.items a.conditions) (himplicit : ctx.HasImplicit) :
    ∃ targets, (a.target.targetsIn ctx).result = .ok targets := by
  have hends : EndsAt (a.target.targetsSearchedIn ctx) (a.target.targetsIn ctx) :=
    (searching_targetsIn ctx a.target).endsAt not_false
  refine hends.exists_result fun p hp => ?_
  obtain ⟨c, hc, hsearch⟩ := maySearch_of_mem_targets himplicit hp
  exact h c (List.mem_append_right _ hc) p hsearch

lemma exists_runRules (h : ∀ rule ∈ rules, Unrefused ctx.items rule.conditions)
    (himplicit : ctx.HasImplicit) (htrigger : ctx.triggering = some trigger) :
    ∃ result, (runRules ctx rules).result = .ok result := by
  refine (endsAt_runRules htrigger rules).exists_result fun p hp => ?_
  obtain ⟨rule, hrule, hp⟩ := exists_rule_of_mem_runSearched hp
  obtain ⟨c, hc, hsearch⟩ := maySearch_of_mem_rule himplicit hp
  exact h rule hrule c hc p hsearch

end

/-! ## The main result -/

/-- Two evaluations give the same. -/
def GiveSame {α : Type} (x y : Eval α) : Prop := ∃ a, x.result = .ok a ∧ y.result = .ok a

lemma Agree.giveSame {α : Type} {x y : Eval α} (h : Agree x y) (hx : ∃ a, x.result = .ok a)
    (hy : ∃ a, y.result = .ok a) : GiveSame x y := by
  obtain ⟨a, ha⟩ := hx
  obtain ⟨b, hb⟩ := hy
  have hsame := h (by simp [IsRefused, ha]) (by simp [IsRefused, hb])
  exact ⟨a, ha, hsame ▸ ha⟩

/-- What is evaluated of a rule is in relation to what is evaluated of another: the guards, the
operations, and the targets of the actions. -/
structure Evaluated (R : {α : Type} → Eval α → Eval α → Prop) (ctx : Context) (rule rule' : Rule) :
    Prop where
  guards : R (rule.holdsIn ctx) (rule'.holdsIn ctx)
  operations : R (rule.execute ctx) (rule'.execute ctx)
  targets : List.Forall₂ (fun a a' => R (a.target.targetsIn ctx) (a'.target.targetsIn ctx))
    rule.actions rule'.actions

lemma evaluated_agree (h : rule.Alike rule') (ctx : Context) : Evaluated Agree ctx rule rule' where
  guards := agree_rule_holdsIn h ctx
  operations := agree_executeAll h.actions ctx
  targets := h.actions.imp fun _ _ ha => agree_targetsIn ha.target ctx

lemma evaluated_giveSame (h : rule.Alike rule') {trigger : WorkItem}
    (htrigger : ctx.triggering = some trigger) (himplicit : ctx.HasImplicit)
    (hrule : Unrefused ctx.items rule.conditions) : Evaluated GiveSame ctx rule rule' := by
  have hrule' : Unrefused ctx.items rule'.conditions := hrule.of_alike h.symm.exists_inner
  have hactions : List.Forall₂ (fun a a' => Unrefused ctx.items a.conditions ∧ a.Alike a')
      rule.actions rule'.actions :=
    (List.forall₂_and_left _ _).mpr ⟨fun _ ha => hrule.of_mem_actions ha, h.actions⟩
  exact {
    guards := (agree_rule_holdsIn h ctx).giveSame (exists_rule_holdsIn hrule himplicit)
      (exists_rule_holdsIn hrule' himplicit)
    operations := (agree_executeAll h.actions ctx).giveSame
      (exists_rule_execute hrule himplicit htrigger) (exists_rule_execute hrule' himplicit htrigger)
    targets := hactions.imp fun a a' ⟨ha, halike⟩ => (agree_targetsIn halike.target ctx).giveSame
      (exists_action_targets ha himplicit)
      (exists_action_targets (ha.of_alike halike.symm.exists_inner) himplicit) }

/-- **The order of conjuncts is irrelevant.**  Whatever rules differ in the order of the conjuncts
of their guards and selectors, at any depth, and in how often a conjunct is repeated: running them,
trying the guards of each, executing each and finding the targets of its actions have the same
results, unless a pattern is refused.  Where no pattern is refused that the rules can search with on
the items at hand, there are results. -/
theorem conjuncts_in_any_order (h : List.Forall₂ Rule.Alike rules rules') :
    (∀ ctx, Agree (runRules ctx rules) (runRules ctx rules') ∧
      List.Forall₂ (Evaluated Agree ctx) rules rules') ∧
    ∀ (trigger : WorkItem) (parent : Option WorkItem) (children : List WorkItem),
      let ctx := Context.ofTrigger (some trigger) parent children
      (∀ rule ∈ rules, Unrefused ctx.items rule.conditions) →
        GiveSame (runRules ctx rules) (runRules ctx rules') ∧
        List.Forall₂ (Evaluated GiveSame ctx) rules rules' := by
  refine ⟨fun ctx => ⟨agree_runRules h ctx, h.imp fun _ _ hrule => evaluated_agree hrule ctx⟩, ?_⟩
  intro trigger parent children ctx hrules
  have htrigger : ctx.triggering = some trigger := rfl
  have himplicit : ctx.HasImplicit := Context.hasImplicit_ofTrigger _ _ _
  have hboth : List.Forall₂ (fun rule rule' => Unrefused ctx.items rule.conditions ∧
      rule.Alike rule') rules rules' := (List.forall₂_and_left _ _).mpr ⟨hrules, h⟩
  have hrules' : ∀ rule' ∈ rules', Unrefused ctx.items rule'.conditions := by
    intro rule' hrule'
    obtain ⟨rule, -, hrule, halike⟩ := exists_left_of_mem hboth hrule'
    exact hrule.of_alike halike.symm.exists_inner
  refine ⟨?_, hboth.imp fun _ _ ⟨hrule, halike⟩ =>
    evaluated_giveSame halike htrigger himplicit hrule⟩
  exact (agree_runRules h ctx).giveSame (exists_runRules hrules himplicit htrigger)
    (exists_runRules hrules' himplicit htrigger)

/-- Two guards change places and one of them is repeated, and so are the conditions of a selector in
one of them and in the target: either way the run sets the state of the second child. -/
theorem run_of_rearranged_rule :
    let new : Condition := .mk (.field (.mk .implicit "State" none)) .equal (.literal "New")
    let dev : Condition := .mk (.field (.mk .implicit "Title" none)) .matching (.literal "^Dev")
    let childWith (conditions : List Condition) : Condition :=
      .mk (.field (.mk .child "State" (some conditions))) .equal (.literal "New")
    let done : Condition := .mk (.field (.mk .me "State" none)) .equal (.literal "Done")
    let rule (guards selector : List Condition) : Rule := ⟨"r", guards,
      [⟨.set, .mk .children "State" (some selector), .field (.mk .me "State" none), {}⟩]⟩
    let rules := [rule [childWith [new, dev], done] [new, dev]]
    let rules' := [rule [done, childWith [dev, new, dev], done] [dev, new]]
    let child (id : Int) (url title : String) : WorkItem :=
      ⟨id, url, [("System.State", .str "New"), ("System.Title", .str title)], []⟩
    let trigger : WorkItem := ⟨7, "u7", [("System.State", .str "Done")], []⟩
    let children := [child 1 "c1" "Test", child 2 "c2" "Dev"]
    let ctx := Context.ofTrigger (some trigger) none children
    let result : RunResult := ⟨some "r", [⟨"c2", {}, "/fields/System.State", "Done"⟩]⟩
    (List.Forall₂ Rule.Alike rules rules' ∧
      ∀ rule ∈ rules, Unrefused ctx.items rule.conditions) ∧
      (runRules ctx rules).result = .ok result ∧ (runRules ctx rules').result = .ok result := by
  intro new dev childWith done rule rules rules' child trigger children ctx result
  have hselector : ConjunctionsAlike [new, dev] [dev, new] := .of_mem_iff (by simp [or_comm])
  have hrepeated : EachAlike [new, dev] [dev, new, dev] ∧ EachAlike [dev, new, dev] [new, dev] :=
    ⟨.of_subset _ (by simp), .of_subset _ (by simp)⟩
  have hchild : (childWith [new, dev]).Alike (childWith [dev, new, dev]) :=
    .mk _ (.field (.selective _ _ hrepeated.1 hrepeated.2)) (.literal _)
  have hguards : ConjunctionsAlike [childWith [new, dev], done]
      [done, childWith [dev, new, dev], done] := by
    refine ⟨.cons ?_ hchild (.cons ?_ (.refl done) (.nil _)),
      .cons ?_ (.refl done) (.cons ?_ hchild.symm (.cons ?_ (.refl done) (.nil _)))⟩
    all_goals simp
  have halike : List.Forall₂ Rule.Alike rules rules' :=
    .cons ⟨rfl, hguards, .cons ⟨rfl, rfl, .selective _ _ hselector.there hselector.back, .refl _⟩
      .nil⟩ .nil
  have hunrefused : ∀ rule ∈ rules, Unrefused ctx.items rule.conditions := by
    have hdev : ∀ rule ∈ rules, ∀ c ∈ rule.conditions, c.comparison.takesPattern = true →
        c.right = .literal "^Dev" := by decide +kernel
    intro rule hrule c hc p ⟨hpattern, hsupplies⟩
    rw [hdev rule hrule c hc hpattern] at hsupplies
    cases hsupplies with
    | literal => decide +kernel
  obtain ⟨-, hgive⟩ := conjuncts_in_any_order halike
  obtain ⟨⟨found, hfound, hfound'⟩, -⟩ := hgive trigger none children hunrefused
  have hresult : (runRules ctx rules).result = .ok result := by decide +kernel
  obtain rfl : found = result := Except.ok.inj (hfound.symm.trans hresult)
  exact ⟨⟨halike, hunrefused⟩, hfound, hfound'⟩

/-- With a pattern that is refused the order decides whether there is a result. -/
example :
    let no : Condition := .mk (.literal "a") .equal (.literal "b")
    let refused : Condition := .mk (.literal "a") .matching (.literal "a\x7b4294967295\x7d")
    let ctx := Context.ofTrigger none none []
    (allHold ctx [no, refused]).result = .ok false ∧
      (allHold ctx [refused, no]).result = .error (.refusedPattern .repetitionTooLarge) := by
  decide +kernel

end Cascade
