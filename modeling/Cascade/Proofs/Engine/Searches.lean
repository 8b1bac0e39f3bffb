import Cascade.Proofs.Engine.Steps

/-!
# The patterns of an evaluation

`Condition.searchedIn` and its companions list the patterns with which an evaluation searches, in
order.  They follow the evaluator in what it leaves out: the conditions behind a false one, the
children behind the one that is found, the value of an action without targets, the rules behind one
that matches.

`Searching` relates an evaluation to these patterns.  It has a case for each kind of step that an
evaluator takes, so that each evaluator inherits it from those it calls: by induction on the nesting
of selectors for conditions (`searching_allHold`), and from there for actions (`searching_execute`)
and runs (`searching_runRules`).  What follows from the patterns of an evaluation is then proved by
induction on these few steps, and holds of all evaluators.

An evaluation ends as its patterns do (`Searching.endsAt`): there is a result unless one of them is
refused, and of several refusals the first is the error.  For actions and runs that needs the
triggering item; asking for an item that is not there is the only other way to stop.
-/

namespace Cascade

/-! ## Patterns that stop an evaluation -/

/-- Why a pattern is refused, if it is; a malformed one is not. -/
def refusal? (pattern : Text) : Option Pattern.Refusal :=
  match Pattern.Node.read pattern with
  | .error (.refused refusal) => some refusal
  | _ => none

/-- An evaluation has a result if none of the patterns is refused, and ends with the first refusal
otherwise. -/
structure EndsAt {α : Type} (patterns : List Text) (x : Eval α) : Prop where
  ok : patterns.findSome? refusal? = none → ∃ a, x.result = .ok a
  error : ∀ refusal, patterns.findSome? refusal? = some refusal →
    x.result = .error (.refusedPattern refusal)

namespace EndsAt

variable {α β : Type} {patterns more : List Text}

lemma of_ok {x : Eval α} {a : α} (h : x.result = .ok a) : EndsAt [] x := ⟨fun _ => ⟨a, h⟩, nofun⟩

/-- What comes after a step searches with the patterns behind those of the step. -/
lemma bind {x : Eval α} {f : α → Eval β} (hx : EndsAt patterns x)
    (hf : ∀ a, x.result = .ok a → EndsAt more (f a)) : EndsAt (patterns ++ more) (x >>= f) := by
  cases hfirst : patterns.findSome? refusal? with
  | some refusal =>
    rw [Logged.bind_of_error (hx.error refusal hfirst)]
    refine ⟨fun h => ?_, fun refusal' h => ?_⟩
    · simp [hfirst] at h
    · obtain rfl : refusal = refusal' := by simpa [hfirst] using h
      rfl
  | none =>
    obtain ⟨a, ha⟩ := hx.ok hfirst
    rw [Logged.bind_of_ok ha]
    refine ⟨fun h => (hf a ha).ok ?_, fun refusal h => (hf a ha).error refusal ?_⟩
    all_goals simpa [List.findSome?_append, hfirst] using h

end EndsAt

/-! ## Steps and their patterns -/

/-- An evaluation is made of steps of these kinds, and searches with these patterns in order.  It
asks for an item that is not there only if `lacking` is the case. -/
inductive Searching (lacking : Prop) : {α : Type} → List Text → Eval α → Prop
  | pure {α : Type} (a : α) : Searching lacking [] (Pure.pure a)
  | search (pattern subject : Text) : Searching lacking [pattern] (searchPattern pattern subject)
  | removal (field : String) : Searching lacking [] (Logged.note (.removalOutsideTags field))
  | absent {α : Type} (part : ItemPart) (h : lacking) :
    Searching lacking [] (Logged.fail (.absentItem part) : Eval α)
  | bind {α β : Type} {patterns more : List Text} {x : Eval α} {f : α → Eval β}
    (hx : Searching lacking patterns x)
    (hf : ∀ a, x.result = .ok a → Searching lacking more (f a)) :
    Searching lacking (patterns ++ more) (x >>= f)

/-- A step that is followed by no search. -/
lemma Searching.bind_silent {lacking : Prop} {α β : Type} {patterns : List Text} {x : Eval α}
    {f : α → Eval β} (hx : Searching lacking patterns x)
    (hf : ∀ a, x.result = .ok a → Searching lacking [] (f a)) :
    Searching lacking patterns (x >>= f) := by
  have h := hx.bind hf
  rwa [List.append_nil] at h

/-! ## The patterns of an evaluation

A step that ends with an error has a refused pattern among its own, so it makes no difference what
is listed behind them. -/

/-- The pattern with which a comparison of two operands searches; both have to have a value. -/
def Comparison.searched (c : Comparison) : Option Value → Option Value → List Text
  | some _, some pattern => if c.takesPattern then [pattern.text] else []
  | _, _ => []

/-- The patterns of a search for the first element that passes a test, given those of the test. -/
def firstSearched {α : Type} (test : α → Eval Bool) (searched : α → List Text) :
    List α → List Text
  | [] => []
  | a :: rest =>
    searched a ++ if (test a).result = .ok true then [] else firstSearched test searched rest

mutual

/-- The patterns with which the evaluation of a condition searches. -/
def Condition.searchedIn (ctx : Context) : Condition → List Text
  | .mk left comparison right =>
    left.searchedIn ctx ++ (right.searchedIn ctx ++
      comparison.searched (left.valueIn ctx).result.toOption.join
        (right.valueIn ctx).result.toOption.join)

/-- The patterns with which the evaluation of an operand searches. -/
def Operand.searchedIn (ctx : Context) : Operand → List Text
  | .literal _ => []
  | .field r => r.searchedIn ctx

/-- The patterns of the search for the item of a reference. -/
def Reference.searchedIn (ctx : Context) : Reference → List Text
  | .mk .child _ (some conditions) =>
    firstSearched (fun child => allHold (ctx.withImplicit (some child)) conditions)
      (fun child => allSearched (ctx.withImplicit (some child)) conditions) ctx.children
  | .mk .children _ (some conditions) =>
    firstSearched (fun child => allHold (ctx.withImplicit (some child)) conditions)
      (fun child => allSearched (ctx.withImplicit (some child)) conditions) ctx.children
  | .mk _ _ _ => []

/-- The patterns of conditions, which are tried until one is false. -/
def allSearched (ctx : Context) : List Condition → List Text
  | [] => []
  | c :: rest =>
    c.searchedIn ctx ++ if (c.holdsIn ctx).result = .ok true then allSearched ctx rest else []

end

/-- The patterns of the search for the targets of a reference. -/
def Reference.targetsSearchedIn (ctx : Context) : Reference → List Text
  | .mk .child name selector => (Reference.mk .child name selector).searchedIn ctx
  | .mk .children _ (some conditions) =>
    ctx.children.flatMap fun child => allSearched (ctx.withImplicit (some child)) conditions
  | .mk _ _ _ => []

/-- The patterns with which an action searches: those of its targets, and if there are some those of
its value. -/
def Action.searchedIn (ctx : Context) (a : Action) : List Text :=
  a.target.targetsSearchedIn ctx ++
    match (a.target.targetsIn ctx).result with
    | .ok [] => []
    | _ => a.value.searchedIn (ctx.withImplicit ctx.triggering)

/-- The patterns of the guards of a rule. -/
def Rule.guardsSearchedIn (ctx : Context) (rule : Rule) : List Text :=
  allSearched ctx rule.guards

/-- The patterns of the actions of a rule. -/
def Rule.actionsSearchedIn (ctx : Context) (rule : Rule) : List Text :=
  rule.actions.flatMap (·.searchedIn ctx)

/-- The patterns of a run: those of guards, and behind the guards that hold those of the actions. -/
def runSearched (ctx : Context) : List Rule → List Text
  | [] => []
  | rule :: rest =>
    rule.guardsSearchedIn ctx ++
      if (rule.holdsIn ctx).result = .ok true then rule.actionsSearchedIn ctx
      else runSearched ctx rest

variable {ctx : Context} {lacking : Prop}

/-! ## Conditions search with their patterns -/

lemma searching_between (c : Comparison) (left right : Option Value) :
    Searching lacking (c.searched left right) (c.between left right) := by
  cases left with
  | none => exact .pure false
  | some left =>
    cases right with
    | none => exact .pure false
    | some right =>
      cases c with
      | matching | notMatching => exact (Searching.search _ _).bind_silent fun found _ => .pure _
      | contains | startsWith | endsWith | equal | notEqual => exact .pure _

lemma searching_findFirst {α : Type} {test : α → Eval Bool} {searched : α → List Text}
    (h : ∀ a, Searching lacking (searched a) (test a)) (candidates : List α) :
    Searching lacking (firstSearched test searched candidates) (findFirst test candidates) := by
  induction candidates with
  | nil => exact .pure none
  | cons a rest ih =>
    refine (h a).bind fun passes hpasses => ?_
    cases passes with
    | true =>
      rw [if_pos hpasses]
      exact .pure (some a)
    | false =>
      rw [if_neg (by simp [hpasses])]
      exact ih

lemma searching_findAll {α : Type} {test : α → Eval Bool} {searched : α → List Text}
    (h : ∀ a, Searching lacking (searched a) (test a)) (candidates : List α) :
    Searching lacking (candidates.flatMap searched) (findAll test candidates) := by
  induction candidates with
  | nil => exact .pure []
  | cons a rest ih =>
    rw [List.flatMap_cons]
    exact (h a).bind fun passes _ => ih.bind_silent fun more _ => .pure _

mutual

/-- Evaluating a condition searches with its patterns. -/
theorem searching_holdsIn : (ctx : Context) → (c : Condition) →
    Searching lacking (c.searchedIn ctx) (c.holdsIn ctx)
  | ctx, .mk left comparison right => by
    rw [Condition.searchedIn, holdsIn_mk]
    refine (searching_valueIn ctx left).bind fun l hl =>
      (searching_valueIn ctx right).bind fun r hr => ?_
    rw [hl, hr]
    exact searching_between comparison l r

/-- Evaluating an operand searches with its patterns. -/
theorem searching_valueIn : (ctx : Context) → (o : Operand) →
    Searching lacking (o.searchedIn ctx) (o.valueIn ctx)
  | _, .literal text => by
    rw [Operand.searchedIn, Operand.valueIn]
    exact .pure _
  | ctx, .field r => by
    rw [Operand.searchedIn, valueIn_field]
    exact (searching_itemIn ctx r).bind_silent fun item _ => .pure _

/-- The search for the item of a reference searches with its patterns. -/
theorem searching_itemIn : (ctx : Context) → (r : Reference) →
    Searching lacking (r.searchedIn ctx) (r.itemIn ctx)
  | ctx, .mk scope name none => by
    rw [itemIn_mk]
    cases scope <;> exact .pure _
  | ctx, .mk scope name (some conditions) => by
    have hfirst := searching_findFirst
      (fun child => searching_allHold (ctx.withImplicit (some child)) conditions) ctx.children
    rw [itemIn_mk]
    cases scope with
    | implicit | me | parent => exact .pure _
    | child | children =>
      rw [Reference.searchedIn]
      exact hfirst

/-- Trying conditions searches with their patterns. -/
theorem searching_allHold : (ctx : Context) → (cs : List Condition) →
    Searching lacking (allSearched ctx cs) (allHold ctx cs)
  | _, [] => by
    rw [allSearched, allHold]
    exact .pure true
  | ctx, c :: rest => by
    rw [allSearched, allHold]
    refine (searching_holdsIn ctx c).bind fun holds hholds => ?_
    cases holds with
    | true =>
      rw [if_pos hholds]
      exact searching_allHold ctx rest
    | false =>
      rw [if_neg (by simp [hholds])]
      exact .pure false

end

lemma searching_matchingChild (ctx : Context) (name : String)
    (selector : Option (List Condition)) :
    Searching lacking ((Reference.mk .child name selector).searchedIn ctx)
      (matchingChild ctx selector) := by
  have h : Searching lacking _ _ := searching_itemIn ctx (.mk .child name selector)
  rwa [itemIn_mk] at h

/-- The search for the targets of a reference searches with its patterns. -/
lemma searching_targetsIn (ctx : Context) (r : Reference) :
    Searching lacking (r.targetsSearchedIn ctx) (r.targetsIn ctx) := by
  obtain ⟨scope, name, selector⟩ := r
  rw [targetsIn_mk]
  cases scope with
  | implicit | me | parent => exact .pure _
  | child => exact (searching_matchingChild ctx name selector).bind_silent fun item _ => .pure _
  | children =>
    refine Searching.bind_silent ?_ fun items _ => .pure _
    cases selector with
    | none => exact .pure _
    | some conditions =>
      exact searching_findAll
        (fun child => searching_allHold (ctx.withImplicit (some child)) conditions) ctx.children

/-! ## Actions and rules search with their patterns

They are the ones that ask for an item, which is lacking only where the triggering item is. -/

lemma searching_presentItem {part : ItemPart} {target : Option WorkItem}
    (h : target = none → lacking) : Searching lacking [] (presentItem part target) := by
  cases target with
  | none => exact .absent part (h rfl)
  | some item => exact .pure item

lemma searching_onTargets (part : ItemPart) (operation : WorkItem → Option UpdateOperation)
    {targets : List (Option WorkItem)} (h : none ∈ targets → lacking) :
    Searching lacking [] (onTargets part operation targets) := by
  induction targets with
  | nil => exact .pure []
  | cons target rest ih =>
    exact (searching_presentItem fun htarget => h (by simp [htarget])).bind fun _ _ =>
      (ih fun hrest => h (List.mem_cons_of_mem target hrest)).bind_silent fun _ _ => .pure _

lemma searching_apply (a : Action) {targets : List (Option WorkItem)} (h : none ∈ targets → lacking)
    (value : Text) : Searching lacking [] (a.apply targets value) := by
  unfold Action.apply
  split
  · exact searching_onTargets _ _ h
  · split <;> exact searching_onTargets _ _ h
  · split
    · exact searching_onTargets _ _ h
    · exact (Searching.removal _).bind fun _ _ => .pure _

/-- Executing an action searches with its patterns. -/
lemma searching_execute (ctx : Context) (a : Action) :
    Searching (ctx.triggering = none) (a.searchedIn ctx) (a.execute ctx) := by
  refine (searching_targetsIn ctx a.target).bind fun targets htargets => ?_
  rw [htargets]
  cases targets with
  | nil => exact .pure []
  | cons target rest =>
    refine (searching_valueIn _ a.value).bind_silent fun value _ => ?_
    cases value with
    | none => exact .pure []
    | some value =>
      exact searching_apply a (triggering_eq_none_of_mem_targetsIn htargets) value.text

lemma searching_executeAll (ctx : Context) (actions : List Action) :
    Searching (ctx.triggering = none) (actions.flatMap (·.searchedIn ctx))
      (executeAll ctx actions) := by
  induction actions with
  | nil => exact .pure []
  | cons a rest ih =>
    rw [List.flatMap_cons]
    exact (searching_execute ctx a).bind fun _ _ => ih.bind_silent fun _ _ => .pure _

lemma searching_triggerId (ctx : Context) :
    Searching (ctx.triggering = none) [] (discard (triggerId ctx)) := by
  have hid : Searching (ctx.triggering = none) [] (triggerId ctx) :=
    (searching_presentItem id).bind_silent fun _ _ => .pure _
  exact hid.bind_silent fun _ _ => .pure _

/-- Trying the guards of a rule searches with their patterns. -/
lemma searching_rule_holdsIn (ctx : Context) (rule : Rule) :
    Searching lacking (rule.guardsSearchedIn ctx) (rule.holdsIn ctx) :=
  searching_allHold ctx rule.guards

/-- A run searches with its patterns. -/
lemma searching_runRules (ctx : Context) (rules : List Rule) :
    Searching (ctx.triggering = none) (runSearched ctx rules) (runRules ctx rules) := by
  induction rules with
  | nil => exact (searching_triggerId ctx).bind fun _ _ => .pure _
  | cons rule rest ih =>
    refine (searching_rule_holdsIn ctx rule).bind fun holds hholds => ?_
    cases holds with
    | true =>
      rw [if_pos hholds]
      exact (searching_triggerId ctx).bind fun _ _ =>
        (searching_executeAll ctx rule.actions).bind_silent fun _ _ => .pure _
    | false =>
      rw [if_neg (by simp [hholds])]
      exact ih

/-! ## Evaluations end as their patterns do -/

lemma endsAt_searchPattern (pattern subject : Text) :
    EndsAt [pattern] (searchPattern pattern subject) := by
  cases hread : Pattern.Node.read pattern with
  | ok node => exact ⟨fun _ => ⟨_, by rw [searchPattern, hread]; rfl⟩, by simp [refusal?, hread]⟩
  | error fault =>
    cases fault with
    | malformed reason position =>
      exact ⟨fun _ => ⟨none, by rw [searchPattern, hread]; rfl⟩, by simp [refusal?, hread]⟩
    | refused refusal => exact ⟨by simp [refusal?, hread], by simp [refusal?, hread, searchPattern]⟩

/-- An evaluation that lacks no item ends as its patterns do. -/
lemma Searching.endsAt {α : Type} {patterns : List Text} {x : Eval α} (hlacking : ¬ lacking)
    (h : Searching lacking patterns x) : EndsAt patterns x := by
  induction h with
  | pure a => exact .of_ok rfl
  | search pattern subject => exact endsAt_searchPattern pattern subject
  | removal field => exact .of_ok rfl
  | absent part h => exact absurd h hlacking
  | bind _ _ hx hf => exact hx.bind hf

lemma endsAt_rule_holdsIn (ctx : Context) (rule : Rule) :
    EndsAt (rule.guardsSearchedIn ctx) (rule.holdsIn ctx) :=
  (searching_rule_holdsIn ctx rule).endsAt not_false

variable {trigger : WorkItem}

lemma endsAt_executeAll (htrigger : ctx.triggering = some trigger) (actions : List Action) :
    EndsAt (actions.flatMap (·.searchedIn ctx)) (executeAll ctx actions) :=
  (searching_executeAll ctx actions).endsAt (by simp [htrigger])

/-- A run ends as its patterns do. -/
lemma endsAt_runRules (htrigger : ctx.triggering = some trigger) (rules : List Rule) :
    EndsAt (runSearched ctx rules) (runRules ctx rules) :=
  (searching_runRules ctx rules).endsAt (by simp [htrigger])

end Cascade
