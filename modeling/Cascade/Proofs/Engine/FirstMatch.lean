import Mathlib.Tactic.Lemma
import Cascade.Engine.Run

/-!
# The first rule that holds decides a run

A run goes over a list of rules; at each rule it tries the guards and, if they hold, executes the
actions, as `Rule.holdsIn` and `Rule.execute` do for that rule by itself (`runRules_cons`).  This
file says what comes of the whole walk.

A rule that does not hold can be passed over (`result_runRules_cons_of_not_holds`), hence a whole
stretch of them can (`result_runRules_append`); a rule that holds ends the walk with its own
operations, or its own error, whatever comes behind it (`result_runRules_cons_of_holds`).  The main
result `runRules_first_match` puts the three together for every list of rules and every hierarchy
with a triggering item, and concludes that rules inserted around the match change nothing.
-/

namespace Cascade

variable {ctx : Context} {rule : Rule}

/-! ## One rule at the head of a list -/

/-- With a triggering item there is always an identifier to report a run by. -/
lemma triggerId_of_some {item : WorkItem} (h : ctx.triggering = some item) :
    triggerId ctx = pure item.id := by
  simp [triggerId, h, presentItem]

/-- A rule that does not hold is passed over. -/
lemma result_runRules_cons_of_not_holds (h : (rule.holdsIn ctx).result = .ok false)
    (rest : List Rule) : (runRules ctx (rule :: rest)).result = (runRules ctx rest).result := by
  rw [runRules_cons, Logged.result_bind, h]
  simp [Except.bind]

/-- A rule that holds ends the walk: its operations, or its error, are the outcome. -/
lemma result_runRules_cons_of_holds {item : WorkItem} (ht : ctx.triggering = some item)
    (h : (rule.holdsIn ctx).result = .ok true) (rest : List Rule) :
    (runRules ctx (rule :: rest)).result =
      (rule.execute ctx).result.map fun operations => ⟨some rule.name, operations⟩ := by
  rw [runRules_cons, Logged.result_bind, h]
  simp only [Except.bind, if_true, triggerId_of_some ht, discard, Functor.discard]
  simp only [Logged.result_bind, Logged.result_pure]
  cases (rule.execute ctx).result <;> rfl

/-! ## Stretches of rules that do not hold -/

/-- Rules in front that do not hold are passed over together. -/
lemma result_runRules_append {before : List Rule}
    (h : ∀ r ∈ before, (r.holdsIn ctx).result = .ok false) (after : List Rule) :
    (runRules ctx (before ++ after)).result = (runRules ctx after).result := by
  induction before with
  | nil => rfl
  | cons r rest ih =>
    rw [List.cons_append, result_runRules_cons_of_not_holds (h r (by simp))]
    exact ih fun s hs => h s (List.mem_cons_of_mem r hs)

/-- If no rule holds, none is executed. -/
lemma result_runRules_of_none {item : WorkItem} (ht : ctx.triggering = some item)
    {rules : List Rule} (h : ∀ r ∈ rules, (r.holdsIn ctx).result = .ok false) :
    (runRules ctx rules).result = .ok { ruleName := none, operations := [] } := by
  have hnil := result_runRules_append h []
  rw [List.append_nil] at hnil
  rw [hnil, runRules, triggerId_of_some ht]
  rfl

/-! ## The run of a list -/

/-- A run with a result has a triggering item; and either no rule holds, or it is that of the first
one that does. -/
lemma runRules_eq_ok {rules : List Rule} {result : RunResult}
    (h : (runRules ctx rules).result = .ok result) :
    ∃ item, ctx.triggering = some item ∧
      ((∀ r ∈ rules, (r.holdsIn ctx).result = .ok false) ∧ result = {} ∨
        ∃ before rule after operations, rules = before ++ rule :: after ∧
          (∀ r ∈ before, (r.holdsIn ctx).result = .ok false) ∧
          (rule.holdsIn ctx).result = .ok true ∧ (rule.execute ctx).result = .ok operations ∧
          result = ⟨some rule.name, operations⟩) := by
  have hpresent {α : Type} {next : Eval α} {a : α}
      (h : (discard (triggerId ctx) >>= fun _ => next).result = .ok a) :
      (∃ item, ctx.triggering = some item) ∧ next.result = .ok a := by
    cases ht : ctx.triggering with
    | none =>
      rw [triggerId, ht] at h
      cases h
    | some item =>
      rw [triggerId_of_some ht] at h
      exact ⟨⟨item, rfl⟩, h⟩
  induction rules with
  | nil =>
    obtain ⟨⟨item, hitem⟩, h⟩ := hpresent h
    exact ⟨item, hitem, .inl ⟨nofun, (Except.ok.inj h).symm⟩⟩
  | cons rule rest ih =>
    obtain ⟨holds, hholds, h⟩ := Logged.result_bind_eq_ok.mp h
    cases holds with
    | false =>
      obtain ⟨item, hitem, ⟨hnone, rfl⟩ | ⟨before, r, after, ops, rfl, hbefore, hmatch⟩⟩ := ih h
      · exact ⟨item, hitem, .inl ⟨List.forall_mem_cons.mpr ⟨hholds, hnone⟩, rfl⟩⟩
      · exact ⟨item, hitem, .inr ⟨rule :: before, r, after, ops, rfl,
          List.forall_mem_cons.mpr ⟨hholds, hbefore⟩, hmatch⟩⟩
    | true =>
      obtain ⟨⟨item, hitem⟩, h⟩ := hpresent h
      obtain ⟨ops, hops, h⟩ := Logged.result_bind_eq_ok.mp h
      exact ⟨item, hitem, .inr ⟨[], rule, rest, ops, rfl, nofun, hholds, hops,
        (Except.ok.inj h).symm⟩⟩

/-- **The first rule that holds decides a run.**  On a hierarchy with a triggering item:

* if no rule holds, the run names no rule and has no operations;
* if the rule at `i` holds and none before it does, the run names that rule and has exactly the
  operations of executing it, or the error, whatever rules stand behind it;
* inserting rules at any place `k`, where those put before the match do not hold, changes nothing;
  those put behind it are arbitrary, so that their evaluation may even fail. -/
theorem runRules_first_match (item : WorkItem) (parent : Option WorkItem)
    (children : List WorkItem) (rules : List Rule) :
    let ctx := Context.ofTrigger (some item) parent children
    ((∀ r ∈ rules, (r.holdsIn ctx).result = .ok false) →
      (runRules ctx rules).result = .ok { ruleName := none, operations := [] }) ∧
    ∀ (i : Nat) (rule : Rule), rules[i]? = some rule →
      (∀ r ∈ rules.take i, (r.holdsIn ctx).result = .ok false) →
      (rule.holdsIn ctx).result = .ok true →
      (runRules ctx rules).result =
          (rule.execute ctx).result.map (fun operations => ⟨some rule.name, operations⟩) ∧
      ∀ (k : Nat) (inserted : List Rule),
        (k ≤ i → ∀ r ∈ inserted, (r.holdsIn ctx).result = .ok false) →
        (runRules ctx (rules.take k ++ inserted ++ rules.drop k)).result =
          (runRules ctx rules).result := by
  intro ctx
  have ht : ctx.triggering = some item := rfl
  refine ⟨result_runRules_of_none ht, fun i rule hi hbefore hrule => ?_⟩
  obtain ⟨before, after, rfl, rfl⟩ : ∃ before after, rules = before ++ rule :: after ∧
      before.length = i := by
    obtain ⟨hlt, rfl⟩ := List.getElem?_eq_some_iff.mp hi
    refine ⟨rules.take i, rules.drop (i + 1), ?_, List.length_take_of_le (Nat.le_of_lt hlt)⟩
    rw [List.getElem_cons_drop, List.take_append_drop]
  rw [List.take_left] at hbefore
  -- Whatever stands in front without holding and whatever stands behind, the outcome is this one.
  have houtcome : ∀ front back : List Rule, (∀ r ∈ front, (r.holdsIn ctx).result = .ok false) →
      (runRules ctx (front ++ rule :: back)).result =
        (rule.execute ctx).result.map fun operations => ⟨some rule.name, operations⟩ := by
    intro front back hfront
    rw [result_runRules_append hfront, result_runRules_cons_of_holds ht hrule]
  refine ⟨houtcome before after hbefore, fun k inserted hinserted => ?_⟩
  rw [houtcome before after hbefore]
  rcases Nat.lt_or_ge before.length k with hk | hk
  · -- behind the match: what is kept in front of the insertion reaches past it
    obtain ⟨m, rfl⟩ : ∃ m, k = before.length + (m + 1) := ⟨k - before.length - 1, by omega⟩
    rw [List.take_length_add_append, List.take_succ_cons, List.append_assoc, List.append_assoc]
    exact houtcome before _ hbefore
  · -- before the match: what now stands in front of it are the old rules and the inserted ones
    rw [List.take_append_of_le_length hk, List.drop_append_of_le_length hk, ← List.append_assoc]
    refine houtcome _ after fun r hr => ?_
    simp only [List.mem_append] at hr
    rcases hr with (hr | hr) | hr
    · exact hbefore r (List.mem_of_mem_take hr)
    · exact hinserted hk r hr
    · exact hbefore r (List.mem_of_mem_drop hr)

/-- A rule on the title of the triggering item that activates the parent. -/
def activateOnTitle (name : String) (comparison : Comparison) (title : String) : Rule where
  name := name
  guards := [.mk (.field (.mk .me "Title" none)) comparison (.literal title)]
  actions := [⟨.set, .mk .parent "State" none, .literal "Active", {}⟩]

/-- The second of three rules is the first to hold.  The third, whose pattern is refused, could not
even be evaluated, and one that does not hold is put in front. -/
theorem runRules_first_match_second :
    let item : WorkItem := ⟨7, "u7", [("System.Title", .str "Dev Task")], []⟩
    let parent : WorkItem := ⟨3, "u3", [], []⟩
    let ctx := Context.ofTrigger (some item) (some parent) []
    let no := activateOnTitle "no" .equal "Dev"
    let yes := activateOnTitle "yes" .startsWith "Dev"
    let refused := activateOnTitle "refused" .matching "a{4294967296}"
    (refused.holdsIn ctx).result = .error (.refusedPattern .repetitionTooLarge) ∧
    (runRules ctx [no, yes, refused]).result =
      (yes.execute ctx).result.map (fun operations => ⟨some "yes", operations⟩) ∧
    (runRules ctx [no, no, yes, refused]).result = (runRules ctx [no, yes, refused]).result := by
  intro item parent ctx no yes refused
  have hno : (no.holdsIn ctx).result = .ok false := by decide +kernel
  have hyes : (yes.holdsIn ctx).result = .ok true := by decide +kernel
  obtain ⟨hrun, hinsert⟩ := (runRules_first_match item (some parent) [] [no, yes, refused]).2
    1 yes rfl (by simpa using hno) hyes
  exact ⟨by decide +kernel, hrun, hinsert 1 [no] fun _ => by simpa using hno⟩

end Cascade
