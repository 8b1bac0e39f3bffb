import Cascade.Proofs.Engine.Steps

/-!
# The children that a selector singles out

A condition reads from one child and an action writes to several.  The two go through the children
in different ways: `findFirst` stops at the first child that passes, `findAll` tries every child and
ends with an error as soon as one cannot be tried.  This file says that they agree.

Conditions all hold exactly if each of them does (`allHold_eq_true_iff`), so a child passes if it
meets every condition of the selector as the item at hand.  A search for all children has a result
exactly if every child can be tried, and then it is the children that meet the conditions, in order
(`matchingChildren_eq_ok_iff`); the search for one child stops at the first of them
(`matchingChild_of_matchingChildren`).  The main result `item_is_first_target` concludes that what
is read through a reference belongs to the first item that is written to through it.
-/

namespace Cascade

variable {ctx : Context}

/-! ## What a selector asks for -/

/-- The conditions of the selector of a reference; there are none if there is no selector. -/
def Reference.conditions (r : Reference) : List Condition := r.selector.getD []

/-- A child meets a condition if the condition holds with the child as the item at hand. -/
def Condition.IsMetBy (ctx : Context) (child : WorkItem) (c : Condition) : Prop :=
  (c.holdsIn (ctx.withImplicit (some child))).result = .ok true

instance (ctx : Context) (child : WorkItem) (c : Condition) : Decidable (c.IsMetBy ctx child) :=
  inferInstanceAs (Decidable (_ = _))

/-- The children that meet all conditions, in order. -/
def Context.childrenMeeting (ctx : Context) (conditions : List Condition) : List WorkItem :=
  ctx.children.filter fun child => ∀ c ∈ conditions, c.IsMetBy ctx child

/-- Trying conditions on a child ends without error, whichever child it is. -/
def Context.CanTry (ctx : Context) (conditions : List Condition) : Prop :=
  ∀ child ∈ ctx.children,
    ∃ holds, (allHold (ctx.withImplicit (some child)) conditions).result = .ok holds

/-! ## Conditions -/

/-- Conditions that are tried until one is false all hold exactly if each of them does. -/
lemma allHold_eq_true_iff {cs : List Condition} :
    (allHold ctx cs).result = .ok true ↔ ∀ c ∈ cs, (c.holdsIn ctx).result = .ok true := by
  induction cs with
  | nil => simp [allHold]
  | cons c rest ih =>
    rw [List.forall_mem_cons, ← ih, allHold, Logged.result_bind_eq_ok]
    constructor
    · rintro ⟨holds, hholds, hrest⟩
      cases holds with
      | false => cases hrest
      | true => exact ⟨hholds, hrest⟩
    · rintro ⟨hholds, hrest⟩
      exact ⟨true, hholds, hrest⟩

/-! ## Searching -/

section

variable {α : Type} {test : α → Eval Bool} {candidates found : List α} {a : α}

/-- What is found first is among the candidates. -/
lemma mem_of_findFirst (h : (findFirst test candidates).result = .ok (some a)) :
    a ∈ candidates := by
  induction candidates with
  | nil => simp [findFirst] at h
  | cons b rest ih =>
    obtain ⟨passes, -, h⟩ := Logged.result_bind_eq_ok.mp h
    cases passes with
    | true =>
      obtain rfl : b = a := by simpa using h
      exact List.mem_cons_self
    | false => exact List.mem_cons_of_mem b (ih h)

/-- What is found first has passed the test. -/
lemma passes_of_findFirst (h : (findFirst test candidates).result = .ok (some a)) :
    (test a).result = .ok true := by
  induction candidates with
  | nil => simp [findFirst] at h
  | cons b rest ih =>
    obtain ⟨passes, hpasses, h⟩ := Logged.result_bind_eq_ok.mp h
    cases passes with
    | true =>
      obtain rfl : b = a := by simpa using h
      exact hpasses
    | false => exact ih h

/-- A search for all has a result if every candidate can be tested, and then it is those that pass,
in order. -/
lemma findAll_eq_ok_iff : (findAll test candidates).result = .ok found ↔
    (∀ a ∈ candidates, ∃ passes, (test a).result = .ok passes) ∧
      found = candidates.filter fun a => (test a).result = .ok true := by
  induction candidates generalizing found with
  | nil => simp [findAll, eq_comm]
  | cons a rest ih =>
    rw [List.forall_mem_cons, List.filter_cons, findAll]
    constructor
    · intro h
      obtain ⟨passes, hpasses, h⟩ := Logged.result_bind_eq_ok.mp h
      obtain ⟨more, hmore, h⟩ := Logged.result_bind_eq_ok.mp h
      obtain ⟨hrest, rfl⟩ := ih.mp hmore
      refine ⟨⟨⟨passes, hpasses⟩, hrest⟩, ?_⟩
      rw [← Except.ok.inj h, hpasses]
      cases passes <;> rfl
    · rintro ⟨⟨⟨passes, hpasses⟩, hrest⟩, rfl⟩
      refine Logged.result_bind_eq_ok.mpr ⟨passes, hpasses, ?_⟩
      refine Logged.result_bind_eq_ok.mpr ⟨_, ih.mpr ⟨hrest, rfl⟩, ?_⟩
      rw [hpasses]
      cases passes <;> rfl

/-- Of what a search for all finds, a search for one finds the first. -/
lemma findFirst_of_findAll (h : (findAll test candidates).result = .ok found) :
    (findFirst test candidates).result = .ok found.head? := by
  induction candidates generalizing found with
  | nil =>
    obtain rfl := Except.ok.inj h
    rfl
  | cons a rest ih =>
    obtain ⟨passes, hpasses, h⟩ := Logged.result_bind_eq_ok.mp h
    obtain ⟨more, hmore, h⟩ := Logged.result_bind_eq_ok.mp h
    obtain rfl := Except.ok.inj h
    refine Logged.result_bind_eq_ok.mpr ⟨passes, hpasses, ?_⟩
    cases passes with
    | true => rfl
    | false => exact ih hmore

end

/-! ## Selectors -/

/-- Without conditions every child can be tried, and meets them. -/
lemma canTry_nil : ctx.CanTry [] := fun _ _ => ⟨true, by rw [allHold]; rfl⟩

lemma childrenMeeting_nil : ctx.childrenMeeting [] = ctx.children := by
  simp [Context.childrenMeeting]

/-- The search for all children of a selector has a result exactly if every child can be tried, and
then it is the children that meet the conditions. -/
lemma matchingChildren_eq_ok_iff {selector : Option (List Condition)} {found : List WorkItem} :
    (matchingChildren ctx selector).result = .ok found ↔
      ctx.CanTry (selector.getD []) ∧ found = ctx.childrenMeeting (selector.getD []) := by
  cases selector with
  | none =>
    rw [Option.getD_none, childrenMeeting_nil, and_iff_right canTry_nil]
    exact ⟨fun h => (Except.ok.inj h).symm, fun h => congrArg Except.ok h.symm⟩
  | some conditions =>
    rw [Option.getD_some, matchingChildren, findAll_eq_ok_iff]
    simp only [allHold_eq_true_iff]
    rfl

/-- Of the children that a selector finds, the search for one child finds the first. -/
lemma matchingChild_of_matchingChildren {selector : Option (List Condition)}
    {found : List WorkItem} (h : (matchingChildren ctx selector).result = .ok found) :
    (matchingChild ctx selector).result = .ok found.head? := by
  cases selector with
  | none =>
    obtain rfl := Except.ok.inj h
    rfl
  | some conditions => exact findFirst_of_findAll h

/-! ## Reading and writing -/

variable {r : Reference} {targets : List (Option WorkItem)}

/-- What is read through a selector belongs to the first child that meets its conditions. -/
lemma itemIn_of_canTry (hscope : r.scope = .child ∨ r.scope = .children)
    (h : ctx.CanTry r.conditions) :
    (r.itemIn ctx).result = .ok (ctx.childrenMeeting r.conditions).head? := by
  have hchild := matchingChild_of_matchingChildren (matchingChildren_eq_ok_iff.mpr ⟨h, rfl⟩)
  obtain ⟨scope, name, selector⟩ := r
  rw [itemIn_mk]
  rcases hscope with rfl | rfl <;> exact hchild

/-- The item read is the first target, whether it is there or not. -/
lemma itemIn_of_targetsIn (hscope : r.scope ≠ .implicit)
    (h : (r.targetsIn ctx).result = .ok targets) :
    (r.itemIn ctx).result = .ok targets.head?.join := by
  obtain ⟨scope, name, selector⟩ := r
  rw [targetsIn_mk] at h
  rw [itemIn_mk]
  cases scope with
  | implicit => exact absurd rfl hscope
  | me =>
    obtain rfl := Except.ok.inj h
    rfl
  | parent =>
    obtain rfl := Except.ok.inj h
    cases ctx.parent <;> rfl
  | child =>
    obtain ⟨item, hitem, h⟩ := Logged.result_bind_eq_ok.mp h
    obtain rfl := Except.ok.inj h
    cases item <;> exact hitem
  | children =>
    obtain ⟨items, hitems, h⟩ := Logged.result_bind_eq_ok.mp h
    obtain rfl := Except.ok.inj h
    rw [matchingChild_of_matchingChildren hitems]
    cases items <;> rfl

/-- Only `children` can stand for several targets. -/
lemma length_targetsIn_le_one (hscope : r.scope ≠ .children)
    (h : (r.targetsIn ctx).result = .ok targets) : targets.length ≤ 1 := by
  have hoption (item : Option WorkItem) : (item.toList.map some).length ≤ 1 := by
    cases item <;> simp
  obtain ⟨scope, name, selector⟩ := r
  rw [targetsIn_mk] at h
  cases scope with
  | children => exact absurd rfl hscope
  | implicit | me =>
    obtain rfl := Except.ok.inj h
    exact Nat.le_refl 1
  | parent =>
    obtain rfl := Except.ok.inj h
    exact hoption ctx.parent
  | child =>
    obtain ⟨item, -, h⟩ := Logged.result_bind_eq_ok.mp h
    obtain rfl := Except.ok.inj h
    exact hoption item

/-- A child is written to exactly if it is read from. -/
lemma targetsIn_of_itemIn {item : Option WorkItem} (hscope : r.scope = .child)
    (h : (r.itemIn ctx).result = .ok item) :
    (r.targetsIn ctx).result = .ok (item.toList.map some) := by
  obtain ⟨scope, name, selector⟩ := r
  obtain rfl : scope = .child := hscope
  rw [itemIn_mk] at h
  rw [targetsIn_mk]
  exact Logged.result_bind_eq_ok.mpr ⟨item, h, rfl⟩

/-- The targets of `children` are the children that meet the conditions, if all can be tried. -/
lemma targetsIn_eq_ok_iff (hscope : r.scope = .children) :
    (r.targetsIn ctx).result = .ok targets ↔
      ctx.CanTry r.conditions ∧ targets = (ctx.childrenMeeting r.conditions).map some := by
  obtain ⟨scope, name, selector⟩ := r
  obtain rfl : scope = .children := hscope
  rw [targetsIn_mk, Logged.result_bind_eq_ok]
  constructor
  · rintro ⟨items, hitems, h⟩
    obtain ⟨htry, rfl⟩ := matchingChildren_eq_ok_iff.mp hitems
    exact ⟨htry, (Except.ok.inj h).symm⟩
  · rintro ⟨htry, rfl⟩
    exact ⟨_, matchingChildren_eq_ok_iff.mpr ⟨htry, rfl⟩, rfl⟩

/-- Targets are found unless a selector has to be evaluated on a child that cannot be tried. -/
lemma exists_targetsIn (h : r.scope = .child ∨ r.scope = .children → ctx.CanTry r.conditions) :
    ∃ targets, (r.targetsIn ctx).result = .ok targets := by
  by_cases hchild : r.scope = .child
  · exact ⟨_, targetsIn_of_itemIn hchild (itemIn_of_canTry (.inl hchild) (h (.inl hchild)))⟩
  by_cases hchildren : r.scope = .children
  · exact ⟨_, (targetsIn_eq_ok_iff hchildren).mpr ⟨h (.inr hchildren), rfl⟩⟩
  obtain ⟨scope, name, selector⟩ := r
  rw [targetsIn_mk]
  cases scope with
  | implicit | me | parent => exact ⟨_, rfl⟩
  | child => exact absurd rfl hchild
  | children => exact absurd rfl hchildren

/-- **What is read belongs to the first target.**  Whatever the conditions of a selector are, and
whether they have selectors of their own or not:

* the search for all children has a result exactly if every child can be tried, and then it is the
  children that meet every condition as the item at hand, in order;
* the item that is read is then the first of these children, if there is one;
* where no child is tried in vain there are targets, at most one of them for `me`, `parent` and
  `child`, and the item read through a scope is the first target;
* `child` writes to the item that it reads from, and `children` to all children that meet the
  conditions. -/
theorem item_is_first_target (ctx : Context) (r : Reference) :
    (∀ found, (matchingChildren ctx r.selector).result = .ok found ↔
      ctx.CanTry r.conditions ∧ found = ctx.childrenMeeting r.conditions) ∧
    (r.scope = .child ∨ r.scope = .children → ctx.CanTry r.conditions →
      (r.itemIn ctx).result = .ok (ctx.childrenMeeting r.conditions).head?) ∧
    ((r.scope = .child ∨ r.scope = .children → ctx.CanTry r.conditions) →
      ∃ targets, (r.targetsIn ctx).result = .ok targets) ∧
    ∀ targets, (r.targetsIn ctx).result = .ok targets →
      (r.scope ≠ .implicit → (r.itemIn ctx).result = .ok targets.head?.join) ∧
      (r.scope ≠ .children → targets.length ≤ 1) ∧
      (r.scope = .child → ∃ item : Option WorkItem,
        (r.itemIn ctx).result = .ok item ∧ targets = item.toList.map some) ∧
      (r.scope = .children → targets = (ctx.childrenMeeting r.conditions).map some) := by
  refine ⟨fun found => matchingChildren_eq_ok_iff, itemIn_of_canTry, exists_targetsIn,
    fun targets h => ⟨(itemIn_of_targetsIn · h), (length_targetsIn_le_one · h), fun hscope => ?_,
      fun hscope => ((targetsIn_eq_ok_iff hscope).mp h).2⟩⟩
  have hne : r.scope ≠ .implicit := by simp [hscope]
  have hitem := itemIn_of_targetsIn hne h
  exact ⟨_, hitem, Except.ok.inj (h.symm.trans (targetsIn_of_itemIn hscope hitem))⟩

/-- Of four children the two are selected that are new and have the title of the first child in the
state of the triggering item, which a selector inside finds.  The first child is new, too, but has
another title. -/
theorem two_of_four_children_selected :
    let child (id : Int) (url state title : String) : WorkItem :=
      ⟨id, url, [("System.State", .str state), ("System.Title", .str title)], []⟩
    let trigger : WorkItem := ⟨7, "u7", [("System.State", .str "Done")], []⟩
    let ctx := Context.ofTrigger (some trigger) none
      [child 1 "c1" "New" "a", child 2 "c2" "Done" "b", child 3 "c3" "New" "b",
        child 4 "c4" "New" "b"]
    let state := Operand.field (.mk .implicit "State" none)
    let done : Condition := .mk state .equal (.field (.mk .me "State" none))
    let r : Reference := .mk .children "Reason" (some [.mk state .equal (.literal "New"),
      .mk (.field (.mk .implicit "Title" none)) .equal (.field (.mk .child "Title" (some [done])))])
    ctx.CanTry r.conditions ∧
      (ctx.childrenMeeting r.conditions).map WorkItem.url = (["c3", "c4"] : List Text) ∧
      (matchingChildren ctx r.selector).result = .ok (ctx.childrenMeeting r.conditions) ∧
      (r.itemIn ctx).result = .ok (ctx.childrenMeeting r.conditions).head? ∧
      ∃ targets, (r.targetsIn ctx).result = .ok targets ∧
        (r.itemIn ctx).result = .ok targets.head?.join ∧
        targets = (ctx.childrenMeeting r.conditions).map some := by
  intro child trigger ctx state done r
  have htry : ctx.CanTry r.conditions := by
    simp only [Context.CanTry, ctx, Context.ofTrigger, List.forall_mem_cons, List.not_mem_nil,
      false_imp_iff, implies_true, and_true]
    refine ⟨⟨false, ?_⟩, ⟨false, ?_⟩, ⟨true, ?_⟩, ⟨true, ?_⟩⟩ <;> decide +kernel
  obtain ⟨hfound, hitem, hexists, htargets⟩ := item_is_first_target ctx r
  obtain ⟨targets, h⟩ := hexists fun _ => htry
  obtain ⟨hfirst, -, -, hall⟩ := htargets targets h
  exact ⟨htry, by decide +kernel, (hfound _).mpr ⟨htry, rfl⟩, hitem (.inr rfl) htry, targets, h,
    hfirst (by decide), hall rfl⟩

end Cascade
