import Mathlib.Data.List.Forall2
import Cascade.Proofs.Engine.Spelling
import Cascade.Proofs.Rule.Operands

/-!
# The fields that a run reads

A run of rules reads the fields that the operands of the rules name, and of the items nothing else
but their addresses.  A run is therefore the same on two hierarchies that agree on those, whatever
other fields, identifiers or links their items have (`runRules_eq_of_agreesOn`).

Both hierarchies are looked at through one function: `WorkItem.view` keeps of an item what the rules
may read, so that hierarchies that agree look the same.  A function of items that leaves alone what
the rules read (`Leaves`) does not change a run (`runRules_map`); this is one induction over
conditions and references.

How a field is spelled does not matter either.  Spellings of one field are told apart by nothing
once every field is given the tracker's name (`Rule.canonical`), and rules with their fields so
named run like before (`result_runRules_canonical`).
-/

namespace Cascade

/-! ## The fields named by operands -/

/-- The field that an operand names, by the tracker's name. -/
def Operand.field? : Operand → Option String
  | .literal _ => none
  | .field reference => some (canonicalField reference.name)

/-- The fields that operands name. -/
def fieldsOf (operands : List Operand) : List String := operands.filterMap Operand.field?

/-- The fields that the operands of a rule name, at any depth of selectors. -/
def Rule.fields (rule : Rule) : List String := fieldsOf rule.operands

lemma fieldsOf_append (ops more : List Operand) :
    fieldsOf (ops ++ more) = fieldsOf ops ++ fieldsOf more :=
  List.filterMap_append

lemma fieldsOf_cons (r : Reference) (ops : List Operand) :
    fieldsOf (.field r :: ops) = canonicalField r.name :: fieldsOf ops := rfl

/-- The operands in a reference are the reference and those in its selector. -/
lemma operands_field (r : Reference) :
    (Operand.field r).operands = .field r :: conditionOperands (r.selector.getD []) := by
  obtain ⟨scope, name, selector⟩ := r
  cases selector <;> simp [Operand.operands, conditionOperands, Reference.selector]

/-- The fields of a reference are its own and those in its selector. -/
lemma fieldsOf_field_subset {r : Reference} {fields : List String}
    (h : fieldsOf (Operand.field r).operands ⊆ fields) :
    canonicalField r.name ∈ fields ∧
      fieldsOf (conditionOperands (r.selector.getD [])) ⊆ fields := by
  rw [operands_field, fieldsOf_cons] at h
  exact List.cons_subset.mp h

/-! ## A function of items that leaves alone what is read -/

/-- The context with another item in the place of every item. -/
def Context.map (f : WorkItem → WorkItem) (ctx : Context) : Context :=
  ⟨ctx.implicit.map f, ctx.triggering.map f, ctx.parent.map f, ctx.children.map f⟩

lemma Context.map_withImplicit (f : WorkItem → WorkItem) (ctx : Context) (item : WorkItem) :
    (ctx.withImplicit (some item)).map f = (ctx.map f).withImplicit (some (f item)) := rfl

/-- The function changes neither addresses nor what is read under names of the fields. -/
structure Leaves (fields : List String) (f : WorkItem → WorkItem) : Prop where
  url : ∀ item, (f item).url = item.url
  read : ∀ item name, canonicalField name ∈ fields → (f item).read name = item.read name

section
variable {ε : Type} {α β : Type}

lemma findFirst_map {f : α → β} {test : α → Logged ε Bool} {test' : β → Logged ε Bool}
    (h : ∀ a, test' (f a) = test a) (candidates : List α) :
    findFirst test' (candidates.map f) = Option.map f <$> findFirst test candidates := by
  induction candidates with
  | nil => simp [findFirst]
  | cons a rest ih =>
    rw [List.map_cons, findFirst, findFirst, map_bind, h]
    refine bind_congr fun passes => ?_
    cases passes with
    | true => simp
    | false => simpa using ih

lemma findAll_map {f : α → β} {test : α → Logged ε Bool} {test' : β → Logged ε Bool}
    (h : ∀ a, test' (f a) = test a) (candidates : List α) :
    findAll test' (candidates.map f) = List.map f <$> findAll test candidates := by
  induction candidates with
  | nil => simp [findAll]
  | cons a rest ih =>
    rw [List.map_cons, findAll, findAll, map_bind, h, ih]
    refine bind_congr fun passes => ?_
    cases passes <;> simp

end

variable {fields : List String} {f : WorkItem → WorkItem}

mutual

/-- Conditions hold of changed items as they do of the items. -/
theorem holdsIn_map (hf : Leaves fields f) (ctx : Context) : (c : Condition) →
    fieldsOf c.operands ⊆ fields → c.holdsIn (ctx.map f) = c.holdsIn ctx
  | .mk left comparison right, h => by
    rw [Condition.operands, fieldsOf_append, List.append_subset] at h
    rw [holdsIn_mk, holdsIn_mk, valueIn_map hf ctx left h.1, valueIn_map hf ctx right h.2]

theorem valueIn_map (hf : Leaves fields f) (ctx : Context) : (op : Operand) →
    fieldsOf op.operands ⊆ fields → op.valueIn (ctx.map f) = op.valueIn ctx
  | .literal _, _ => by rw [Operand.valueIn, Operand.valueIn]
  | .field r, h => by
    have hread (item : Option WorkItem) :
        ((item.map f).bind fun i => i.read r.name) = item.bind fun i => i.read r.name := by
      cases item with
      | none => rfl
      | some item =>
        rw [Option.map_some, Option.bind_some, Option.bind_some]
        exact hf.read item r.name (fieldsOf_field_subset h).1
    rw [valueIn_field, valueIn_field, itemIn_map hf ctx r h]
    simp only [bind_map_left, hread]

/-- The item that a reference finds is the changed one. -/
theorem itemIn_map (hf : Leaves fields f) (ctx : Context) : (r : Reference) →
    fieldsOf (Operand.field r).operands ⊆ fields →
    r.itemIn (ctx.map f) = Option.map f <$> r.itemIn ctx
  | .mk .me _ _, _ | .mk .parent _ _, _ | .mk .implicit _ _, _ => by
    simp [Reference.itemIn, Context.map]
  | .mk .child _ none, _ | .mk .children _ none, _ => by
    simp [Reference.itemIn, Context.map]
  | .mk .child _ (some conditions), h | .mk .children _ (some conditions), h => by
    rw [Reference.itemIn, Reference.itemIn]
    refine findFirst_map (fun child => ?_) ctx.children
    rw [← Context.map_withImplicit]
    exact allHold_map hf _ conditions (fieldsOf_field_subset h).2

theorem allHold_map (hf : Leaves fields f) (ctx : Context) : (cs : List Condition) →
    fieldsOf (conditionOperands cs) ⊆ fields → allHold (ctx.map f) cs = allHold ctx cs
  | [], _ => by rw [allHold, allHold]
  | c :: rest, h => by
    rw [conditionOperands, fieldsOf_append, List.append_subset] at h
    rw [allHold, allHold, holdsIn_map hf ctx c h.1, allHold_map hf ctx rest h.2]

end

/-! ## Actions and runs on changed items -/

lemma matchingChild_map (hf : Leaves fields f) (ctx : Context) {selector : Option (List Condition)}
    (h : fieldsOf (conditionOperands (selector.getD [])) ⊆ fields) :
    matchingChild (ctx.map f) selector = Option.map f <$> matchingChild ctx selector := by
  cases selector with
  | none => simp [matchingChild, Context.map]
  | some conditions =>
    refine findFirst_map (fun child => ?_) ctx.children
    rw [← Context.map_withImplicit]
    exact allHold_map hf _ conditions h

lemma matchingChildren_map (hf : Leaves fields f) (ctx : Context)
    {selector : Option (List Condition)}
    (h : fieldsOf (conditionOperands (selector.getD [])) ⊆ fields) :
    matchingChildren (ctx.map f) selector = List.map f <$> matchingChildren ctx selector := by
  cases selector with
  | none => simp [matchingChildren, Context.map]
  | some conditions =>
    refine findAll_map (fun child => ?_) ctx.children
    rw [← Context.map_withImplicit]
    exact allHold_map hf _ conditions h

lemma targetsIn_map (hf : Leaves fields f) (ctx : Context) (r : Reference)
    (h : fieldsOf (Operand.field r).operands ⊆ fields) :
    r.targetsIn (ctx.map f) = List.map (Option.map f) <$> r.targetsIn ctx := by
  obtain ⟨scope, name, selector⟩ := r
  have hinner : fieldsOf (conditionOperands (selector.getD [])) ⊆ fields :=
    (fieldsOf_field_subset h).2
  rw [targetsIn_mk, targetsIn_mk]
  cases scope with
  | implicit | me => simp [Context.map]
  | parent => cases hp : ctx.parent <;> simp [Context.map, hp]
  | child =>
    simp only [matchingChild_map hf ctx hinner, bind_map_left, map_bind, map_pure]
    refine bind_congr fun item => ?_
    cases item <;> rfl
  | children =>
    simp only [matchingChildren_map hf ctx hinner, bind_map_left, map_bind, map_pure]
    refine bind_congr fun items => ?_
    rw [List.map_map, List.map_map]
    rfl

lemma onTargets_map {part : ItemPart} {operation operation' : WorkItem → Option UpdateOperation}
    (h : ∀ item, operation' (f item) = operation item) (targets : List (Option WorkItem)) :
    onTargets part operation' (targets.map (Option.map f)) = onTargets part operation targets := by
  induction targets with
  | nil => rfl
  | cons target rest ih =>
    rw [List.map_cons, onTargets, onTargets, ih]
    cases target with
    | none => rfl
    | some item => simp only [Option.map_some, presentItem, pure_bind, h]

/-- What an action does to a target does not depend on more than is left alone. -/
lemma apply_map (hf : Leaves fields f) {a : Action} (h : canonicalField a.target.name ∈ fields)
    (targets : List (Option WorkItem)) (value : Text) :
    a.apply (targets.map (Option.map f)) value = a.apply targets value := by
  have hreplacement (item : WorkItem) (v : Text) :
      a.replacement (f item) v = a.replacement item v := by
    simp only [Action.replacement, hf.url]
  have htags (htag : a.isOnTags = true) (item : WorkItem) : (f item).tags = item.tags := by
    have htarget : canonicalField a.target.name = tagsField := of_decide_eq_true htag
    have hmem : canonicalField tagsField ∈ fields := by
      rwa [canonicalField_tagsField, ← htarget]
    rw [WorkItem.tags, WorkItem.tags, hf.read item tagsField hmem]
  unfold Action.apply
  dsimp only
  cases a.kind with
  | set => exact onTargets_map (fun item => by rw [hreplacement]) targets
  | add =>
    dsimp only
    split
    · next htag =>
      exact onTargets_map (fun item => by simp only [hreplacement, htags htag]) targets
    · exact onTargets_map (fun item => by rw [hreplacement]) targets
  | remove =>
    dsimp only
    split
    · next htag =>
      exact onTargets_map (fun item => by simp only [hreplacement, htags htag]) targets
    · rfl

lemma execute_map (hf : Leaves fields f) (ctx : Context) (a : Action)
    (h : fieldsOf a.operands ⊆ fields) : a.execute (ctx.map f) = a.execute ctx := by
  rw [Action.operands, fieldsOf_append, List.append_subset] at h
  obtain ⟨hvalue, htarget⟩ := h
  have hname := (fieldsOf_field_subset htarget).1
  have hcontext : (ctx.map f).withImplicit (ctx.map f).triggering =
      (ctx.withImplicit ctx.triggering).map f := rfl
  rw [Action.execute, Action.execute, targetsIn_map hf ctx a.target htarget, bind_map_left]
  refine bind_congr fun targets => ?_
  rw [List.isEmpty_map, hcontext, valueIn_map hf _ a.value hvalue]
  split
  · rfl
  · refine bind_congr fun value => ?_
    cases value with
    | none => rfl
    | some value => exact apply_map hf hname targets value.text

lemma executeAll_map (hf : Leaves fields f) (ctx : Context) (actions : List Action)
    (h : fieldsOf (actions.flatMap Action.operands) ⊆ fields) :
    executeAll (ctx.map f) actions = executeAll ctx actions := by
  induction actions with
  | nil => rfl
  | cons a rest ih =>
    rw [List.flatMap_cons, fieldsOf_append, List.append_subset] at h
    rw [executeAll, executeAll, execute_map hf ctx a h.1, ih h.2]

lemma discard_triggerId_map (ctx : Context) :
    discard (triggerId (ctx.map f)) = discard (triggerId ctx) := by
  cases ht : ctx.triggering <;> simp only [triggerId, Context.map, ht] <;> rfl

/-- A run leaves alone what its rules do not name: changing items in nothing that the rules read
does not change the run. -/
lemma runRules_map (hf : Leaves fields f) (ctx : Context) (rules : List Rule)
    (h : rules.flatMap Rule.fields ⊆ fields) :
    runRules (ctx.map f) rules = runRules ctx rules := by
  induction rules with
  | nil => rw [runRules, runRules, discard_triggerId_map]
  | cons rule rest ih =>
    rw [List.flatMap_cons, List.append_subset] at h
    obtain ⟨hrule, hrest⟩ := h
    rw [Rule.fields, Rule.operands, fieldsOf_append, List.append_subset] at hrule
    have hguards : rule.holdsIn (ctx.map f) = rule.holdsIn ctx :=
      allHold_map hf ctx rule.guards hrule.1
    have hactions : rule.execute (ctx.map f) = rule.execute ctx :=
      executeAll_map hf ctx rule.actions hrule.2
    rw [runRules_cons, runRules_cons, hguards, hactions, discard_triggerId_map, ih hrest]

/-! ## Hierarchies that agree on fields -/

namespace WorkItem

/-- The value of a field among the fields of an item; a field that is not set has the value null. -/
def valueOf (item : WorkItem) (field : String) : Value := (item.fields.get? field).getD .null

/-- Two items have the same address, the same values of the fields, and the same identifier if that
is among them. -/
structure AgreesOn (fields : List String) (a b : WorkItem) : Prop where
  url : a.url = b.url
  value : ∀ field ∈ fields, field ≠ idField → a.valueOf field = b.valueOf field
  id : idField ∈ fields → a.id = b.id

/-- What can be seen of an item through fields. -/
def view (fields : List String) (item : WorkItem) : WorkItem where
  id := if idField ∈ fields then item.id else 0
  url := item.url
  fields := (fields.filter (· ≠ idField)).map fun field : String =>
    ((field : Text), item.valueOf field)

lemma view_eq_of_agreesOn {a b : WorkItem} (h : a.AgreesOn fields b) :
    a.view fields = b.view fields := by
  have hid : (if idField ∈ fields then a.id else 0) = if idField ∈ fields then b.id else 0 := by
    by_cases hmem : idField ∈ fields
    · rw [if_pos hmem, if_pos hmem, h.id hmem]
    · rw [if_neg hmem, if_neg hmem]
  have hvalues : ((fields.filter (· ≠ idField)).map
        fun field : String => ((field : Text), a.valueOf field)) =
      (fields.filter (· ≠ idField)).map fun field : String =>
        ((field : Text), b.valueOf field) := by
    refine List.map_congr_left fun field hfield => ?_
    obtain ⟨hmem, hne⟩ := List.mem_filter.mp hfield
    rw [h.value field hmem (of_decide_eq_true hne)]
  rw [view, view, hid, h.url, hvalues]

/-- Null and nothing are read alike, so what is read of a field is its value unless that is null. -/
lemma read_eq_of_ne_idField {item : WorkItem} {name : String} (h : canonicalField name ≠ idField) :
    item.read name =
      match item.valueOf (canonicalField name) with
      | .null => none
      | v => some v := by
  simp only [read, if_neg h, valueOf]
  cases item.fields.get? (canonicalField name) with
  | none => rfl
  | some v => cases v <;> rfl

end WorkItem

lemma get?_map_pair {value : String → Value} {names : List String} {name : String}
    (h : name ∈ names) :
    Entries.get? (names.map fun n : String => ((n : Text), value n)) name = some (value name) := by
  induction names with
  | nil => cases h
  | cons n rest ih =>
    rw [List.map_cons, Entries.get?, List.lookup_cons, Text.ofString_beq]
    by_cases hn : name = n
    · rw [hn, beq_self_eq_true]
    · rw [beq_eq_false_iff_ne.mpr hn]
      exact ih ((List.mem_cons.mp h).resolve_left hn)

/-- Through fields, an item has its address and what is read under names of the fields. -/
lemma leaves_view (fields : List String) : Leaves fields (WorkItem.view fields) where
  url _ := rfl
  read item name h := by
    by_cases hid : canonicalField name = idField
    · rw [hid] at h
      simp only [WorkItem.read, if_pos hid, WorkItem.view, if_pos h]
    · have hvalue : (item.view fields).valueOf (canonicalField name) =
          item.valueOf (canonicalField name) := by
        have hmem : canonicalField name ∈ fields.filter (· ≠ idField) :=
          List.mem_filter.mpr ⟨h, decide_eq_true hid⟩
        rw [WorkItem.valueOf, WorkItem.view, get?_map_pair hmem, Option.getD_some]
      rw [WorkItem.read_eq_of_ne_idField hid, WorkItem.read_eq_of_ne_idField hid, hvalue]

/-- Hierarchies that agree look the same. -/
lemma map_view_ofTrigger {triggering triggering' parent parent' : Option WorkItem}
    {children children' : List WorkItem}
    (ht : Option.Rel (WorkItem.AgreesOn fields) triggering triggering')
    (hp : Option.Rel (WorkItem.AgreesOn fields) parent parent')
    (hc : List.Forall₂ (WorkItem.AgreesOn fields) children children') :
    (Context.ofTrigger triggering parent children).map (WorkItem.view fields) =
      (Context.ofTrigger triggering' parent' children').map (WorkItem.view fields) := by
  have hoption {a b : Option WorkItem} (h : Option.Rel (WorkItem.AgreesOn fields) a b) :
      a.map (WorkItem.view fields) = b.map (WorkItem.view fields) := by
    cases h with
    | some h => exact congrArg some (WorkItem.view_eq_of_agreesOn h)
    | none => rfl
  have hlist : children.map (WorkItem.view fields) = children'.map (WorkItem.view fields) := by
    induction hc with
    | nil => rfl
    | cons h _ ih => rw [List.map_cons, List.map_cons, WorkItem.view_eq_of_agreesOn h, ih]
  simp only [Context.map, Context.ofTrigger, hoption ht, hoption hp, hlist]

/-! ## Runs -/

/-- **A run depends on the fields that its rules name.**  Let two lists of rules be equal but for
the spelling of their fields, and let two hierarchies of one shape agree, item by item, on addresses
and on the fields that operands of the rules name, at any depth of selectors; on identifiers only if
some operand names the identifier.  Then the runs have the same result: the same rule and the same
operations, or the same error. -/
theorem runRules_eq_of_agreesOn {rules rules' : List Rule}
    (hrules : rules.map Rule.canonical = rules'.map Rule.canonical)
    {triggering triggering' parent parent' : Option WorkItem} {children children' : List WorkItem}
    (ht : Option.Rel (WorkItem.AgreesOn (rules.flatMap Rule.fields)) triggering triggering')
    (hp : Option.Rel (WorkItem.AgreesOn (rules.flatMap Rule.fields)) parent parent')
    (hc : List.Forall₂ (WorkItem.AgreesOn (rules.flatMap Rule.fields)) children children') :
    (runRules (Context.ofTrigger triggering parent children) rules).result =
      (runRules (Context.ofTrigger triggering' parent' children') rules').result := by
  have hview (ctx : Context) :
      runRules (ctx.map (WorkItem.view (rules.flatMap Rule.fields))) rules = runRules ctx rules :=
    runRules_map (leaves_view _) ctx rules (List.Subset.refl _)
  rw [← hview, map_view_ofTrigger ht hp hc, hview, ← result_runRules_canonical, hrules,
    result_runRules_canonical]

/-- A rule in two spellings, and two hierarchies with other identifiers and with fields that no
operand names. -/
theorem run_of_respelled_rules :
    let rules (title state tags : String) : List Rule :=
      let new := Condition.mk (.field (.mk .implicit state none)) .equal (.literal "New")
      [{ name := "r"
         guards := [.mk (.field (.mk .me title none)) .contains
          (.field (.mk .child title (some [new])))]
         actions := [⟨.add, .mk .children tags (some [new]), .literal "seen", {}⟩,
          ⟨.set, .mk .parent title none, .field (.mk .me title none), {}⟩] }]
    let hierarchy (id : Int) (reason : String) : Context := Context.ofTrigger
      (some ⟨id, "me", [("System.Title", .str "Dev Task"), ("System.Reason", .str reason)], []⟩)
      (some ⟨id, "parent", [("System.Reason", .str reason)], []⟩)
      [⟨id, "child", [("System.Reason", .str reason), ("System.State", .str "New"),
        ("System.Title", .str "Dev")], []⟩]
    (runRules (hierarchy 1 "old") (rules "Title" "State" "Tags")).result =
        (runRules (hierarchy 2 "new") (rules "TITLE" "System.State" "tags")).result ∧
      (runRules (hierarchy 1 "old") (rules "Title" "State" "Tags")).result =
        .ok ⟨some "r", [⟨"child", {}, "/fields/System.Tags", "seen"⟩,
          ⟨"parent", {}, "/fields/System.Title", "Dev Task"⟩]⟩ := by
  intro rules hierarchy
  have hfields : ∀ field ∈ (rules "Title" "State" "Tags").flatMap Rule.fields,
      field ∈ ["System.Title", "System.State", "System.Tags"] := by decide +kernel
  have hagree (url : String) (id id' : Int) (entries entries' : Entries)
      (h : ∀ field ∈ ["System.Title", "System.State", "System.Tags"],
        entries.get? field = entries'.get? field) :
      WorkItem.AgreesOn ((rules "Title" "State" "Tags").flatMap Rule.fields)
        ⟨id, url, entries, []⟩ ⟨id', url, entries', []⟩ := by
    refine ⟨rfl, fun field hfield _ => ?_, fun hid => ?_⟩
    · rw [WorkItem.valueOf, WorkItem.valueOf, h field (hfields field hfield)]
    · exact absurd (hfields idField hid) (by decide)
  refine ⟨runRules_eq_of_agreesOn (by decide +kernel) (.some (hagree _ _ _ _ _ ?_))
    (.some (hagree _ _ _ _ _ ?_)) (.cons (hagree _ _ _ _ _ ?_) .nil), by decide +kernel⟩
  all_goals simp [Entries.get?, List.lookup_cons]

end Cascade
