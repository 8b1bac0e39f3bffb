import Mathlib.Tactic.Lemma
import Cascade.Engine.Run

/-!
# One step of an evaluation

Evaluators of conditions, operands and references call each other.  This file writes one step of
each as an equation (`holdsIn_mk`, `valueIn_field`, `itemIn_mk`, `targetsIn_mk`), and gives a name
to the two places where a step branches: what a comparison makes of operands that may lack a value
(`Comparison.between`), and which child a selector finds (`matchingChild`).
-/

namespace Cascade

/-- Where two computations are equal but for their notices, so are the steps behind them. -/
lemma Logged.result_bind_congr {ε α β : Type} {x y : Logged ε α} {f g : α → Logged ε β}
    (h : x.result = y.result) (hfg : ∀ a, (f a).result = (g a).result) :
    (x >>= f).result = (y >>= g).result := by
  rw [Logged.result_bind, Logged.result_bind, h]
  exact congrArg _ (funext hfg)

variable {ctx : Context}

/-! ## Searches -/

lemma searchPattern_of_ok {pattern : Text} {node : Pattern.Node}
    (h : Pattern.Node.read pattern = .ok node) (subject : Text) :
    searchPattern pattern subject = pure (some (node.search subject)) := by
  rw [searchPattern, h]

lemma result_searchPattern_of_malformed {pattern reason : Text} {position : Option Nat}
    (h : Pattern.Node.read pattern = .error (.malformed reason position)) (subject : Text) :
    (searchPattern pattern subject).result = .ok none := by
  rw [searchPattern, h]
  rfl

lemma searchPattern_of_refused {pattern : Text} {refusal : Pattern.Refusal}
    (h : Pattern.Node.read pattern = .error (.refused refusal)) (subject : Text) :
    searchPattern pattern subject = Logged.fail (.refusedPattern refusal) := by
  rw [searchPattern, h]

/-! ## Conditions and operands -/

/-- What a comparison says of two operands; it never holds of an operand without a value. -/
def Comparison.between (c : Comparison) : Option Value → Option Value → Eval Bool
  | some l, some r => c.holds l.text r.text
  | _, _ => pure false

lemma Comparison.between_none_right (c : Comparison) (left : Option Value) :
    c.between left none = pure false := by
  cases left <;> rfl

lemma holdsIn_mk (left : Operand) (comparison : Comparison) (right : Operand) :
    (Condition.mk left comparison right).holdsIn ctx =
      (left.valueIn ctx >>= fun l => right.valueIn ctx >>= fun r => comparison.between l r) := by
  rw [Condition.holdsIn]
  rfl

/-- The child that a selector finds; the first one if there is no selector. -/
def matchingChild (ctx : Context) : Option (List Condition) → Eval (Option WorkItem)
  | none => pure ctx.children.head?
  | some conditions =>
    findFirst (fun child => allHold (ctx.withImplicit (some child)) conditions) ctx.children

lemma valueIn_field (r : Reference) :
    (Operand.field r).valueIn ctx =
      (r.itemIn ctx >>= fun item => pure (item.bind fun i => i.read r.name)) := by
  obtain ⟨scope, name, selector⟩ := r
  rw [Operand.valueIn]
  rfl

lemma itemIn_mk (scope : Scope) (name : String) (selector : Option (List Condition)) :
    (Reference.mk scope name selector).itemIn ctx =
      match scope with
      | .me => pure ctx.triggering
      | .parent => pure ctx.parent
      | .implicit => pure ctx.implicit
      | .child | .children => matchingChild ctx selector := by
  cases scope with
  | implicit | me | parent => simp [Reference.itemIn]
  | child | children => cases selector <;> simp [Reference.itemIn, matchingChild]

/-! ## Targets -/

lemma targetsIn_mk (scope : Scope) (name : String) (selector : Option (List Condition)) :
    (Reference.mk scope name selector).targetsIn ctx =
      match scope with
      | .me | .implicit => pure [ctx.triggering]
      | .parent => pure (ctx.parent.toList.map some)
      | .child => matchingChild ctx selector >>= fun item => pure (item.toList.map some)
      | .children => matchingChildren ctx selector >>= fun items => pure (items.map some) := by
  cases scope with
  | implicit | me | parent | children => rfl
  | child =>
    simp only [Reference.targetsIn, Reference.scope, itemIn_mk]

/-- Of the targets of a reference only the triggering item can be lacking. -/
lemma triggering_eq_none_of_mem_targetsIn {r : Reference} {targets : List (Option WorkItem)}
    (h : (r.targetsIn ctx).result = .ok targets) (hnone : none ∈ targets) :
    ctx.triggering = none := by
  obtain ⟨scope, name, selector⟩ := r
  rw [targetsIn_mk] at h
  have hpresent {items : List WorkItem} : none ∉ items.map some := by simp
  cases scope with
  | implicit | me =>
    obtain rfl := Except.ok.inj h
    exact (List.mem_singleton.mp hnone).symm
  | parent =>
    obtain rfl := Except.ok.inj h
    exact absurd hnone hpresent
  | child | children =>
    obtain ⟨items, -, h⟩ := Logged.result_bind_eq_ok.mp h
    obtain rfl := Except.ok.inj h
    exact absurd hnone hpresent

end Cascade
