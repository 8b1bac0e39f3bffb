/-!
# Rules

A rule guards a list of actions with a list of conditions. Conditions compare two operands; an
operand is a literal or the field of a work item, which is reached through a scope. The scopes
`child` and `children` may carry a *selector*: conditions that a child has to meet. Selectors hold
conditions and so nest to any depth.

A reference without selector and one whose selector is empty are different values, although both
accept every child. Equality of rules and of their parts can be decided.
-/

namespace Cascade

/-- Which item, or items, a reference means. -/
inductive Scope where
  /-- The item at hand: the triggering item, or inside a selector the child under test. -/
  | implicit
  | me
  | parent
  | child
  | children
  deriving Repr, DecidableEq

/-- How a condition compares its operands. -/
inductive Comparison where
  | matching
  | notMatching
  | contains
  | startsWith
  | endsWith
  | equal
  | notEqual
  deriving Repr, DecidableEq

/-- What an action does to its target. -/
inductive ActionKind where
  | set
  | add
  | remove
  deriving Repr, DecidableEq, Inhabited

mutual

/-- A comparison of two operands. -/
inductive Condition where
  | mk (left : Operand) (comparison : Comparison) (right : Operand)
  deriving Repr

/-- A literal, or the field of an item. -/
inductive Operand where
  | literal (text : String)
  | field (reference : Reference)
  deriving Repr

/-- A field of the items that a scope, and possibly a selector, single out. -/
inductive Reference where
  | mk (scope : Scope) (name : String) (selector : Option (List Condition))
  deriving Repr

end

mutual

/-- Whether two conditions are equal. -/
def Condition.decEq : (a b : Condition) → Decidable (a = b)
  | .mk l c r, .mk l' c' r' =>
    match Operand.decEq l l', decEq c c', Operand.decEq r r' with
    | isTrue hl, isTrue hc, isTrue hr => isTrue (by rw [hl, hc, hr])
    | isFalse h, _, _ => isFalse fun e => h (Condition.mk.inj e).1
    | _, isFalse h, _ => isFalse fun e => h (Condition.mk.inj e).2.1
    | _, _, isFalse h => isFalse fun e => h (Condition.mk.inj e).2.2

/-- Whether two operands are equal. -/
def Operand.decEq : (a b : Operand) → Decidable (a = b)
  | .literal s, .literal t => decidable_of_iff (s = t) ⟨congrArg _, Operand.literal.inj⟩
  | .field a, .field b =>
    match Reference.decEq a b with
    | isTrue h => isTrue (congrArg _ h)
    | isFalse h => isFalse fun e => h (Operand.field.inj e)
  | .literal _, .field _ => isFalse Operand.noConfusion
  | .field _, .literal _ => isFalse Operand.noConfusion

/-- Whether two references are equal. -/
def Reference.decEq : (a b : Reference) → Decidable (a = b)
  | .mk s n none, .mk s' n' none => decidable_of_iff (s = s' ∧ n = n') (by simp)
  | .mk s n (some cs), .mk s' n' (some cs') =>
    match decEqConditions cs cs' with
    | isTrue h => decidable_of_iff (s = s' ∧ n = n') (by simp [h])
    | isFalse h => isFalse (by simp [h])
  | .mk _ _ none, .mk _ _ (some _) => isFalse (by simp)
  | .mk _ _ (some _), .mk _ _ none => isFalse (by simp)

/-- Whether two lists of conditions are equal. -/
def decEqConditions : (as bs : List Condition) → Decidable (as = bs)
  | [], [] => isTrue rfl
  | a :: as, b :: bs =>
    match Condition.decEq a b, decEqConditions as bs with
    | isTrue h, isTrue hs => isTrue (by rw [h, hs])
    | isFalse h, _ => isFalse fun e => h (List.cons.inj e).1
    | _, isFalse hs => isFalse fun e => hs (List.cons.inj e).2
  | [], _ :: _ => isFalse (by simp)
  | _ :: _, [] => isFalse (by simp)

end

instance : DecidableEq Condition := Condition.decEq
instance : DecidableEq Operand := Operand.decEq
instance : DecidableEq Reference := Reference.decEq

instance : Inhabited Reference := ⟨.mk .implicit "" none⟩
instance : Inhabited Operand := ⟨.literal ""⟩
instance : Inhabited Condition := ⟨.mk default .equal default⟩

namespace Condition

/-- The left operand. -/
def left : Condition → Operand
  | .mk l _ _ => l

/-- The comparison. -/
def comparison : Condition → Comparison
  | .mk _ c _ => c

/-- The right operand. -/
def right : Condition → Operand
  | .mk _ _ r => r

end Condition

namespace Reference

/-- The scope. -/
def scope : Reference → Scope
  | .mk s _ _ => s

/-- The name of the field. -/
def name : Reference → String
  | .mk _ n _ => n

/-- The conditions on children, if any were written. -/
def selector : Reference → Option (List Condition)
  | .mk _ _ c => c

end Reference

/-- Side effects that an action asks for; nothing means that it does not care. -/
structure Options where
  suppressNotifications : Option Bool := none
  bypassRules : Option Bool := none
  deriving Repr, DecidableEq, Inhabited

/-- One statement of a then-clause. -/
structure Action where
  kind : ActionKind
  target : Reference
  value : Operand
  options : Options := {}
  deriving Repr, DecidableEq, Inhabited

/-- A named list of actions, guarded by conditions that must all hold. -/
structure Rule where
  name : String
  guards : List Condition
  actions : List Action
  deriving Repr, DecidableEq, Inhabited

namespace Scope

/-- The word for a scope. -/
def word : Scope → String
  | .implicit => "implicit"
  | .me => "me"
  | .parent => "parent"
  | .child => "child"
  | .children => "children"

/-- All scopes. -/
def all : List Scope := [.implicit, .me, .parent, .child, .children]

/-- The scope with a word. -/
def ofWord? (w : String) : Option Scope := all.find? (·.word == w)

theorem ofWord?_word (s : Scope) : ofWord? s.word = some s := by
  cases s <;> decide

end Scope

namespace Comparison

/-- The words of a comparison. -/
def words : Comparison → List String
  | .matching => ["matches"]
  | .notMatching => ["not", "matches"]
  | .contains => ["contains"]
  | .startsWith => ["starts", "with"]
  | .endsWith => ["ends", "with"]
  | .equal => ["is"]
  | .notEqual => ["is", "not"]

/-- A comparison as it is written. -/
def spelling (c : Comparison) : String := " ".intercalate c.words

/-- All comparisons, in the order in which they are looked for: one that begins like another and is
longer comes first. -/
def all : List Comparison :=
  [.notMatching, .startsWith, .endsWith, .matching, .contains, .notEqual, .equal]

/-- The comparison with a spelling. -/
def ofSpelling? (s : String) : Option Comparison := all.find? (·.spelling == s)

/-- Whether the right operand is a pattern. -/
def takesPattern : Comparison → Bool
  | .matching | .notMatching => true
  | _ => false

end Comparison

namespace ActionKind

/-- The keyword of an action. -/
def word : ActionKind → String
  | .set => "set"
  | .add => "add"
  | .remove => "remove"

/-- All kinds of actions. -/
def all : List ActionKind := [.set, .add, .remove]

/-- The kind with a keyword. -/
def ofWord? (w : String) : Option ActionKind := all.find? (·.word == w)

end ActionKind

end Cascade
