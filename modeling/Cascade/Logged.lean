import Cascade.Text.Letter

/-!
# Computations that leave notices

Reading and evaluating rules may find something amiss that is no error: text that belongs to no
rule, a pattern in a field that cannot be used. Such findings are noted and the work goes on. A
`Logged` computation has a result, or an error, and the notices made on the way; an error does not
take the notices back.

The laws of a monad hold (`LawfulMonad (Logged ε)`), so notices come in the order of the steps
however the steps are grouped.
-/

namespace Cascade

/-- The two parts of a rule whose unreadable pieces can be dropped. -/
inductive Clause where
  | condition
  | action
  deriving Repr, DecidableEq

/-- Something amiss that does not stop the work. -/
inductive Notice where
  /-- A line before the first rule. -/
  | skippedLine (number : Int) (line : String)
  /-- A piece of a clause that fits no grammar. -/
  | droppedText (clause : Clause) (number : Int) (text : String)
  /-- A pattern, read from a field, that cannot be used. -/
  | unusablePattern (pattern reason : Text)
  /-- A removal from a field that holds no tags. -/
  | removalOutsideTags (field : String)
  deriving Repr, DecidableEq

instance decidableEqExcept {ε α : Type} [DecidableEq ε] [DecidableEq α] :
    DecidableEq (Except ε α)
  | .ok a, .ok b => decidable_of_iff (a = b) ⟨congrArg _, Except.ok.inj⟩
  | .error d, .error e => decidable_of_iff (d = e) ⟨congrArg _, Except.error.inj⟩
  | .ok _, .error _ => isFalse nofun
  | .error _, .ok _ => isFalse nofun

/-- A result or an error, with the notices made on the way. -/
structure Logged (ε α : Type) where
  result : Except ε α
  notices : List Notice := []

namespace Logged

variable {ε α β : Type}

/-- Ends the computation with an error. -/
def fail (e : ε) : Logged ε α := ⟨.error e, []⟩

/-- Makes a notice. -/
def note (n : Notice) : Logged ε Unit := ⟨.ok (), [n]⟩

/-- A result without notices. -/
def ofExcept (r : Except ε α) : Logged ε α := ⟨r, []⟩

/-- The same computation with its error seen as one of another kind. -/
def mapError {δ : Type} (f : ε → δ) (x : Logged ε α) : Logged δ α :=
  ⟨x.result.mapError f, x.notices⟩

/-- What comes after a step: its notices follow those of the step. -/
def andThen (x : Logged ε α) (f : α → Logged ε β) : Logged ε β :=
  match x.result with
  | .ok a => ⟨(f a).result, x.notices ++ (f a).notices⟩
  | .error e => ⟨.error e, x.notices⟩

instance : Monad (Logged ε) where
  pure a := ⟨.ok a, []⟩
  bind := andThen

@[simp] theorem result_pure (a : α) : (pure a : Logged ε α).result = .ok a := rfl

@[simp] theorem notices_pure (a : α) : (pure a : Logged ε α).notices = [] := rfl

@[simp] theorem result_fail (e : ε) : (fail e : Logged ε α).result = .error e := rfl

@[simp] theorem notices_fail (e : ε) : (fail e : Logged ε α).notices = [] := rfl

@[simp] theorem result_note (n : Notice) : (note n : Logged ε Unit).result = .ok () := rfl

@[simp] theorem notices_note (n : Notice) : (note n : Logged ε Unit).notices = [n] := rfl

theorem ext_iff {x y : Logged ε α} : x = y ↔ x.result = y.result ∧ x.notices = y.notices := by
  cases x; cases y; simp

/-- The result of two steps is the second one's, or the first one's error. -/
theorem result_bind (x : Logged ε α) (f : α → Logged ε β) :
    (x >>= f).result = x.result.bind fun a => (f a).result := by
  obtain ⟨r, ns⟩ := x
  cases r <;> rfl

/-- Two steps succeed exactly when the first does and the second does on its result. -/
theorem result_bind_eq_ok {x : Logged ε α} {f : α → Logged ε β} {b : β} :
    (x >>= f).result = .ok b ↔ ∃ a, x.result = .ok a ∧ (f a).result = .ok b := by
  rw [result_bind]
  cases x.result with
  | error e => simp [Except.bind]
  | ok a => simp [Except.bind]

theorem bind_of_ok {x : Logged ε α} {a : α} (h : x.result = .ok a) (f : α → Logged ε β) :
    x >>= f = ⟨(f a).result, x.notices ++ (f a).notices⟩ := by
  obtain ⟨r, ns⟩ := x
  subst h
  rfl

theorem bind_of_error {x : Logged ε α} {e : ε} (h : x.result = .error e) (f : α → Logged ε β) :
    x >>= f = ⟨.error e, x.notices⟩ := by
  obtain ⟨r, ns⟩ := x
  subst h
  rfl

theorem id_map (x : Logged ε α) : id <$> x = x := by
  obtain ⟨r, ns⟩ := x
  cases r <;> simp [Functor.map, andThen]

theorem bind_assoc {γ : Type} (x : Logged ε α) (f : α → Logged ε β) (g : β → Logged ε γ) :
    x >>= f >>= g = x >>= fun a => f a >>= g := by
  obtain ⟨r, ns⟩ := x
  cases r with
  | error e => rfl
  | ok a =>
    simp only [bind, andThen]
    split <;> simp_all

instance : LawfulMonad (Logged ε) :=
  LawfulMonad.mk' _ id_map (fun a f => by simp [bind, andThen, pure]) bind_assoc

end Logged

end Cascade
