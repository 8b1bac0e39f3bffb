import Cascade.Keyed
import Cascade.Number.Notation
import Cascade.Text.Quoted

/-!
# Values of work item fields

Fields of a work item hold arbitrary JSON values. A whole number and a float are different values
even when they are equal, and an object keeps its entries in the order in which they were first
written. Texts may hold halves of surrogate pairs, as values and as keys.

`Value.display` is the text of a value by itself, `Value.inner` its text inside a list or an object;
the two differ on texts only, which are quoted inside (`display_eq_inner`).
-/

namespace Cascade

/-- A JSON value. -/
inductive Value where
  | null
  | bool (b : Bool)
  | int (i : Int)
  | float (f : Float)
  | str (s : Text)
  | list (items : List Value)
  | object (entries : List (Text × Value))
  deriving Inhabited

/-- Entries of an object, in order. -/
abbrev Entries := List (Text × Value)

namespace Entries

/-- The value under a key. -/
def get? (entries : Entries) (key : Text) : Option Value := entries.lookup key

/-- The entries with a key bound to a value; a key that is there keeps its place. -/
def put (entries : Entries) (key : Text) (value : Value) : Entries :=
  Keyed.alter value (fun _ => value) entries key

/-- The entries that a list of bindings leaves, the last binding of a key winning. -/
def ofBindings (bindings : List (Text × Value)) : Entries :=
  bindings.foldl (fun entries (key, value) => put entries key value) []

theorem get?_put_self (entries : Entries) (key : Text) (value : Value) :
    (entries.put key value).get? key = some value :=
  Keyed.lookup_alter_self value _ entries key

theorem get?_put_of_ne (entries : Entries) {key other : Text} (h : other ≠ key) (value : Value) :
    (entries.put key value).get? other = entries.get? other :=
  Keyed.lookup_alter_of_ne value _ entries h

end Entries

namespace Value

mutual

/-- The text of a value inside a list or an object. -/
def inner : Value → List Char
  | .null => "None".toList
  | .bool b => (if b then "True" else "False").toList
  | .int i => (intText i).toList
  | .float f => (floatText f).toList
  | .str s => s.quoted
  | .list items => '[' :: innerItems items ++ [']']
  | .object entries => '{' :: innerEntries entries ++ ['}']

/-- The texts of the items of a list, with commas between them. -/
def innerItems : List Value → List Char
  | [] => []
  | [v] => inner v
  | v :: rest => inner v ++ ',' :: ' ' :: innerItems rest

/-- The texts of the entries of an object, with commas between them. -/
def innerEntries : List (Text × Value) → List Char
  | [] => []
  | [(k, v)] => k.quoted ++ ':' :: ' ' :: inner v
  | (k, v) :: rest => k.quoted ++ ':' :: ' ' :: inner v ++ ',' :: ' ' :: innerEntries rest

end

/-- The text of a value by itself. -/
def display : Value → Text
  | .str s => s
  | v => .ofChars v.inner

/-- Only texts look different inside a list or an object. -/
theorem display_eq_inner {v : Value} (h : ∀ s, v ≠ .str s) : v.display = .ofChars v.inner := by
  cases v with
  | str s => exact absurd rfl (h s)
  | _ => rfl

/-- Whether a value counts as present: null, false, zero and everything empty do not. -/
def isTruthy : Value → Bool
  | .null => false
  | .bool b => b
  | .int i => i != 0
  | .float f => f != 0.0
  | .str s => !s.isEmpty
  | .list items => !items.isEmpty
  | .object entries => !entries.isEmpty

/-- The text that a value is, if it is one. -/
def str? : Value → Option Text
  | .str s => some s
  | _ => none

/-- A text, or null where there is none. -/
def strOrNull : Option String → Value
  | some s => .str s
  | none => .null

/-- The entry of an object under a key; anything but an object has none. -/
def get? (v : Value) (key : Text) : Option Value :=
  match v with
  | .object entries => Entries.get? entries key
  | _ => none

/-- Whether the value is this text. -/
def isStr (v : Value) (s : Text) : Bool := v.str? == some s

end Value

end Cascade
