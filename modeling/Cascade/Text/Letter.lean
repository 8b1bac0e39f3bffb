/-!
# Texts that come from outside

A text in a payload is a sequence of code points. Most of them are characters, but half of a
surrogate pair may stand by itself: an escape can name it, and some bytes encode it. Such a half is
kept as it is. It is equal to nothing but itself and belongs to no class of characters; only a text
without halves can be written as UTF-8 again.

`Text` is the type of these texts. Rules are written in characters only, so the texts of rules are
strings; every string is a text (`Text.ofString`), and a text is a string exactly when it is *whole*
(`isWhole_iff`).
-/

namespace Cascade

/-- A code point of a text. -/
inductive Letter where
  | char (c : Char)
  /-- A half of a surrogate pair: the code point `0xD800 + n`. -/
  | half (n : Fin 0x800)
  deriving Repr, DecidableEq, Inhabited

namespace Letter

instance : Coe Char Letter := ⟨.char⟩

/-- The number of a code point. -/
def point : Letter → Nat
  | .char c => c.toNat
  | .half n => 0xD800 + n.val

/-- The character that a code point is, if it is one. -/
def char? : Letter → Option Char
  | .char c => some c
  | .half _ => none

/-- The code point with a number, if there is one. -/
def ofPoint? (n : Nat) : Option Letter :=
  if n.isValidChar then some (.char (Char.ofNat n))
  else if h : 0xD800 ≤ n ∧ n < 0xE000 then some (.half ⟨n - 0xD800, by omega⟩)
  else none

/-- The character of a surrogate pair, given by its halves. -/
def join? : Letter → Letter → Option Char
  | .half high, .half low =>
    if high.val < 0x400 ∧ 0x400 ≤ low.val then
      some (Char.ofNat (0x10000 + high.val * 0x400 + (low.val - 0x400)))
    else none
  | _, _ => none

/-- Whether a code point is a character of a class. -/
def isIn (p : Char → Bool) (l : Letter) : Bool := l.char?.any p

@[simp] theorem char?_char (c : Char) : (char c).char? = some c := rfl

@[simp] theorem char?_half (n : Fin 0x800) : (half n).char? = none := rfl

/-- The characters of a class that code points begin with. -/
def leading (p : Char → Bool) (ls : List Letter) : List Char :=
  (ls.takeWhile (isIn p)).filterMap char?

end Letter

/-- A text from outside. -/
structure Text where
  letters : List Letter
  deriving Repr, DecidableEq, Inhabited

namespace Text

variable {s t : Text} {a b : String}

/-- The text of characters. -/
def ofChars (cs : List Char) : Text := ⟨cs.map .char⟩

/-- The text that a string is. -/
def ofString (a : String) : Text := ofChars a.toList

instance : Coe String Text := ⟨ofString⟩

instance : EmptyCollection Text := ⟨⟨[]⟩⟩

instance : Append Text := ⟨fun s t => ⟨s.letters ++ t.letters⟩⟩

/-- Whether a text is empty. -/
def isEmpty (t : Text) : Bool := t.letters.isEmpty

/-- The characters of a text, if it has nothing else. -/
def chars? (t : Text) : Option (List Char) := t.letters.mapM Letter.char?

/-- The string that a text is, if it is one. -/
def string? (t : Text) : Option String := t.chars?.map String.ofList

/-- Whether a text has no halves. -/
def isWhole (t : Text) : Bool := t.letters.all (·.char?.isSome)

/-- A text as it is shown where only characters can be: a mark stands for every half. -/
def shown (t : Text) : String := String.ofList (t.letters.map fun l => l.char?.getD '\uFFFD')

theorem letters_append (s t : Text) : (s ++ t).letters = s.letters ++ t.letters := rfl

theorem ofChars_injective : Function.Injective ofChars := fun _ _ h =>
  (List.map_inj_right fun _ _ h => Letter.char.inj h).1 (Text.mk.inj h)

@[simp] theorem letters_eq_nil_iff : t.letters = [] ↔ t = ∅ :=
  ⟨fun h => congrArg Text.mk h, fun h => congrArg Text.letters h⟩

@[simp] theorem isEmpty_iff : t.isEmpty = true ↔ t = ∅ := by
  rw [isEmpty, List.isEmpty_iff, letters_eq_nil_iff]

@[simp] theorem isEmpty_eq_false_iff : t.isEmpty = false ↔ t ≠ ∅ := by
  rw [← Bool.not_eq_true, isEmpty_iff]

@[simp] theorem ofChars_eq_empty_iff {cs : List Char} : ofChars cs = ∅ ↔ cs = [] := by
  rw [← letters_eq_nil_iff]
  exact List.map_eq_nil_iff

@[simp] theorem ofString_eq_empty_iff : ofString a = ∅ ↔ a = "" := by
  rw [ofString, ofChars_eq_empty_iff, String.toList_eq_nil_iff]

@[simp] theorem ofString_inj : ofString a = ofString b ↔ a = b :=
  ⟨fun h => String.toList_injective (ofChars_injective h), congrArg _⟩

@[simp] theorem ofString_beq : (ofString a == ofString b) = (a == b) := by
  rw [Bool.eq_iff_iff]
  simp

@[simp] theorem letters_ofString : (ofString a).letters = a.toList.map .char := rfl

@[simp] theorem isWhole_ofString : (ofString a).isWhole = true := by
  simp [isWhole]

@[simp] theorem isWhole_append : (s ++ t).isWhole = (s.isWhole && t.isWhole) := by
  simp [isWhole, letters_append]

@[simp] theorem isEmpty_ofString : (ofString a).isEmpty = a.isEmpty := by
  rw [Bool.eq_iff_iff]
  simp [isEmpty]

theorem ofString_append : ofString (a ++ b) = ofString a ++ ofString b :=
  congrArg Text.mk (by simp)

/-- The characters of a text are all it has. -/
theorem chars?_eq_some_iff {cs : List Char} : t.chars? = some cs ↔ t = ofChars cs := by
  obtain ⟨letters⟩ := t
  simp only [chars?, ofChars, Text.mk.injEq]
  induction letters generalizing cs with
  | nil => cases cs <;> simp
  | cons l rest ih =>
    cases l with
    | char c =>
      cases cs with
      | nil => simp [List.mapM_cons, Option.bind_eq_some_iff]
      | cons d ds =>
        simp only [List.mapM_cons, Letter.char?_char, Option.bind_eq_bind, Option.bind_some,
          Option.bind_eq_some_iff, ih, Option.pure_def, Option.some.injEq, List.cons.injEq,
          List.map_cons, Letter.char.injEq]
        constructor
        · rintro ⟨_, h, rfl, rfl⟩
          exact ⟨rfl, h⟩
        · rintro ⟨rfl, h⟩
          exact ⟨ds, h, rfl, rfl⟩
    | half n => cases cs <;> simp [List.mapM_cons]

/-- A text is a string when it is the text of that string. -/
theorem string?_eq_some_iff : t.string? = some a ↔ t = a := by
  simp only [string?, Option.map_eq_some_iff, chars?_eq_some_iff, ofString]
  constructor
  · rintro ⟨cs, rfl, rfl⟩
    simp
  · rintro rfl
    exact ⟨a.toList, rfl, by simp⟩

@[simp] theorem string?_ofString : (ofString a).string? = some a := string?_eq_some_iff.2 rfl

theorem isWhole_iff : t.isWhole = true ↔ ∃ a : String, t = a := by
  refine ⟨fun h => ?_, fun ⟨a, h⟩ => h ▸ isWhole_ofString⟩
  suffices hchars : ∃ cs : List Char, t.letters = cs.map .char by
    obtain ⟨cs, hcs⟩ := hchars
    exact ⟨String.ofList cs, congrArg Text.mk (by simpa using hcs)⟩
  obtain ⟨letters⟩ := t
  induction letters with
  | nil => exact ⟨[], rfl⟩
  | cons l rest ih =>
    obtain ⟨hl, hrest⟩ : l.char?.isSome = true ∧ (Text.mk rest).isWhole = true := by
      simpa [isWhole] using h
    obtain ⟨cs, hcs⟩ := ih hrest
    cases l with
    | char c => exact ⟨c :: cs, congrArg (.char c :: ·) hcs⟩
    | half n => cases hl

end Text

end Cascade
