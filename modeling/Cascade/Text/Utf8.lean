import Cascade.Text.Letter

/-!
# UTF-8

A text is written as bytes, one to four for each character. Reading goes character by character; a
stretch of bytes that begins no character, or a character that is cut short, is a *fault*, and
reading goes on behind it. `utf8Points` lists the numbers of characters and the faults; a strict
reader refuses faults, a lenient one puts a replacement character in the place of each.

Bytes may also encode half of a surrogate pair, as if it were a character. That is a fault, too,
except to a reader that passes halves on (`decodeUtf8Halves?`).
-/

namespace Cascade.Text

/-- A text as bytes. -/
def encodeUtf8 (s : List Char) : List UInt8 := s.flatMap String.utf8EncodeChar

/-- What a first byte says of a character of several bytes: how many follow, between which bounds
the second one lies, and the value so far. -/
structure Utf8Lead where
  more : Nat
  low : UInt8 := 0x80
  high : UInt8 := 0xBF
  value : Nat

/-- What a first byte of several says. Over-long forms, numbers that are too large and, unless
`halves` are let through, surrogates are kept out by the bounds of the second byte. -/
def utf8Lead? (halves : Bool) (b : UInt8) : Option Utf8Lead :=
  let n := b.toNat
  if 0xC2 ≤ n ∧ n ≤ 0xDF then some { more := 1, value := n - 0xC0 }
  else if n = 0xE0 then some { more := 2, low := 0xA0, value := 0 }
  else if n = 0xED then some { more := 2, high := if halves then 0xBF else 0x9F, value := 0xD }
  else if 0xE1 ≤ n ∧ n ≤ 0xEF then some { more := 2, value := n - 0xE0 }
  else if n = 0xF0 then some { more := 3, low := 0x90, value := 0 }
  else if n = 0xF4 then some { more := 3, high := 0x8F, value := 4 }
  else if 0xF1 ≤ n ∧ n ≤ 0xF3 then some { more := 3, value := n - 0xF0 }
  else none

/-- The value that the bytes behind a first one complete, if they do, and the bytes behind those
that belong to it. -/
def continueUtf8 (low high : UInt8) (value : Nat) : Nat → List UInt8 → Option Nat × List UInt8
  | 0, bytes => (some value, bytes)
  | _ + 1, [] => (none, [])
  | more + 1, b :: rest =>
    if low ≤ b ∧ b ≤ high then
      continueUtf8 0x80 0xBF (value * 64 + (b.toNat - 0x80)) more rest
    else (none, b :: rest)

theorem length_continueUtf8_le (low high : UInt8) (value more : Nat) (bytes : List UInt8) :
    (continueUtf8 low high value more bytes).2.length ≤ bytes.length := by
  induction more generalizing low high value bytes with
  | zero => simp [continueUtf8]
  | succ more ih =>
    cases bytes with
    | nil => simp [continueUtf8]
    | cons b rest =>
      unfold continueUtf8
      split
      · exact Nat.le_succ_of_le (ih _ _ _ _)
      · exact Nat.le_refl _

/-- The numbers of the characters that bytes write, `none` for each fault. -/
def utf8Points (halves : Bool) : List UInt8 → List (Option Nat)
  | [] => []
  | b :: rest =>
    if b < 0x80 then some b.toNat :: utf8Points halves rest
    else
      match utf8Lead? halves b with
      | none => none :: utf8Points halves rest
      | some lead =>
        let next := continueUtf8 lead.low lead.high lead.value lead.more rest
        next.1 :: utf8Points halves next.2
termination_by bytes => bytes.length
decreasing_by
  · simp
  · simp
  · have := length_continueUtf8_le lead.low lead.high lead.value lead.more rest
    simp
    omega

/-- The text that bytes write, if they are free of faults. -/
def decodeUtf8? (bytes : List UInt8) : Option (List Char) :=
  (utf8Points false bytes).mapM (·.map Char.ofNat)

/-- The text that bytes write, with a replacement character for each fault. -/
def decodeUtf8Leniently (bytes : List UInt8) : List Char :=
  (utf8Points false bytes).map fun point => (point.map Char.ofNat).getD '\uFFFD'

/-- The text that bytes write, halves of surrogate pairs among them, if they are free of other
faults. -/
def decodeUtf8Halves? (bytes : List UInt8) : Option (List Letter) :=
  (utf8Points true bytes).mapM (·.bind Letter.ofPoint?)

/-- The text of a strict reading is that of a lenient one. -/
theorem decodeUtf8Leniently_of_strict {bytes : List UInt8} {s : List Char}
    (h : decodeUtf8? bytes = some s) : decodeUtf8Leniently bytes = s := by
  unfold decodeUtf8? at h
  unfold decodeUtf8Leniently
  generalize utf8Points false bytes = points at h
  induction points generalizing s with
  | nil => simpa using h
  | cons p rest ih =>
    cases p with
    | none => simp [List.mapM_cons] at h
    | some n =>
      simp only [List.mapM_cons, Option.map_some, Option.bind_eq_bind, Option.bind_some] at h
      obtain ⟨t, ht, hs⟩ := Option.bind_eq_some_iff.1 h
      cases hs
      simpa using ih ht

end Cascade.Text
