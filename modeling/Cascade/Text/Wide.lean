import Cascade.Text.Letter

/-!
# UTF-16 and UTF-32

In these encodings a text is a sequence of units of two or four bytes, the most significant byte
first or last. A character outside the first plane takes two units of UTF-16; a unit that could be
half of such a character but has no other half beside it is read as that half.
-/

namespace Cascade.Text

/-- A number from its bytes, the most significant one first or last. -/
def unitOfBytes (bigEndian : Bool) (bytes : List UInt8) : Nat :=
  (if bigEndian then bytes else bytes.reverse).foldl (fun n b => n * 256 + b.toNat) 0

/-- The units of two bytes; `none` if one is cut short. -/
def units16? (bigEndian : Bool) : List UInt8 → Option (List Nat)
  | [] => some []
  | a :: b :: rest => (units16? bigEndian rest).map (unitOfBytes bigEndian [a, b] :: ·)
  | [_] => none

/-- The units of four bytes; `none` if one is cut short. -/
def units32? (bigEndian : Bool) : List UInt8 → Option (List Nat)
  | [] => some []
  | a :: b :: c :: d :: rest =>
    (units32? bigEndian rest).map (unitOfBytes bigEndian [a, b, c, d] :: ·)
  | _ => none

/-- Code points with the surrogate pairs among them joined. -/
def joinPairs : List Letter → List Letter
  | a :: b :: rest =>
    match a.join? b with
    | some c => .char c :: joinPairs rest
    | none => a :: joinPairs (b :: rest)
  | ls => ls

/-- The text that bytes write in UTF-16. -/
def decodeUtf16? (bigEndian : Bool) (bytes : List UInt8) : Option (List Letter) :=
  (units16? bigEndian bytes).bind fun units => (units.mapM Letter.ofPoint?).map joinPairs

/-- The text that bytes write in UTF-32. -/
def decodeUtf32? (bigEndian : Bool) (bytes : List UInt8) : Option (List Letter) :=
  (units32? bigEndian bytes).bind (·.mapM Letter.ofPoint?)

end Cascade.Text
