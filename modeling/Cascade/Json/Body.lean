import Cascade.Json.Reader
import Cascade.Text.Utf8
import Cascade.Text.Wide

/-!
# JSON documents as bytes

A document says nothing of its encoding, but it begins with characters of ASCII, or with a byte
order mark. So the places of the zero bytes among the first four tell the encodings apart. Whatever
the encoding, halves of surrogate pairs that bytes encode by themselves are let through.
-/

namespace Cascade.Json

/-- Why bytes cannot be read as a document. -/
inductive BodyError where
  /-- The bytes are no text. -/
  | undecodable
  | unreadable (error : ReadError)
  deriving Repr, DecidableEq

/-- The text of a document. -/
def textOfBody? (bytes : List UInt8) : Option (List Letter) :=
  match bytes with
  | 0x00 :: 0x00 :: 0xFE :: 0xFF :: rest => Text.decodeUtf32? true rest
  | 0xFF :: 0xFE :: 0x00 :: 0x00 :: rest => Text.decodeUtf32? false rest
  | 0xFE :: 0xFF :: rest => Text.decodeUtf16? true rest
  | 0xFF :: 0xFE :: rest => Text.decodeUtf16? false rest
  | 0xEF :: 0xBB :: 0xBF :: rest => Text.decodeUtf8Halves? rest
  | a :: b :: c :: d :: _ =>
    if a = 0 then if b = 0 then Text.decodeUtf32? true bytes else Text.decodeUtf16? true bytes
    else if b = 0 then
      if c = 0 ∧ d = 0 then Text.decodeUtf32? false bytes else Text.decodeUtf16? false bytes
    else Text.decodeUtf8Halves? bytes
  | [a, b] =>
    if a = 0 then Text.decodeUtf16? true bytes
    else if b = 0 then Text.decodeUtf16? false bytes
    else Text.decodeUtf8Halves? bytes
  | _ => Text.decodeUtf8Halves? bytes

/-- The value of a document. -/
def readBody (bytes : List UInt8) : Except BodyError Value :=
  match textOfBody? bytes with
  | none => .error .undecodable
  | some s => (read s).mapError .unreadable

end Cascade.Json
