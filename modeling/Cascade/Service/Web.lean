import Cascade.Json.Body
import Cascade.Text.Utf8

/-!
# Requests to the service and its responses

A request has a method, a target, headers and a body; a response has a status, perhaps a JSON
document, and the identifier of the request. Names of headers do not depend on letter case.

The path of a request is the part of its target before a query, with escaped bytes put in their
place.
-/

namespace Cascade

/-- A request to the service. -/
structure WebRequest where
  method : String
  /-- The path and a query behind it. -/
  target : String
  headers : List (String × String) := []
  body : List UInt8 := []

/-- A response of the service. -/
structure WebResponse where
  status : Nat
  /-- The document, if the response is one. -/
  document : Option Value := none
  /-- The identifier of the request, if the response has it. -/
  requestId : Option String := none

namespace WebRequest

/-- The value of a header. -/
def header? (r : WebRequest) (name : String) : Option String :=
  let lower (s : String) : List Char := s.toList.map Char.toLower
  (r.headers.find? fun (n, _) => lower n == lower name).map Prod.snd

/-- The value of a header that is there and not empty. -/
def filledHeader? (r : WebRequest) (name : String) : Option String :=
  (r.header? name).filter (!·.isEmpty)

/-- The bytes of an escaped text: a percent sign and two digits are one byte. -/
def unescape : List Char → List UInt8
  | '%' :: a :: b :: rest =>
    match Text.hexValue? a, Text.hexValue? b with
    | some high, some low => UInt8.ofNat (16 * high + low) :: unescape rest
    | _, _ => Text.encodeUtf8 ['%'] ++ unescape (a :: b :: rest)
  | c :: rest => Text.encodeUtf8 [c] ++ unescape rest
  | [] => []

/-- The path of a request. -/
def path (r : WebRequest) : List Char :=
  let written := r.target.toList.takeWhile fun c => c ≠ '?' && c ≠ '#'
  '/' :: Text.decodeUtf8Leniently (unescape (written.dropWhile (· = '/')))

end WebRequest

end Cascade
