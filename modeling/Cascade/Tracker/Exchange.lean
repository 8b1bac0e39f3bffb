import Cascade.Value

/-!
# Requests to the tracker

The tracker is spoken to in requests and responses. A request that is not answered was lost on the
way, which may pass, or broke off for a reason that is none of the connection.

A `Transport` answers a request in view of all requests before it; so it may answer the same request
differently each time.
-/

namespace Cascade.Tracker

/-- What a request asks for. -/
inductive Verb where
  | get
  | patch
  deriving Repr, DecidableEq, Inhabited

/-- A verb by name. -/
def Verb.word : Verb → String
  | .get => "GET"
  | .patch => "PATCH"

/-- A request. -/
structure Request where
  verb : Verb
  url : Text
  parameters : List (String × String) := []
  body : Option Value := none
  headers : List (String × String) := []
  deriving Inhabited

namespace Request

/-- Named texts as an entry, if there are any. -/
def textsEntry (name : String) (texts : List (String × String)) : Entries :=
  let entries : Entries := texts.map fun (key, value) => (key, .str value)
  if texts.isEmpty then [] else [(name, .object entries)]

/-- A request as data. -/
def toValue (r : Request) : Value :=
  let body : Entries := r.body.toList.map (("json", ·))
  .object (("method", .str r.verb.word) :: ("url", .str r.url) ::
    (textsEntry "params" r.parameters ++ body ++ textsEntry "headers" r.headers))

end Request

/-- A response. -/
structure Response where
  status : Int
  body : List UInt8
  deriving Repr, DecidableEq, Inhabited

/-- Whether the request was served. -/
def Response.isSuccess (r : Response) : Bool := 200 ≤ r.status && r.status < 300

/-- A failure that has nothing to do with the connection. -/
structure Mishap where
  /-- The kind of failure. -/
  name : String
  message : String
  /-- Whether the kind is that of values that cannot be used. -/
  isBadValue : Bool := false
  deriving Repr, DecidableEq, Inhabited

/-- What becomes of a request. -/
inductive Reply where
  | answered (response : Response)
  /-- The connection failed. -/
  | disconnected (message : String)
  | broken (mishap : Mishap)
  deriving Repr, DecidableEq

/-- What answers requests, knowing the requests before. -/
abbrev Transport := List Request → Request → Reply

end Cascade.Tracker
