import CampusBoard.Call

/-!
# Requests and replies

## Main definitions

* `CampusBoard.Http.Request`, `CampusBoard.Http.Reply`: the two kinds of messages.
* `CampusBoard.Http.Network`: what answers requests.
-/

set_option autoImplicit false

namespace CampusBoard.Http

/-- Names with their values. The names are in lower case. -/
abbrev Headers := List (String × String)

/-- All values under a name. -/
def Headers.valuesOf (name : String) (headers : Headers) : List String :=
  (headers.filter fun h => h.1 = name).map Prod.snd

/-- What is sent. -/
structure Request where
  /-- What is done. -/
  method : Method
  /-- The whole address. -/
  url : String
  /-- What is said beside the body. -/
  headers : Headers
  /-- What is sent along, if anything. -/
  body : Option Json

/-- What comes back. -/
structure Reply where
  /-- Whether it worked, as a number. -/
  status : Nat
  /-- What is said beside the body. -/
  headers : Headers
  /-- The body as text. -/
  body : String
  deriving DecidableEq, Repr

/-- Whether a reply reports success. -/
def Reply.isSuccess (r : Reply) : Bool :=
  decide (200 ≤ r.status) && decide (r.status ≤ 299)

/-- What answers requests; nothing comes back when it cannot be reached. -/
abbrev Network := Request → Option Reply

/-- A network in which nothing can be reached. -/
def Network.unreachable : Network := fun _ => none

/-- What has to be said beside a body. -/
def contentHeaders (body : Option Json) : Headers :=
  match body with
  | some _ => [("content-type", "application/json")]
  | none => []

end CampusBoard.Http
