import CampusBoard.Json.Basic
import CampusBoard.Transport

/-!
# Calls to a service

## Main definitions

* `CampusBoard.Call`: a call to a service, by its path.
* `CampusBoard.Service`: what answers calls.
-/

set_option autoImplicit false

namespace CampusBoard

/-- The methods of calls. -/
inductive Method
  /-- Sends something. -/
  | post
  /-- Removes something. -/
  | delete
  deriving DecidableEq, Repr

/-- The name of a method. -/
def Method.name : Method → String
  | .post => "POST"
  | .delete => "DELETE"

/-- A call to a service. -/
structure Call where
  /-- What is done. -/
  method : Method
  /-- Where it is done. -/
  path : String
  /-- What is sent along, if anything. -/
  body : Option Json

namespace Call

/-- A call that sends a value. -/
def postJson (path : String) (body : Json) : Call :=
  ⟨.post, path, some body⟩

/-- A call that sends nothing along. -/
def post (path : String) : Call :=
  ⟨.post, path, none⟩

/-- A call that removes something. -/
def delete (path : String) : Call :=
  ⟨.delete, path, none⟩

end Call

/-- What answers calls: success or a failure. -/
abbrev Service := Call → Except TransportError Unit

end CampusBoard
