import CampusBoard.Forms.Error
import CampusBoard.Transport

/-!
# Why an action fails

## Main definitions

* `CampusBoard.FlowError`: the reasons for which an action of a user fails.
* `CampusBoard.FlowError.message`: the text of a reason.
-/

set_option autoImplicit false

namespace CampusBoard

/-- Why an action of a user fails. -/
inductive FlowError
  /-- A value was refused before anything was sent. -/
  | validation (reason : ValidationError)
  /-- The call failed. -/
  | transport (reason : TransportError)
  /-- It came too soon after the last call. -/
  | limited
  /-- The user is not at the point for it. -/
  | notPermitted
  deriving DecidableEq, Repr

/-- The text of a reason. -/
def FlowError.message : FlowError → String
  | .validation reason => "validation error: " ++ reason.message
  | .transport reason => "transport error: " ++ reason.message
  | .limited => "rate limited"
  | .notPermitted => "action not permitted in current state"

end CampusBoard
