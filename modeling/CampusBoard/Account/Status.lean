import CampusBoard.Labelled

/-!
# The statuses of an account

## Main definitions

* `CampusBoard.Status`: the points at which a user of an account can be.
* `CampusBoard.Statuses`: the statuses that hold, any number of them at once.
-/

set_option autoImplicit false

namespace CampusBoard

/-- A point at which a user of an account can be. -/
inductive Status
  /-- Signed in. -/
  | signedIn
  /-- A code was sent that completes signing in. -/
  | verifying
  /-- A code was sent that allows a new password. -/
  | verifyingForgot
  /-- A new password can be set. -/
  | verifyingUpdate
  deriving DecidableEq, Repr

instance : Labelled Status where
  kind := "status"
  all := [.signedIn, .verifying, .verifyingForgot, .verifyingUpdate]
  label
    | .signedIn => "signed_in"
    | .verifying => "verifying"
    | .verifyingForgot => "verifying_forgot"
    | .verifyingUpdate => "verifying_update"
  find?_label a := by cases a <;> decide

/-- The statuses that hold. -/
structure Statuses where
  /-- Whether the user is signed in. -/
  signedIn : Bool
  /-- Whether a code was sent that completes signing in. -/
  verifying : Bool
  /-- Whether a code was sent that allows a new password. -/
  verifyingForgot : Bool
  /-- Whether a new password can be set. -/
  verifyingUpdate : Bool
  deriving DecidableEq, Repr

namespace Statuses

/-- No status holds. -/
def none : Statuses :=
  ⟨false, false, false, false⟩

/-- Whether a status holds. -/
def holds (s : Statuses) : Status → Bool
  | .signedIn => s.signedIn
  | .verifying => s.verifying
  | .verifyingForgot => s.verifyingForgot
  | .verifyingUpdate => s.verifyingUpdate

/-- Makes a status hold or not. -/
def set (status : Status) (value : Bool) (s : Statuses) : Statuses :=
  match status with
  | .signedIn => { s with signedIn := value }
  | .verifying => { s with verifying := value }
  | .verifyingForgot => { s with verifyingForgot := value }
  | .verifyingUpdate => { s with verifyingUpdate := value }

/-- The statuses that hold, in their order of declaration. -/
def toList (s : Statuses) : List Status :=
  (Labelled.all : List Status).filter s.holds

/-- Setting one status leaves the others as they are. -/
theorem holds_set (status other : Status) (value : Bool) (s : Statuses) :
    (s.set status value).holds other = if other = status then value else s.holds other := by
  cases status <;> cases other <;> rfl

end Statuses

end CampusBoard
