import CampusBoard.Text.Quoted

/-!
# What is wrong with a form value

## Main definitions

* `CampusBoard.ValidationError`: the reasons for which a value is refused before anything is sent.
* `CampusBoard.ValidationError.message`: the text shown to the user.
-/

set_option autoImplicit false

namespace CampusBoard

/-- A reason for which a value is refused. -/
inductive ValidationError
  /-- The email is no address on the configured domain, or too long. -/
  | invalidEmail
  /-- The password is shorter or longer than allowed. -/
  | passwordLength (min max : Nat)
  /-- The password and its confirmation differ. -/
  | passwordMismatch
  /-- The code is not made of the configured number of digits. -/
  | invalidCode (length : Nat)
  /-- No residence was chosen. -/
  | invalidHousing
  /-- No overall rating was chosen. -/
  | invalidOverallRating
  /-- One of the categories has no rating. -/
  | invalidSubRating
  /-- The description is shorter or longer than allowed. -/
  | invalidDescription (min max : Nat)
  /-- The text names no member of a vocabulary. -/
  | unknownValue (kind value : String)
  deriving DecidableEq, Repr

/-- The text shown to the user. -/
def ValidationError.message : ValidationError → String
  | .invalidEmail => "Email must be a Purdue address"
  | .passwordLength min _ => "Password must be " ++ toString min ++ "+ characters"
  | .passwordMismatch => "Passwords do not match"
  | .invalidCode length => "Only " ++ toString length ++ " numbers"
  | .invalidHousing => "Invalid housing"
  | .invalidOverallRating => "Invalid overall rating"
  | .invalidSubRating => "Invalid sub-rating"
  | .invalidDescription _ _ => "Invalid description"
  | .unknownValue kind value => "unknown " ++ kind ++ ": " ++ Text.quoted value

end CampusBoard
