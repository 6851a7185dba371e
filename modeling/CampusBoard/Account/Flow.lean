import CampusBoard.Account.Status
import CampusBoard.Call
import CampusBoard.Forms.Check

/-!
# Account flows

Eight actions sign a user up, in and out, or set a new password. Each is permitted at one point or
at all, checks what the user typed, makes one call, and on success leads to other statuses.

## Main definitions

* `CampusBoard.Flow`: the actions with what the user typed.
* `CampusBoard.Flow.required?`, `CampusBoard.Flow.check`, `CampusBoard.Flow.call`,
  `CampusBoard.Flow.clears`, `CampusBoard.Flow.sets`: what an action asks for and does.
-/

set_option autoImplicit false

namespace CampusBoard

/-- An action on an account with what the user typed. -/
inductive Flow
  /-- Signs in, to be completed by a code. -/
  | login (email password : String)
  /-- Signs up, to be completed by a code. -/
  | signup (email password confirm : String)
  /-- Asks for a code that allows a new password. -/
  | forgot (email : String)
  /-- Completes signing in. -/
  | verify (code : String)
  /-- Proves that a new password may be set. -/
  | verifyForget (code : String)
  /-- Sets a new password. -/
  | update (password : String)
  /-- Signs out and removes the session. -/
  | signout
  /-- Asks for another code, `countdown` seconds before that is allowed. -/
  | resend (countdown : Nat)
  deriving DecidableEq, Repr

namespace Flow

/-- The status without which an action is not permitted. -/
def required? : Flow → Option Status
  | .login _ _ | .signup _ _ _ | .forgot _ | .resend _ => none
  | .verify _ => some .verifying
  | .verifyForget _ => some .verifyingForgot
  | .update _ => some .verifyingUpdate
  | .signout => some .signedIn

/-- Whether an action has to wait for its own countdown. -/
def isCountingDown : Flow → Bool
  | .resend countdown => countdown != 0
  | _ => false

/-- The checks of what the user typed, in the order of the form. -/
def check (a : AccountSettings) : Flow → Forms.Check
  | .login email password => do
    Forms.email a email
    Forms.password a password
  | .signup email password confirm => do
    Forms.email a email
    Forms.password a password
    Forms.confirmation password confirm
  | .forgot email => Forms.email a email
  | .verify code => Forms.code a code
  | .verifyForget code => Forms.code a code
  | .update password => Forms.password a password
  | .signout => .ok ()
  | .resend _ => .ok ()

/-- What is sent to sign in or up. -/
def credentials (email password action : String) : Json :=
  .object [("email", .text email), ("password", .text password), ("action", .text action)]

/-- What is sent as a proof. -/
def token (value : String) : Json :=
  .object [("token", .text value)]

/-- The call of an action. -/
def call : Flow → Call
  | .login email password => .postJson "/authenticate" (credentials email password "login")
  | .signup email password _ => .postJson "/authenticate" (credentials email password "signup")
  | .forgot email => .postJson "/forgot" (token email)
  | .verify code => .postJson "/verify" (token code)
  | .verifyForget code => .postJson "/verify" (token code)
  | .update password => .postJson "/verify" (token password)
  | .signout => .delete "/delete"
  | .resend _ => .post "/resend"

/-- The status that no longer holds after an action. -/
def clears : Flow → Option Status
  | .login _ _ | .signup _ _ _ | .forgot _ | .resend _ => none
  | .verify _ => some .verifying
  | .verifyForget _ => some .verifyingForgot
  | .update _ => some .verifyingUpdate
  | .signout => some .signedIn

/-- The status that holds after an action. -/
def sets : Flow → Option Status
  | .login _ _ => some .verifying
  | .signup _ _ _ => some .verifying
  | .forgot _ => some .verifyingForgot
  | .verify _ => some .signedIn
  | .verifyForget _ => some .verifyingUpdate
  | .update _ => some .signedIn
  | .signout => none
  | .resend _ => none

end Flow

/-- Makes a status hold or not, if there is one to change. -/
def Statuses.setIfSome (status : Option Status) (value : Bool) (s : Statuses) : Statuses :=
  match status with
  | some status => s.set status value
  | .none => s

/-- The statuses after an action succeeded. -/
def Flow.transition (f : Flow) (s : Statuses) : Statuses :=
  (s.setIfSome f.clears false).setIfSome f.sets true

end CampusBoard
