import CampusBoard.Account.Flow
import CampusBoard.Cooldown
import CampusBoard.FlowError

/-!
# Sessions of an account

A session remembers at which points its user is, the last error, and the cool-down that all actions
share.

## Main definitions

* `CampusBoard.Session`: the state of a session.
* `CampusBoard.AccountRules`: the settings of accounts.
* `CampusBoard.Session.perform`: an action on a session.
* `CampusBoard.Session.run`: a sequence of actions.

## Design

An action goes through four gates in a fixed order: the cool-down, the status it asks for, the
checks of what was typed, and the call. Only a call starts the cool-down.
-/

set_option autoImplicit false

namespace CampusBoard

/-- The settings of accounts. -/
structure AccountRules where
  /-- The limits of the forms. -/
  forms : AccountSettings
  /-- The milliseconds between two calls. -/
  cooldown : Nat
  deriving DecidableEq, Repr

/-- The settings of accounts among all settings. -/
def AccountRules.ofSettings (s : Settings) : AccountRules :=
  ⟨s.account, s.limits.authCooldownMs.toNat⟩

/-- The state of a session. -/
structure Session where
  /-- The statuses that hold. -/
  statuses : Statuses
  /-- The last error, empty if there is none. -/
  error : String
  /-- The cool-down of all actions. -/
  cooldown : Cooldown
  deriving DecidableEq, Repr

/-- An action with what it did. -/
structure Attempt where
  /-- The session afterwards. -/
  session : Session
  /-- The calls that were made. -/
  sent : List Call
  /-- Whether the action succeeded. -/
  result : Except FlowError Unit

namespace Session

/-- A session before its first action. -/
def fresh : Session :=
  ⟨.none, "", .idle⟩

/-- Whether an action is permitted at the points at which the user is. -/
def permits (s : Session) (f : Flow) : Bool :=
  match f.required? with
  | some status => s.statuses.holds status
  | none => true

/-- The session after the reply to an action's call, and whether the action succeeded. -/
def settle (rules : AccountRules) (f : Flow) (s : Session) :
    Except TransportError Unit → Session × Except FlowError Unit
  | .ok _ => ({ s with error := "", statuses := f.transition s.statuses }, .ok ())
  | .error e =>
    ({ s with error := e.userMessage rules.forms.errorMaxChars.toNat }, .error (.transport e))

/-- Does an action at `now`. -/
def perform (rules : AccountRules) (service : Service) (now : Nat) (f : Flow) (s : Session) :
    Attempt :=
  if f.isCountingDown || s.cooldown.isActive now then ⟨s, [], .error .limited⟩
  else if !s.permits f then ⟨s, [], .error .notPermitted⟩
  else
    match f.check rules.forms with
    | .error e => ⟨{ s with error := e.message }, [], .error (.validation e)⟩
    | .ok _ =>
      let waiting := { s with cooldown := s.cooldown.engage now rules.cooldown }
      let (session, result) := settle rules f waiting (service f.call)
      ⟨session, [f.call], result⟩

/-- An action at a moment, with what would answer its call. -/
structure Event where
  /-- The moment in milliseconds. -/
  now : Nat
  /-- The action. -/
  flow : Flow
  /-- What would answer the call. -/
  service : Service

/-- The attempts of a sequence of actions. -/
def run (rules : AccountRules) (s : Session) : List Event → List Attempt
  | [] => []
  | e :: rest =>
    let attempt := s.perform rules e.service e.now e.flow
    attempt :: run rules attempt.session rest

end Session

end CampusBoard
