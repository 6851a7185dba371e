import CampusBoard.Call
import CampusBoard.Cooldown
import CampusBoard.FlowError
import CampusBoard.Reviews.Draft

/-!
# The desk for reviews

A desk posts reviews, with a pause between two of them, and remembers for which residence the next
one is.

## Main definitions

* `CampusBoard.Desk`: the state of a desk.
* `CampusBoard.Desk.prefill`, `CampusBoard.Desk.submit`: the operations.
-/

set_option autoImplicit false

namespace CampusBoard

/-- The settings of a desk. -/
structure DeskRules where
  /-- The limits of reviews. -/
  reviews : ReviewSettings
  /-- The milliseconds between two posts. -/
  cooldown : Nat
  /-- The greatest length of an error that is shown. -/
  errorMaxChars : Nat
  deriving DecidableEq, Repr

/-- The settings of a desk among all settings. -/
def DeskRules.ofSettings (s : Settings) : DeskRules :=
  ⟨s.reviews, s.limits.postCooldownMs.toNat, s.account.errorMaxChars.toNat⟩

/-- The state of a desk. -/
structure Desk where
  /-- The residence for which the next review is. -/
  housing : Option Residence
  /-- The last error, empty if there is none. -/
  postError : String
  /-- The pause after a post. -/
  cooldown : Cooldown
  deriving DecidableEq, Repr

/-- A submission with what it did. -/
structure Submission where
  /-- The desk afterwards. -/
  desk : Desk
  /-- The calls that were made. -/
  sent : List Call
  /-- The review that was posted, or why none was. -/
  result : Except FlowError ReviewPayload

namespace Desk

/-- A desk before its first review. -/
def fresh : Desk :=
  ⟨none, "", .idle⟩

/-- Remembers the residence for which the next review is. -/
def prefill (residence : Residence) (d : Desk) : Desk :=
  { d with housing := some residence }

/-- A draft for the residence that the desk remembers. -/
def draft (d : Desk) : ReviewDraft :=
  .blank d.housing

/-- The call that posts a review. -/
def call (p : ReviewPayload) : Call :=
  .postJson "/review" p.toJson

/-- Posts the review of a draft at `now`, if it is complete and the pause is over. -/
def submit (rules : DeskRules) (service : Service) (now : Nat) (draft : ReviewDraft) (d : Desk) :
    Submission :=
  if d.cooldown.isActive now then ⟨d, [], .error .limited⟩
  else
    match draft.complete rules.reviews with
    | .error e => ⟨{ d with postError := e.message }, [], .error (.validation e)⟩
    | .ok payload =>
      let waiting := { d with cooldown := d.cooldown.engage now rules.cooldown }
      match service (call payload) with
      | .ok _ => ⟨{ waiting with postError := "" }, [call payload], .ok payload⟩
      | .error e =>
        ⟨{ waiting with postError := e.userMessage rules.errorMaxChars }, [call payload],
          .error (.transport e)⟩

end Desk

end CampusBoard
