/-!
# Cool-downs

A cool-down holds back calls until a moment. Moments and durations are counted in milliseconds.

## Main definitions

* `CampusBoard.Cooldown`: a cool-down.
* `CampusBoard.Cooldown.engage`, `CampusBoard.Cooldown.release`: start and end it.
* `CampusBoard.Cooldown.isActive`, `CampusBoard.Cooldown.remaining`: whether and how long it holds.

## Main results

* `CampusBoard.Cooldown.isActive_eq_true_iff`: it holds before the moment at which it lifts.
-/

set_option autoImplicit false

namespace CampusBoard

/-- A cool-down. -/
structure Cooldown where
  /-- The moment at which it lifts, if it was started. -/
  lifts : Option Nat
  deriving DecidableEq, Repr

namespace Cooldown

/-- A cool-down that was not started. -/
def idle : Cooldown :=
  ⟨none⟩

/-- Starts the cool-down at `now`. What was left of an earlier one no longer counts. -/
def engage (now duration : Nat) (_ : Cooldown) : Cooldown :=
  ⟨some (now + duration)⟩

/-- Ends the cool-down. -/
def release (_ : Cooldown) : Cooldown :=
  idle

/-- Whether the cool-down holds at `now`. It does no longer at the moment at which it lifts. -/
def isActive (now : Nat) (c : Cooldown) : Bool :=
  match c.lifts with
  | some moment => decide (now < moment)
  | none => false

/-- The time that is left at `now`. -/
def remaining (now : Nat) (c : Cooldown) : Nat :=
  match c.lifts with
  | some moment => moment - now
  | none => 0

/-- A cool-down holds before the moment at which it lifts. -/
theorem isActive_eq_true_iff (now : Nat) (c : Cooldown) :
    c.isActive now = true ↔ ∃ moment, c.lifts = some moment ∧ now < moment := by
  unfold isActive
  cases c.lifts <;> simp

end Cooldown

end CampusBoard
