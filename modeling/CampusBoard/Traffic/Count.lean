/-!
# Labels of visitor counts

A count from a thousand on is shown in the largest fitting unit with one place, a half going up.

## Main definitions

* `CampusBoard.CountUnit`: the units.
* `CampusBoard.countLabel`: the label of a count.
-/

set_option autoImplicit false

namespace CampusBoard

/-- The units of large counts. -/
inductive CountUnit
  /-- Thousands. -/
  | thousand
  /-- Millions. -/
  | million
  /-- Billions. -/
  | billion
  deriving DecidableEq, Repr

namespace CountUnit

/-- The number that a unit stands for. -/
def size : CountUnit → Nat
  | .thousand => 1000
  | .million => 1000000
  | .billion => 1000000000

/-- The letter of a unit. -/
def letter : CountUnit → String
  | .thousand => "K"
  | .million => "M"
  | .billion => "B"

/-- The largest unit not above `count`. -/
def of? (count : Nat) : Option CountUnit :=
  [CountUnit.billion, .million, .thousand].find? fun u => u.size ≤ count

/-- The count in tenths of a unit, a half going up. -/
def tenths (u : CountUnit) (count : Nat) : Nat :=
  (count * 10 + u.size / 2) / u.size

end CountUnit

/-- The label of a count. -/
def countLabel (count : UInt64) : String :=
  match CountUnit.of? count.toNat with
  | some u =>
    let t := u.tenths count.toNat
    toString (t / 10) ++ "." ++ toString (t % 10) ++ u.letter
  | none => toString count.toNat

end CampusBoard
