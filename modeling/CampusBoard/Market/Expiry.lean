import CampusBoard.Calendar.Date

/-!
# Countdown to the end of a sale

## Main definitions

* `CampusBoard.ExpiryColor`: the colour of a countdown.
* `CampusBoard.expiryLabel`: the text and the colour of a countdown.
-/

set_option autoImplicit false

namespace CampusBoard

/-- The colour of a countdown. -/
inductive ExpiryColor
  /-- The last day. -/
  | red
  /-- The day before the last. -/
  | yellow
  /-- Earlier than that. -/
  | green
  deriving DecidableEq, Repr

/-- The name of a colour. -/
def ExpiryColor.name : ExpiryColor → String
  | .red => "red"
  | .yellow => "yellow"
  | .green => "green"

/-- The days from `today` to `expires`; a day that has passed counts as today. -/
def daysLeft (expires today : Calendar.Date) : Nat :=
  (expires.dayNumber - today.dayNumber).toNat

/-- The text and the colour of the countdown to `expires`. -/
def expiryLabel (expires today : Calendar.Date) : String × ExpiryColor :=
  match daysLeft expires today with
  | 0 => ("Expires today!", .red)
  | 1 => ("Expires tommorow!", .yellow)
  | days => ("Expires in " ++ toString days ++ " days.", .green)

end CampusBoard
