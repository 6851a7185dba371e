/-!
# Labels of ratings and costs

Ratings are stored in hundredths of a star and shown on a scale from zero to five.

## Main definitions

* `CampusBoard.Display.fiveScale`: a rating with as many places as it needs.
* `CampusBoard.Display.listingRating`: a rating with two places.
* `CampusBoard.Display.reviewRating`: a rating in whole stars.
* `CampusBoard.Display.cost`: the yearly cost of a residence.
-/

set_option autoImplicit false

namespace CampusBoard.Display

/-- The greatest rating in hundredths of a star. -/
def maxHundredths : Nat := 500

/-- The rating that is shown, in hundredths of a star. -/
def hundredths (rating : UInt16) : Nat :=
  min rating.toNat maxHundredths

/-- The rating in stars, with one or two places, the second only if it is not zero. -/
def fiveScale (rating : UInt16) : String :=
  let h := hundredths rating
  let second := if h % 10 = 0 then "" else toString (h % 10)
  toString (h / 100) ++ "." ++ toString (h / 10 % 10) ++ second

/-- The rating in stars with two places. -/
def listingRating (rating : UInt16) : String :=
  let h := hundredths rating
  toString (h / 100) ++ "." ++ toString (h / 10 % 10) ++ toString (h % 10)

/-- The rating in whole stars, a half going up. -/
def reviewRating (rating : UInt16) : String :=
  toString ((hundredths rating + 50) / 100)

/-- A cost of at least one thousand. -/
def shownCost (thousands : UInt8) : Nat :=
  max 1 thousands.toNat

/-- The yearly cost between two bounds in thousands, which may come in either order. -/
def cost (first second : UInt8) : String :=
  let low := min (shownCost first) (shownCost second)
  let high := max (shownCost first) (shownCost second)
  if low = high then "Around $" ++ toString low ++ ",000 per year"
  else "Around $" ++ toString low ++ ",000 - $" ++ toString high ++ ",000 per year"

end CampusBoard.Display
