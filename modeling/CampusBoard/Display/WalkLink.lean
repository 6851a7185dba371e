import CampusBoard.Text.Component

/-!
# Links to walking directions

## Main definitions

* `CampusBoard.Display.walkLink`: the link to the way on foot from an address to the campus.
-/

set_option autoImplicit false

namespace CampusBoard.Display

/-- What stands in the link before the address. -/
def walkLinkStart : String := "https://www.google.com/maps/dir/?api=1&origin="

/-- What stands in the link after the address. -/
def walkLinkEnd : String := "&destination=WALC,+West+Lafayette,+IN&travelmode=walking"

/-- The link to the way on foot from an address to the campus. -/
def walkLink (address : String) : String :=
  walkLinkStart ++ Text.encodeComponent address ++ walkLinkEnd

end CampusBoard.Display
