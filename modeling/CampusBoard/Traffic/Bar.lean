import CampusBoard.Decode.Record

/-!
# Bars of the traffic chart

## Main definitions

* `CampusBoard.Website`: the sites whose visitors are counted.
* `CampusBoard.TrafficBar`: one bar of the chart.
* `CampusBoard.TrafficBar.read`, `CampusBoard.TrafficBar.toJson`: its reader and its writer.
-/

set_option autoImplicit false

namespace CampusBoard

/-- The sites whose visitors are counted. -/
inductive Website
  /-- The marketplace. -/
  | swap
  /-- The short cuts. -/
  | cuts
  /-- The polls. -/
  | voting
  /-- The home page. -/
  | home
  deriving DecidableEq, Repr

instance : Labelled Website where
  kind := "website"
  all := [.swap, .cuts, .voting, .home]
  label
    | .swap => "BoilerSwap"
    | .cuts => "BoilerCuts"
    | .voting => "Voting"
    | .home => "Home"
  find?_label a := by cases a <;> decide

/-- One bar of the chart. -/
structure TrafficBar where
  /-- The site. -/
  website : Website
  /-- The number of visitors. -/
  visitors : UInt64
  /-- The colour in which the bar is drawn. -/
  color : String
  deriving DecidableEq, Repr

namespace TrafficBar

/-- The fields of a bar. -/
def shape : Decode.Shape TrafficBar :=
  Decode.Shape.ofConstructor "ChartData" TrafficBar.mk
    |>.required "website" Decode.label
    |>.required "visitors" Decode.uint64
    |>.required "color" Decode.text

/-- Reads a bar. -/
def read : Decode.Reader TrafficBar := shape.read

/-- The bar as a JSON value. -/
def toJson (b : TrafficBar) : Json :=
  .object [("website", Decode.ofLabel b.website), ("visitors", Decode.ofNat b.visitors.toNat),
    ("color", .text b.color)]

end TrafficBar

end CampusBoard
