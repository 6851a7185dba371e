import CampusBoard.Traffic.Bar

/-!
# The traffic chart

## Main definitions

* `CampusBoard.TrafficChart`: the bars of the chart, the tallest first.
* `CampusBoard.TrafficChart.setBars`: replaces the bars.
-/

set_option autoImplicit false

namespace CampusBoard

/-- The bars of the chart. -/
structure TrafficChart where
  /-- The bars, the tallest first. -/
  bars : List TrafficBar
  deriving DecidableEq, Repr

namespace TrafficChart

/-- A chart without bars. -/
def empty : TrafficChart :=
  ⟨[]⟩

/-- The bars ordered by their visitors, the most first. Bars with equally many visitors keep their
order. -/
def ordered (bars : List TrafficBar) : List TrafficBar :=
  bars.mergeSort fun a b => decide (b.visitors ≤ a.visitors)

/-- Replaces the bars. -/
def setBars (bars : List TrafficBar) (_ : TrafficChart) : TrafficChart :=
  ⟨ordered bars⟩

/-- The text of a bar in a report. -/
def barText (b : TrafficBar) : String :=
  "ChartData \x7b website: " ++ Labelled.label b.website ++ ", visitors: " ++
    toString b.visitors.toNat ++ ", color: " ++ Text.quoted b.color ++ " \x7d"

/-- The text of a chart in a report. -/
def reportText (c : TrafficChart) : String :=
  "TrafficState \x7b data: [" ++ ", ".intercalate (c.bars.map barText) ++ "], .. \x7d"

end TrafficChart

end CampusBoard
