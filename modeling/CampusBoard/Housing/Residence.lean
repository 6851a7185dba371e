import CampusBoard.Labelled

/-!
# Residences

## Main definitions

* `CampusBoard.Residence`: the residences that are listed and reviewed.
* `CampusBoard.Residence.name`: the full name of a residence.
* `CampusBoard.CampusType`, `CampusBoard.HousingType`, `CampusBoard.CostSymbol`: what residences
  are grouped by.
-/

set_option autoImplicit false

namespace CampusBoard

/-- What kind of building a residence is. -/
inductive HousingType
  /-- A residence hall. -/
  | dorm
  /-- A building of apartments. -/
  | apartment
  deriving DecidableEq, Repr

instance : Labelled HousingType where
  kind := "housing type"
  all := [.dorm, .apartment]
  label
    | .dorm => "Dorm"
    | .apartment => "Apartment"
  find?_label a := by cases a <;> decide

/-- Whether a residence belongs to the campus. -/
inductive CampusType
  /-- On the campus. -/
  | onCampus
  /-- Off the campus. -/
  | offCampus
  deriving DecidableEq, Repr

instance : Labelled CampusType where
  kind := "campus type"
  all := [.onCampus, .offCampus]
  label
    | .onCampus => "On-Campus"
    | .offCampus => "Off-Campus"
  find?_label a := by cases a <;> decide

/-- The rough price of a residence. -/
inductive CostSymbol
  /-- Low. -/
  | low
  /-- Medium. -/
  | medium
  /-- High. -/
  | high
  deriving DecidableEq, Repr

instance : Labelled CostSymbol where
  kind := "cost symbol"
  all := [.low, .medium, .high]
  label
    | .low => "$"
    | .medium => "$$"
    | .high => "$$$"
  find?_label a := by cases a <;> decide

/-- The residences. The label of a residence also names the index of its reviews. -/
inductive Residence
  /-- Cary Quadrangle. -/
  | caryQuad
  /-- McCutcheon Hall. -/
  | mcCutcheon
  /-- Tarkington Hall. -/
  | tarkington
  /-- Wiley Hall. -/
  | wiley
  /-- Owen Hall. -/
  | owen
  /-- Shreve Hall. -/
  | shreve
  /-- Earhart Hall. -/
  | earhart
  /-- Harrison Hall. -/
  | harrison
  /-- Hillenbrand Hall. -/
  | hillenbrand
  /-- Meredith Hall. -/
  | meredith
  /-- Meredith South. -/
  | meredithSouth
  /-- Windsor Halls. -/
  | windsor
  /-- First Street Towers. -/
  | firstStreet
  /-- Hilltop Apartments. -/
  | hilltop
  /-- Winifred Parker Hall. -/
  | winifred
  /-- Frieda Parker Hall. -/
  | frieda
  /-- Hawkins Hall. -/
  | hawkins
  /-- Fuse Apartments. -/
  | fuse
  /-- Aspire at Discovery Park. -/
  | aspire
  /-- 3rd and West. -/
  | thirdAndWest
  /-- Benchmark II. -/
  | benchmarkTwo
  /-- Grant Street Station 333. -/
  | grant333
  /-- Provenance Apartments. -/
  | provenance
  /-- 414 Russell Street. -/
  | russell414
  /-- 410 Steely Street. -/
  | steely410
  /-- 125 Waldron Street. -/
  | waldron125
  /-- 19 Waldron Street. -/
  | waldron19
  /-- Waldron Square. -/
  | waldronSquare
  /-- Honors College Residences. -/
  | honorsCollegeResidences
  /-- Hub on Campus. -/
  | hub
  /-- Rise on Chauncey. -/
  | rise
  /-- Chauncey Square Apartments. -/
  | chauncey
  /-- Lark West Lafayette. -/
  | lark
  /-- Alight West Lafayette. -/
  | allight
  /-- Redpoint West Lafayette. -/
  | redpoint
  /-- Verve West Lafayette. -/
  | verve
  /-- River Market Apartments. -/
  | river
  /-- Morris Rentals. -/
  | morris
  deriving DecidableEq, Repr

instance : Labelled Residence where
  kind := "housing id"
  all := [.caryQuad, .mcCutcheon, .tarkington, .wiley, .owen, .shreve, .earhart, .harrison,
    .hillenbrand, .meredith, .meredithSouth, .windsor, .firstStreet, .hilltop, .winifred, .frieda,
    .hawkins, .fuse, .aspire, .thirdAndWest, .benchmarkTwo, .grant333, .provenance, .russell414,
    .steely410, .waldron125, .waldron19, .waldronSquare, .honorsCollegeResidences, .hub, .rise,
    .chauncey, .lark, .allight, .redpoint, .verve, .river, .morris]
  label
    | .caryQuad => "cary-quad"
    | .mcCutcheon => "mc-cutcheon"
    | .tarkington => "tarkington"
    | .wiley => "wiley"
    | .owen => "owen"
    | .shreve => "shreve"
    | .earhart => "earhart"
    | .harrison => "harrison"
    | .hillenbrand => "hillenbrand"
    | .meredith => "meredith"
    | .meredithSouth => "meredith-south"
    | .windsor => "windsor"
    | .firstStreet => "first-street"
    | .hilltop => "hilltop"
    | .winifred => "winifred"
    | .frieda => "frieda"
    | .hawkins => "hawkins"
    | .fuse => "fuse"
    | .aspire => "aspire"
    | .thirdAndWest => "3rd-and-west"
    | .benchmarkTwo => "benchmark-ii"
    | .grant333 => "grant-333"
    | .provenance => "provenance"
    | .russell414 => "russell-414"
    | .steely410 => "steely-410"
    | .waldron125 => "waldron-125"
    | .waldron19 => "waldron-19"
    | .waldronSquare => "waldron-square"
    | .honorsCollegeResidences => "honors-college-residences"
    | .hub => "hub"
    | .rise => "rise"
    | .chauncey => "chauncey"
    | .lark => "lark"
    | .allight => "allight"
    | .redpoint => "redpoint"
    | .verve => "verve"
    | .river => "river"
    | .morris => "morris"
  find?_label a := by cases a <;> decide

namespace Residence

/-- The full name of a residence. -/
def name : Residence → String
  | .caryQuad => "Cary Quadrangle"
  | .mcCutcheon => "McCutcheon Hall"
  | .tarkington => "Tarkington Hall"
  | .wiley => "Wiley Hall"
  | .owen => "Owen Hall"
  | .shreve => "Shreve Hall"
  | .earhart => "Earhart Hall"
  | .harrison => "Harrison Hall"
  | .hillenbrand => "Hillenbrand Hall"
  | .meredith => "Meredith Hall"
  | .meredithSouth => "Meredith South"
  | .windsor => "Windsor Halls"
  | .firstStreet => "First Street Towers"
  | .hilltop => "Hilltop Apartments"
  | .winifred => "Winifred Parker Hall"
  | .frieda => "Frieda Parker Hall"
  | .hawkins => "Hawkins Hall"
  | .fuse => "Fuse Apartments"
  | .aspire => "Aspire at Discovery Park"
  | .thirdAndWest => "3rd and West"
  | .benchmarkTwo => "Benchmark II"
  | .grant333 => "Grant Street Station 333"
  | .provenance => "Provenance Apartments"
  | .russell414 => "414 Russell Street"
  | .steely410 => "410 Steely Street"
  | .waldron125 => "125 Waldron Street"
  | .waldron19 => "19 Waldron Street"
  | .waldronSquare => "Waldron Square"
  | .honorsCollegeResidences => "Honors College Residences"
  | .hub => "Hub on Campus"
  | .rise => "Rise on Chauncey"
  | .chauncey => "Chauncey Square Apartments"
  | .lark => "Lark West Lafayette"
  | .allight => "Alight West Lafayette"
  | .redpoint => "Redpoint West Lafayette"
  | .verve => "Verve West Lafayette"
  | .river => "River Market Apartments"
  | .morris => "Morris Rentals"

/-- Whether a residence belongs to the campus. -/
def campusType : Residence → CampusType
  | .hub | .rise | .chauncey | .lark | .allight | .redpoint | .verve | .river | .morris =>
    .offCampus
  | _ => .onCampus

end Residence

end CampusBoard
