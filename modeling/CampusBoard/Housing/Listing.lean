import CampusBoard.Housing.Residence
import CampusBoard.Reviews.Ratings
import CampusBoard.Search.Sort

/-!
# Listings of residences

## Main definitions

* `CampusBoard.Listing`: a residence with its ratings and costs, as the index holds it.
* `CampusBoard.ListingSort`: what listings can be sorted on.
* `CampusBoard.Listing.read`, `CampusBoard.Listing.toJson`: the reader and the writer of a listing.
-/

set_option autoImplicit false

namespace CampusBoard

/-- What listings can be sorted on. -/
inductive ListingSort
  /-- The overall rating. -/
  | overallRating
  /-- The minutes to walk to the campus. -/
  | walkTimeMins
  /-- The lowest yearly cost. -/
  | costMin
  /-- The highest yearly cost. -/
  | costMax
  /-- The number of reviews. -/
  | reviewCount
  deriving DecidableEq, Repr

instance : Labelled ListingSort where
  kind := "housing sort"
  all := [.overallRating, .walkTimeMins, .costMin, .costMax, .reviewCount]
  label
    | .overallRating => "overall_rating"
    | .walkTimeMins => "walk_time_mins"
    | .costMin => "cost_min"
    | .costMax => "cost_max"
    | .reviewCount => "review_count"
  find?_label a := by cases a <;> decide

namespace ListingSort

/-- The words for a sort field. -/
def title : ListingSort → String
  | .overallRating => "Rating"
  | .walkTimeMins => "Walking Distance to Campus"
  | .costMin => "Lowest Cost"
  | .costMax => "Highest Cost"
  | .reviewCount => "Number of Reviews"

/-- The words for a direction when listings are sorted. -/
def directionTitle : SortDirection → String
  | .asc => "Low to High"
  | .desc => "High to Low"

end ListingSort

/-- A residence as the index holds it. -/
structure Listing where
  /-- The residence. -/
  id : Residence
  /-- The mean rating in hundredths of a star. -/
  overallRating : UInt16
  /-- The mean ratings by category in hundredths of a star. -/
  ratings : Ratings UInt16
  /-- The number of reviews. -/
  reviewCount : UInt32
  /-- The kind of building. -/
  housingType : HousingType
  /-- Whether it belongs to the campus. -/
  campusType : CampusType
  /-- The minutes to walk to the campus. -/
  walkTimeMins : UInt16
  /-- The lowest cost in thousands per year. -/
  costMin : UInt8
  /-- The highest cost in thousands per year. -/
  costMax : UInt8
  /-- The rough price. -/
  costSymbol : CostSymbol
  /-- The address. -/
  address : String
  deriving DecidableEq, Repr

namespace Listing

/-- The fields of a listing. -/
def shape : Decode.Shape Listing :=
  Decode.Shape.ofConstructor "Housing" Listing.mk
    |>.required "id" Decode.label
    |>.required "overall_rating" Decode.uint16
    |>.required "ratings" (Ratings.readOf Decode.uint16)
    |>.required "review_count" Decode.uint32
    |>.required "housing_type" Decode.label
    |>.required "campus_type" Decode.label
    |>.required "walk_time_mins" Decode.uint16
    |>.required "cost_min" Decode.uint8
    |>.required "cost_max" Decode.uint8
    |>.required "cost_symbol" Decode.label
    |>.required "address" Decode.text

/-- Reads a listing. -/
def read : Decode.Reader Listing := shape.read

/-- The listing as a JSON value. -/
def toJson (l : Listing) : Json :=
  .object [("id", Decode.ofLabel l.id), ("overall_rating", Decode.ofNat l.overallRating.toNat),
    ("ratings", l.ratings.toJson fun n => Decode.ofNat n.toNat),
    ("review_count", Decode.ofNat l.reviewCount.toNat),
    ("housing_type", Decode.ofLabel l.housingType), ("campus_type", Decode.ofLabel l.campusType),
    ("walk_time_mins", Decode.ofNat l.walkTimeMins.toNat),
    ("cost_min", Decode.ofNat l.costMin.toNat), ("cost_max", Decode.ofNat l.costMax.toNat),
    ("cost_symbol", Decode.ofLabel l.costSymbol), ("address", .text l.address)]

end Listing

end CampusBoard
