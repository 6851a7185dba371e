import CampusBoard.Housing.Residence
import CampusBoard.Reviews.Ratings
import CampusBoard.Search.Sort

/-!
# Reviews

## Main definitions

* `CampusBoard.Review`: a review as the index of its residence holds it.
* `CampusBoard.ReviewSort`: what reviews can be sorted on.
* `CampusBoard.Review.read`, `CampusBoard.Review.toJson`: the reader and the writer of a review.
-/

set_option autoImplicit false

namespace CampusBoard

/-- What reviews can be sorted on. -/
inductive ReviewSort
  /-- The day of the review. -/
  | date
  deriving DecidableEq, Repr

instance : Labelled ReviewSort where
  kind := "review sort"
  all := [.date]
  label
    | .date => "date"
  find?_label a := by cases a; decide

/-- The words for a direction when reviews are sorted. -/
def ReviewSort.directionTitle : SortDirection → String
  | .asc => "Oldest First"
  | .desc => "Most Recent"

/-- A review as the index of its residence holds it. -/
structure Review where
  /-- The identifier, if the index gives one. -/
  id : Option ReviewId
  /-- The residence. -/
  housingId : Residence
  /-- The rating of the whole. -/
  overallRating : StarRating
  /-- The ratings by category. -/
  ratings : Ratings StarRating
  /-- The day, if the index gives one. -/
  date : Option String
  /-- The text of the review. -/
  description : String
  /-- The number of readers who found it helpful, if the index gives one. -/
  thumbsUp : Option UInt64
  /-- The number of readers who did not find it helpful, if the index gives one. -/
  thumbsDown : Option UInt64
  deriving DecidableEq, Repr

namespace Review

/-- The fields of a review. -/
def shape : Decode.Shape Review :=
  Decode.Shape.ofConstructor "Review" Review.mk
    |>.optional "id" Decode.reviewId
    |>.required "housing_id" Decode.label
    |>.required "overall_rating" Decode.starRating
    |>.required "ratings" (Ratings.readOf Decode.starRating)
    |>.optional "date" Decode.text
    |>.required "description" Decode.text
    |>.optional "thumbs_up" Decode.uint64
    |>.optional "thumbs_down" Decode.uint64

/-- Reads a review. -/
def read : Decode.Reader Review := shape.read

/-- The review as a JSON value; what is absent has no member. -/
def toJson (r : Review) : Json :=
  .object (Decode.member? "id" (fun id => .text id.text) r.id ++
    [("housing_id", Decode.ofLabel r.housingId),
      ("overall_rating", Decode.ofStarRating r.overallRating),
      ("ratings", r.ratings.toJson Decode.ofStarRating)] ++
    Decode.member? "date" .text r.date ++
    [("description", .text r.description)] ++
    Decode.member? "thumbs_up" (fun n => Decode.ofNat n.toNat) r.thumbsUp ++
    Decode.member? "thumbs_down" (fun n => Decode.ofNat n.toNat) r.thumbsDown)

end Review

end CampusBoard
