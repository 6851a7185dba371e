import CampusBoard.Forms.Check
import CampusBoard.Housing.Residence
import CampusBoard.Reviews.Ratings

/-!
# Drafts of reviews

## Main definitions

* `CampusBoard.ReviewDraft`: a review while it is written.
* `CampusBoard.ReviewPayload`: a review that is complete and can be posted.
* `CampusBoard.ReviewDraft.complete`: from one to the other.
-/

set_option autoImplicit false

namespace CampusBoard

/-- A review while it is written. -/
structure ReviewDraft where
  /-- The residence, once it is chosen. -/
  housing : Option Residence
  /-- The rating of the whole, once it is chosen. -/
  overallRating : Option StarRating
  /-- The ratings by category, as far as they are chosen. -/
  ratings : Ratings (Option StarRating)
  /-- The text so far. -/
  description : String
  deriving DecidableEq, Repr

/-- A draft for a residence in which nothing else is chosen. -/
def ReviewDraft.blank (housing : Option Residence) : ReviewDraft :=
  ⟨housing, none, ⟨none, none, none, none, none⟩, ""⟩

/-- A review that is complete. -/
structure ReviewPayload where
  /-- The residence. -/
  housing : Residence
  /-- The rating of the whole. -/
  overallRating : StarRating
  /-- The ratings by category. -/
  ratings : Ratings StarRating
  /-- The text. -/
  description : String
  deriving DecidableEq, Repr

/-- A complete review as it is sent. -/
def ReviewPayload.toJson (p : ReviewPayload) : Json :=
  .object [("housing_id", Decode.ofLabel p.housing),
    ("overall_rating", Decode.ofStarRating p.overallRating),
    ("ratings", p.ratings.toJson Decode.ofStarRating), ("description", .text p.description)]

/-- A value that was chosen, or an error. -/
def chosen {α : Type} (value : Option α) (otherwise : ValidationError) :
    Except ValidationError α :=
  match value with
  | some a => .ok a
  | none => .error otherwise

/-- The ratings by category when all are chosen. -/
def Ratings.complete {α : Type} (r : Ratings (Option α)) : Option (Ratings α) := do
  let livingConditions ← r.livingConditions
  let location ← r.location
  let amenities ← r.amenities
  let value ← r.value
  let community ← r.community
  return ⟨livingConditions, location, amenities, value, community⟩

/-- The complete review of a draft. What is missing first in the order of the form decides. -/
def ReviewDraft.complete (reviews : ReviewSettings) (d : ReviewDraft) :
    Except ValidationError ReviewPayload := do
  let housing ← chosen d.housing .invalidHousing
  let overallRating ← chosen d.overallRating .invalidOverallRating
  let ratings ← chosen d.ratings.complete .invalidSubRating
  Forms.description reviews d.description
  return ⟨housing, overallRating, ratings, d.description⟩

end CampusBoard
