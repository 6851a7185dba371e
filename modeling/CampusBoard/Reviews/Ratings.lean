import CampusBoard.Decode.Record

/-!
# Reading and writing ratings by category

## Main definitions

* `CampusBoard.Ratings.shape`: the fields of ratings whose values have a given reader.
* `CampusBoard.Ratings.toJson`: ratings as a JSON value.
-/

set_option autoImplicit false

namespace CampusBoard.Ratings

variable {α : Type}

/-- The fields of ratings, one per category. -/
def shape (read : Decode.Reader α) : Decode.Shape (Ratings α) :=
  Decode.Shape.ofConstructor "Ratings" Ratings.mk
    |>.required "living_conditions" read
    |>.required "location" read
    |>.required "amenities" read
    |>.required "value" read
    |>.required "community" read

/-- Reads ratings whose values are read by `read`. -/
def readOf (read : Decode.Reader α) : Decode.Reader (Ratings α) := (shape read).read

/-- Ratings as a JSON value, the labels of the categories being the names of the members. -/
def toJson (write : α → Json) (r : Ratings α) : Json :=
  .object (r.entries.map fun e => (Labelled.label e.1, write e.2))

end CampusBoard.Ratings
