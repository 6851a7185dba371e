import CampusBoard.Labelled
import CampusBoard.Text.Numeral

/-!
# Star ratings

A reviewer gives one to five stars, overall and in five categories. A number of stars is stored as
its hundredfold.

## Main definitions

* `CampusBoard.StarRating`: one to five stars.
* `CampusBoard.StarRating.ofHundreds`: the rating stored as a number.
* `CampusBoard.StarRating.parse`, `CampusBoard.StarRating.parseFilter`: read a rating from text.
* `CampusBoard.RatingCategory`: what is rated beside the whole.
* `CampusBoard.Ratings`: one value per category.
-/

set_option autoImplicit false

namespace CampusBoard

/-! ## Stars -/

/-- One to five stars. -/
inductive StarRating
  /-- One star. -/
  | one
  /-- Two stars. -/
  | two
  /-- Three stars. -/
  | three
  /-- Four stars. -/
  | four
  /-- Five stars. -/
  | five
  deriving DecidableEq, Repr

namespace StarRating

/-- All ratings, the lowest first. -/
def all : List StarRating := [.one, .two, .three, .four, .five]

/-- The number of stars. -/
def stars : StarRating → Nat
  | .one => 1
  | .two => 2
  | .three => 3
  | .four => 4
  | .five => 5

/-- The number under which a rating is stored. -/
def hundreds : StarRating → UInt16
  | .one => 100
  | .two => 200
  | .three => 300
  | .four => 400
  | .five => 500

/-- The text of the stored number. -/
def label (r : StarRating) : String :=
  toString r.hundreds.toNat

/-- The rating stored as `n`. -/
def ofHundreds? (n : Nat) : Option StarRating :=
  all.find? fun r => r.hundreds.toNat == n

/-- The rating stored as `n`, or an error that shows the number. -/
def ofHundreds (n : Nat) : Except ValidationError StarRating :=
  match ofHundreds? n with
  | some r => .ok r
  | none => .error (.unknownValue "review rating" (toString n))

/-- Reads a stored number from text. A text that is no number of sixteen bits is shown as it is in
the error, any other by its number. -/
def parse (s : String) : Except ValidationError StarRating :=
  match Text.unsigned? UInt16.size s.toList with
  | some n => ofHundreds n
  | none => .error (.unknownValue "review rating" s)

/-- Reads the value of a filter control. The empty text and a zero stand for no constraint. -/
def parseFilter (s : String) : Except ValidationError (Option StarRating) :=
  if s = "" ∨ s = "0" then .ok none else (parse s).map some

/-- The rating picked as a number of stars in a form; zero means that none was picked, and more
than five count as five. -/
def ofStars? (stars : Nat) : Option StarRating :=
  ofHundreds? (min stars 5 * 100)

/-- A rating is read back from its number. -/
theorem ofHundreds_hundreds (r : StarRating) : ofHundreds r.hundreds.toNat = .ok r := by
  cases r <;> rfl

end StarRating

/-! ## Categories -/

/-- What reviewers rate beside the residence as a whole. -/
inductive RatingCategory
  /-- The rooms and their upkeep. -/
  | livingConditions
  /-- How well other places can be reached. -/
  | location
  /-- What the residence offers. -/
  | amenities
  /-- What the rent pays for. -/
  | value
  /-- The people. -/
  | community
  deriving DecidableEq, Repr

instance : Labelled RatingCategory where
  kind := "rating category"
  all := [.livingConditions, .location, .amenities, .value, .community]
  label
    | .livingConditions => "living_conditions"
    | .location => "location"
    | .amenities => "amenities"
    | .value => "value"
    | .community => "community"
  find?_label a := by cases a <;> decide

namespace RatingCategory

/-- The heading of a category. -/
def title : RatingCategory → String
  | .livingConditions => "Living Conditions"
  | .location => "Location & Accessibility"
  | .amenities => "Amenities"
  | .value => "Value"
  | .community => "Community"

/-- What a reviewer should think of in a category. -/
def description : RatingCategory → String
  | .livingConditions => "Cleanliness, maintenance, noise levels, room condition, AC/heating"
  | .location => "Proximity to campus, bus stops, groceries, accessibility features"
  | .amenities => "Laundry, internet, study areas, gym, kitchen, parking, security"
  | .value => "Rent vs quality, utility inclusions, lease flexibility"
  | .community => "Resident community, events, staff friendliness"

end RatingCategory

/-- One value per category. -/
structure Ratings (α : Type) where
  /-- The value for the rooms. -/
  livingConditions : α
  /-- The value for the surroundings. -/
  location : α
  /-- The value for the equipment. -/
  amenities : α
  /-- The value for the price. -/
  value : α
  /-- The value for the people. -/
  community : α
  deriving DecidableEq, Repr

namespace Ratings

variable {α : Type}

/-- The value of a category. -/
def get (r : Ratings α) : RatingCategory → α
  | .livingConditions => r.livingConditions
  | .location => r.location
  | .amenities => r.amenities
  | .value => r.value
  | .community => r.community

/-- The values with their categories, in the order of the categories. -/
def entries (r : Ratings α) : List (RatingCategory × α) :=
  (Labelled.all : List RatingCategory).map fun c => (c, r.get c)

end Ratings

end CampusBoard
