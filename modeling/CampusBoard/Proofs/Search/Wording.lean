import CampusBoard.Search.Query
import Mathlib.Tactic.Lemma

/-!
# The words of a request

The index knows records, attributes and values by fixed words. They are written down here once more,
apart from the vocabularies from which requests are put together, so that what is said about a
request speaks of the words themselves.

## Main definitions

* `CampusBoard.Wording.index`: the name of the index for a scope.
* `CampusBoard.Wording.dimensions`, `CampusBoard.Wording.dimension`, `CampusBoard.Wording.value`:
  the attributes that are filtered, in their order, and the words for them and for their values.
* `CampusBoard.Wording.sortAttribute`, `CampusBoard.Wording.direction`,
  `CampusBoard.Wording.standardSort`: the words of a sort, and the sort of a kind.
* `CampusBoard.Wording.marked`: the attributes in which matches are marked.

## Main results

* `CampusBoard.Wording.index_eq`, `CampusBoard.Wording.expression_eq`,
  `CampusBoard.Wording.sortExpression_eq`, `CampusBoard.Wording.defaultSort_eq`: requests are put
  together from these words.
-/

set_option autoImplicit false

namespace CampusBoard.Wording

/-! ## Values -/

/-- The word for what an item is. -/
def itemType : ItemType → String
  | .furniture => "Furniture"
  | .electronics => "Electronics"
  | .books => "Books"
  | .kitchen => "Kitchen"
  | .clothing => "Clothing"
  | .decor => "Decor"
  | .other => "Other"

/-- The word for where an item can be picked up. -/
def location : PickupLocation → String
  | .caryQuadEast => "CaryQuadEast"
  | .wileyHall => "WileyHall"
  | .harrisonHall => "HarrisonHall"
  | .earhartHall => "EarhartHall"
  | .hillenbrandHall => "HillenbrandHall"
  | .thirdStreetSuites => "ThirdStreetSuites"

/-- The word for how worn an item is. -/
def condition : Condition → String
  | .excellent => "Excellent"
  | .good => "Good"
  | .fair => "Fair"

/-- The word for a kind of building. -/
def housingType : HousingType → String
  | .dorm => "Dorm"
  | .apartment => "Apartment"

/-- The word for whether a residence belongs to the campus. -/
def campusType : CampusType → String
  | .onCampus => "On-Campus"
  | .offCampus => "Off-Campus"

/-- The word for a rough price. -/
def costSymbol : CostSymbol → String
  | .low => "$"
  | .medium => "$$"
  | .high => "$$$"

/-- The word for a number of stars. -/
def rating : StarRating → String
  | .one => "100"
  | .two => "200"
  | .three => "300"
  | .four => "400"
  | .five => "500"

/-- The word for a residence. -/
def residence : Residence → String
  | .caryQuad => "cary-quad"
  | .mcCutcheon => "mc-cutcheon"
  | .tarkington => "tarkington"
  | .wiley => "wiley"
  | .owen => "owen"
  | .shreve => "shreve"
  | .earhart => "earhart"
  | .harrison => "harrison"
  | .hillenbrand => "hillenbrand"
  | .meredith => "meredith"
  | .meredithSouth => "meredith-south"
  | .windsor => "windsor"
  | .firstStreet => "first-street"
  | .hilltop => "hilltop"
  | .winifred => "winifred"
  | .frieda => "frieda"
  | .hawkins => "hawkins"
  | .fuse => "fuse"
  | .aspire => "aspire"
  | .thirdAndWest => "3rd-and-west"
  | .benchmarkTwo => "benchmark-ii"
  | .grant333 => "grant-333"
  | .provenance => "provenance"
  | .russell414 => "russell-414"
  | .steely410 => "steely-410"
  | .waldron125 => "waldron-125"
  | .waldron19 => "waldron-19"
  | .waldronSquare => "waldron-square"
  | .honorsCollegeResidences => "honors-college-residences"
  | .hub => "hub"
  | .rise => "rise"
  | .chauncey => "chauncey"
  | .lark => "lark"
  | .allight => "allight"
  | .redpoint => "redpoint"
  | .verve => "verve"
  | .river => "river"
  | .morris => "morris"

/-! ## Indexes and attributes -/

/-- The name of the index for a scope: the reviews of each residence have an index of their own,
named after it. -/
def index : (d : Domain) → d.Scope → String
  | .items, _ => "items"
  | .listings, _ => "housing"
  | .reviews, scope => residence scope

/-- The attributes in which matches are marked. -/
def marked : Domain → List String
  | .items => ["title", "description"]
  | .listings => ["id"]
  | .reviews => ["description"]

/-- The attributes that are filtered, in the order in which filters are named. -/
def dimensions : (d : Domain) → List (Dimension d)
  | .items => [.itemType, .location, .condition]
  | .listings => [.housingType, .campusType, .costSymbol]
  | .reviews => [.overallRating]

/-- The word for an attribute that is filtered. -/
def dimension {d : Domain} : Dimension d → String
  | .itemType => "item_type"
  | .location => "location"
  | .condition => "condition"
  | .housingType => "housing_type"
  | .campusType => "campus_type"
  | .costSymbol => "cost_symbol"
  | .overallRating => "overall_rating"

/-- The word for a value of an attribute that is filtered. -/
def value {d : Domain} : (dim : Dimension d) → dim.Value → String
  | .itemType, v => itemType v
  | .location, v => location v
  | .condition, v => condition v
  | .housingType, v => housingType v
  | .campusType, v => campusType v
  | .costSymbol, v => costSymbol v
  | .overallRating, v => rating v

/-! ## Sorts -/

/-- The word for what listings are sorted on. -/
def listingSort : ListingSort → String
  | .overallRating => "overall_rating"
  | .walkTimeMins => "walk_time_mins"
  | .costMin => "cost_min"
  | .costMax => "cost_max"
  | .reviewCount => "review_count"

/-- The word for what records are sorted on. -/
def sortAttribute : (d : Domain) → d.SortField → String
  | .items, field => nomatch (show Empty from field)
  | .listings, field => listingSort field
  | .reviews, (.date : ReviewSort) => "date"

/-- The word for a direction. -/
def direction : SortDirection → String
  | .asc => "asc"
  | .desc => "desc"

/-- The sort of a kind as long as nothing else is chosen: listings with the most reviews first,
reviews with the latest first. -/
def standardSort : (d : Domain) → Option (d.SortField × SortDirection)
  | .items => none
  | .listings => some ((.reviewCount : ListingSort), .desc)
  | .reviews => some ((.date : ReviewSort), .desc)

/-! ## Requests are put together from these words -/

variable {d : Domain}

/-- An index goes by its word. -/
theorem index_eq (scope : d.Scope) : d.index scope = index d scope := by
  cases d with
  | items => rfl
  | listings => rfl
  | reviews =>
    change Labelled.label (α := Residence) scope = residence scope
    cases (show Residence from scope) <;> rfl

/-- A filter names an attribute and its value by their words. -/
theorem expression_eq (dim : Dimension d) (v : dim.Value) :
    Filters.expression dim v = dimension dim ++ " = " ++ value dim v := by
  have hvalue : dim.valueText v = value dim v := by
    cases dim with
    | itemType => cases (show ItemType from v) <;> rfl
    | location => cases (show PickupLocation from v) <;> rfl
    | condition => cases (show Condition from v) <;> rfl
    | housingType => cases (show HousingType from v) <;> rfl
    | campusType => cases (show CampusType from v) <;> rfl
    | costSymbol => cases (show CostSymbol from v) <;> rfl
    | overallRating => cases (show StarRating from v) <;> rfl
  rw [Filters.expression, hvalue]
  cases dim <;> rfl

/-- A sort names an attribute and a direction by their words. -/
theorem sortExpression_eq (sort : SortBy d.SortField) :
    d.sortExpression sort = sortAttribute d sort.field ++ ":" ++ direction sort.direction := by
  obtain ⟨field, dir⟩ := sort
  have hfield : d.sortAttribute field = sortAttribute d field := by
    cases d with
    | items => exact nomatch (show Empty from field)
    | listings => cases (show ListingSort from field) <;> rfl
    | reviews => cases (show ReviewSort from field); rfl
  have hdirection : Labelled.label dir = direction dir := by
    cases dir <;> rfl
  rw [Domain.sortExpression, hfield, hdirection]

/-- A kind is sorted at first by its words. -/
theorem defaultSort_eq :
    d.defaultSort = (standardSort d).map fun standard => ⟨standard.1, standard.2⟩ := by
  cases d <;> rfl

end CampusBoard.Wording
