import CampusBoard.Search.Domain

/-!
# Filters

The records of a kind can be filtered by a few attributes, each of which may be bound to one value
of its own vocabulary.

## Main definitions

* `CampusBoard.Dimension`: the attributes of a kind that filters can bind.
* `CampusBoard.Filters`: the value, if any, that each attribute is bound to.
* `CampusBoard.Filters.set`, `CampusBoard.FilterUpdate.apply`: bind or free one attribute.
* `CampusBoard.FilterUpdate.parse`: reads such a change from text.
* `CampusBoard.Filters.expressions`: filters as the index reads them.
-/

set_option autoImplicit false

namespace CampusBoard

/-! ## Dimensions -/

/-- The attributes of a kind of records that filters can bind. -/
inductive Dimension : Domain → Type
  /-- What an item is. -/
  | itemType : Dimension .items
  /-- Where an item can be picked up. -/
  | location : Dimension .items
  /-- How worn an item is. -/
  | condition : Dimension .items
  /-- The kind of building of a residence. -/
  | housingType : Dimension .listings
  /-- Whether a residence belongs to the campus. -/
  | campusType : Dimension .listings
  /-- The rough price of a residence. -/
  | costSymbol : Dimension .listings
  /-- The overall rating of a review. -/
  | overallRating : Dimension .reviews
  deriving DecidableEq, Repr

namespace Dimension

/-- The dimensions of a kind in their order of declaration. -/
def all : (d : Domain) → List (Dimension d)
  | .items => [.itemType, .location, .condition]
  | .listings => [.housingType, .campusType, .costSymbol]
  | .reviews => [.overallRating]

/-- Each dimension is declared. -/
theorem mem_all {d : Domain} (dim : Dimension d) : dim ∈ all d := by
  cases dim <;> simp [all]

variable {d : Domain}

/-- The name of the attribute. -/
def attributeName : Dimension d → String
  | .itemType => "item_type"
  | .location => "location"
  | .condition => "condition"
  | .housingType => "housing_type"
  | .campusType => "campus_type"
  | .costSymbol => "cost_symbol"
  | .overallRating => "overall_rating"

/-- The values that the attribute can be bound to. -/
def Value : Dimension d → Type
  | .itemType => ItemType
  | .location => PickupLocation
  | .condition => Condition
  | .housingType => HousingType
  | .campusType => CampusType
  | .costSymbol => CostSymbol
  | .overallRating => StarRating

instance (dim : Dimension d) : DecidableEq dim.Value :=
  match dim with
  | .itemType => inferInstanceAs (DecidableEq ItemType)
  | .location => inferInstanceAs (DecidableEq PickupLocation)
  | .condition => inferInstanceAs (DecidableEq Condition)
  | .housingType => inferInstanceAs (DecidableEq HousingType)
  | .campusType => inferInstanceAs (DecidableEq CampusType)
  | .costSymbol => inferInstanceAs (DecidableEq CostSymbol)
  | .overallRating => inferInstanceAs (DecidableEq StarRating)

/-- The text of a value. -/
def valueText : (dim : Dimension d) → dim.Value → String
  | .itemType, v => Labelled.label (α := ItemType) v
  | .location, v => Labelled.label (α := PickupLocation) v
  | .condition, v => Labelled.label (α := Condition) v
  | .housingType, v => Labelled.label (α := HousingType) v
  | .campusType, v => Labelled.label (α := CampusType) v
  | .costSymbol, v => Labelled.label (α := CostSymbol) v
  | .overallRating, v => StarRating.label v

/-- Reads the value of a filter control, `none` being no constraint. -/
def parseValue : (dim : Dimension d) → String → Except ValidationError (Option dim.Value)
  | .itemType => Labelled.parseFilter (α := ItemType)
  | .location => Labelled.parseFilter (α := PickupLocation)
  | .condition => Labelled.parseFilter (α := Condition)
  | .housingType => Labelled.parseFilter (α := HousingType)
  | .campusType => Labelled.parseFilter (α := CampusType)
  | .costSymbol => Labelled.parseFilter (α := CostSymbol)
  | .overallRating => StarRating.parseFilter

/-- The dimension with a given attribute. -/
def ofAttribute? (d : Domain) (name : String) : Option (Dimension d) :=
  (all d).find? fun dim => dim.attributeName == name

end Dimension

/-- What the dimensions of a kind are called in errors. -/
def Domain.filterKind : Domain → String
  | .items => "item filter"
  | .listings => "housing filter"
  | .reviews => "review filter"

/-! ## Filters -/

/-- The value, if any, that each dimension of a kind is bound to. -/
@[ext]
structure Filters (d : Domain) where
  /-- The value that a dimension is bound to. -/
  chosen : (dim : Dimension d) → Option dim.Value

namespace Filters

variable {d : Domain}

/-- No dimension is bound. -/
def none : Filters d :=
  ⟨fun _ => Option.none⟩

instance : DecidableEq (Filters d) := fun f g =>
  decidable_of_iff (∀ dim ∈ Dimension.all d, f.chosen dim = g.chosen dim)
    ⟨fun h => Filters.ext (funext fun dim => h dim dim.mem_all), fun h _ _ => h ▸ rfl⟩

/-- Binds a dimension to a value, or frees it. -/
def set (dim : Dimension d) (value : Option dim.Value) (f : Filters d) : Filters d :=
  ⟨fun other => if h : other = dim then h ▸ value else f.chosen other⟩

/-- A bound dimension as the index reads it. -/
def expression (dim : Dimension d) (value : dim.Value) : String :=
  dim.attributeName ++ " = " ++ dim.valueText value

/-- The bound dimensions as the index reads them, in their order of declaration. -/
def expressions (f : Filters d) : List String :=
  (Dimension.all d).filterMap fun dim => (f.chosen dim).map (expression dim)

/-- Whether no dimension is bound. -/
def isEmpty (f : Filters d) : Bool :=
  f.expressions.isEmpty

/-- A dimension that was set has the value it was set to. -/
theorem chosen_set_same (dim : Dimension d) (value : Option dim.Value) (f : Filters d) :
    (set dim value f).chosen dim = value := by
  simp [set]

/-- Setting a dimension leaves the others as they are. -/
theorem chosen_set_other {dim other : Dimension d} (h : other ≠ dim) (value : Option dim.Value)
    (f : Filters d) : (set dim value f).chosen other = f.chosen other := by
  simp [set, h]

end Filters

/-! ## Changes -/

/-- A change of one dimension: the value it is bound to, or `none` to free it. -/
structure FilterUpdate (d : Domain) where
  /-- What is changed. -/
  dimension : Dimension d
  /-- What it is bound to. -/
  value : Option dimension.Value

namespace FilterUpdate

variable {d : Domain}

/-- The filters after a change. -/
def apply (u : FilterUpdate d) (f : Filters d) : Filters d :=
  f.set u.dimension u.value

/-- Reads a change from the attribute and the value of a filter control. -/
def parse (d : Domain) (field value : String) : Except ValidationError (FilterUpdate d) :=
  match Dimension.ofAttribute? d field with
  | some dim => (dim.parseValue value).map fun v => ⟨dim, v⟩
  | none => .error (.unknownValue d.filterKind field)

end FilterUpdate

end CampusBoard
