import CampusBoard.Housing.Listing
import CampusBoard.Market.Item
import CampusBoard.Reviews.Review

/-!
# What can be searched

Three kinds of records are searched: items for sale, listings of residences, and the reviews of one
residence. They share one way of searching and differ in what is given here.

## Main definitions

* `CampusBoard.Domain`: the three kinds.
* `CampusBoard.Domain.Record`, `CampusBoard.Domain.Scope`, `CampusBoard.Domain.SortField`: the types
  of a kind.
* `CampusBoard.Domain.index`, `CampusBoard.Domain.highlighted`, `CampusBoard.Domain.defaultSort`:
  where and how a kind is searched.
-/

set_option autoImplicit false

namespace CampusBoard

/-- The kinds of records that are searched. -/
inductive Domain
  /-- Items for sale. -/
  | items
  /-- Listings of residences. -/
  | listings
  /-- The reviews of one residence. -/
  | reviews
  deriving DecidableEq, Repr

namespace Domain

/-- The records of a kind. -/
def Record : Domain → Type
  | .items => Item
  | .listings => Listing
  | .reviews => Review

/-- What has to be chosen before a kind can be searched. -/
def Scope : Domain → Type
  | .items => Unit
  | .listings => Unit
  | .reviews => Residence

/-- What the records of a kind can be sorted on. Items cannot be sorted. -/
def SortField : Domain → Type
  | .items => Empty
  | .listings => ListingSort
  | .reviews => ReviewSort

instance (d : Domain) : DecidableEq d.Scope :=
  match d with
  | .items => inferInstanceAs (DecidableEq Unit)
  | .listings => inferInstanceAs (DecidableEq Unit)
  | .reviews => inferInstanceAs (DecidableEq Residence)

instance (d : Domain) : DecidableEq d.SortField :=
  match d with
  | .items => inferInstanceAs (DecidableEq Empty)
  | .listings => inferInstanceAs (DecidableEq ListingSort)
  | .reviews => inferInstanceAs (DecidableEq ReviewSort)

/-- Reads a record. -/
def readRecord : (d : Domain) → Decode.Reader d.Record
  | .items => Item.read
  | .listings => Listing.read
  | .reviews => Review.read

/-- A record as a JSON value. -/
def writeRecord : (d : Domain) → d.Record → Json
  | .items => Item.toJson
  | .listings => Listing.toJson
  | .reviews => Review.toJson

/-- The name of the index that is searched. -/
def index : (d : Domain) → d.Scope → String
  | .items, _ => "items"
  | .listings, _ => "housing"
  | .reviews, residence => Labelled.label (α := Residence) residence

/-- The attributes in which matches are marked. -/
def highlighted : Domain → List String
  | .items => ["title", "description"]
  | .listings => ["id"]
  | .reviews => ["description"]

/-- The attribute that a sort field names. -/
def sortAttribute : (d : Domain) → d.SortField → String
  | .items, field => nomatch (show Empty from field)
  | .listings, field => Labelled.label (α := ListingSort) field
  | .reviews, field => Labelled.label (α := ReviewSort) field

/-- The sort field that a text names. Items have none. -/
def parseSortField : (d : Domain) → String → Except ValidationError d.SortField
  | .items, s => .error (.unknownValue "item sort" s)
  | .listings, s => Labelled.parse (α := ListingSort) s
  | .reviews, s => Labelled.parse (α := ReviewSort) s

/-- The scope that a text names. Only reviews have more than one. -/
def parseScope : (d : Domain) → String → Except ValidationError d.Scope
  | .items, _ => .ok ()
  | .listings, _ => .ok ()
  | .reviews, s => Labelled.parse (α := Residence) s

/-- The sort when nothing else is chosen: listings with the most reviews first, reviews with the
latest first. -/
def defaultSort : (d : Domain) → Option (SortBy d.SortField)
  | .items => none
  | .listings => some ⟨(.reviewCount : ListingSort), .desc⟩
  | .reviews => some ⟨(.date : ReviewSort), .desc⟩

/-- A sort as the index reads it: the attribute and the direction with a colon between them. -/
def sortExpression (d : Domain) (sort : SortBy d.SortField) : String :=
  d.sortAttribute sort.field ++ ":" ++ Labelled.label sort.direction

end Domain

end CampusBoard
