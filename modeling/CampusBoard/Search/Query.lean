import CampusBoard.Search.Filter

/-!
# Queries

## Main definitions

* `CampusBoard.QueryForm`: what a user can set of a query.
* `CampusBoard.Query`: a query as it stood at one moment, with the index and the position.
* `CampusBoard.SearchRequest`: a query as the index reads it.
* `CampusBoard.QueryForm.compose`, `CampusBoard.Query.toRequest`: from one to the next.
-/

set_option autoImplicit false

namespace CampusBoard

/-! ## What a user can set -/

/-- The text, the filters and the sort of a query. -/
structure QueryForm (d : Domain) where
  /-- The words that are searched. -/
  text : String
  /-- The filters. -/
  filters : Filters d
  /-- The sort, for kinds that can be sorted. -/
  sort : Option (SortBy d.SortField)
  deriving DecidableEq

namespace QueryForm

variable {d : Domain}

/-- No text, no filter and the sort of the kind. -/
def initial (d : Domain) : QueryForm d :=
  ⟨"", Filters.none, d.defaultSort⟩

/-- Changes the text. -/
def setText (text : String) (q : QueryForm d) : QueryForm d :=
  { q with text := text }

/-- Changes one filter. -/
def setFilter (u : FilterUpdate d) (q : QueryForm d) : QueryForm d :=
  { q with filters := u.apply q.filters }

/-- The direction of the sort, or the one of the kind, or descending. -/
def direction (q : QueryForm d) : SortDirection :=
  ((q.sort <|> d.defaultSort).map SortBy.direction).getD .desc

/-- Sorts on a field and keeps the direction. -/
def setSortField (field : d.SortField) (q : QueryForm d) : QueryForm d :=
  { q with sort := some ⟨field, q.direction⟩ }

/-- Changes the direction of the sort; a query without a sort stays without. -/
def setSortDirection (direction : SortDirection) (q : QueryForm d) : QueryForm d :=
  { q with sort := q.sort.map fun s => { s with direction := direction } }

/-- Whether there is a sort whose direction can be changed. -/
def isSorted (q : QueryForm d) : Bool :=
  q.sort.isSome

end QueryForm

/-! ## A query at one moment -/

/-- What is searched, as it stood at one moment. -/
structure Query (d : Domain) where
  /-- The name of the index. -/
  index : String
  /-- The words that are searched. -/
  text : String
  /-- The filters. -/
  filters : Filters d
  /-- The sort, for kinds that can be sorted. -/
  sort : Option (SortBy d.SortField)
  /-- The number of hits before the page. -/
  offset : Nat
  deriving DecidableEq

/-- The query at one moment. -/
def QueryForm.compose {d : Domain} (scope : d.Scope) (q : QueryForm d) (offset : Nat) :
    Query d where
  index := d.index scope
  text := q.text
  filters := q.filters
  sort := q.sort
  offset := offset

/-! ## Requests -/

/-- How matches are marked. -/
structure Highlight where
  /-- The attributes in which they are marked. -/
  attributes : List String
  /-- What stands before a match. -/
  preTag : String
  /-- What stands after a match. -/
  postTag : String
  deriving DecidableEq, Repr

/-- A query as the index reads it. -/
structure SearchRequest where
  /-- The name of the index. -/
  index : String
  /-- The words that are searched. -/
  text : String
  /-- The filters, all of which must hold. -/
  filters : List String
  /-- The sorts, the first being the most important. -/
  sort : List String
  /-- The greatest number of hits in the reply. -/
  limit : Nat
  /-- The number of hits before those in the reply. -/
  offset : Nat
  /-- How matches are marked. -/
  highlight : Highlight
  deriving DecidableEq, Repr

/-- The request for the next `limit` hits of a query. -/
def Query.toRequest {d : Domain} (q : Query d) (limit : Nat) (preTag postTag : String) :
    SearchRequest where
  index := q.index
  text := q.text
  filters := q.filters.expressions
  sort := (q.sort.map d.sortExpression).toList
  limit := limit
  offset := q.offset
  highlight := ⟨d.highlighted, preTag, postTag⟩

end CampusBoard
