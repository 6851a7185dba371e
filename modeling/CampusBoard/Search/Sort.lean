import CampusBoard.Labelled

/-!
# Sorting

## Main definitions

* `CampusBoard.SortDirection`: ascending or descending.
* `CampusBoard.SortBy`: a field with a direction.
-/

set_option autoImplicit false

namespace CampusBoard

/-- The direction of a sort. -/
inductive SortDirection
  /-- The least first. -/
  | asc
  /-- The greatest first. -/
  | desc
  deriving DecidableEq, Repr

instance : Labelled SortDirection where
  kind := "sort direction"
  all := [.asc, .desc]
  label
    | .asc => "asc"
    | .desc => "desc"
  find?_label a := by cases a <;> decide

/-- The other direction. -/
def SortDirection.reversed : SortDirection → SortDirection
  | .asc => .desc
  | .desc => .asc

/-- A sort on a field. -/
structure SortBy (Field : Type) where
  /-- What is compared. -/
  field : Field
  /-- The direction. -/
  direction : SortDirection
  deriving DecidableEq, Repr

end CampusBoard
