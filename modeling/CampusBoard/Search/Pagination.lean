import CampusBoard.Settings.PageSize

/-!
# The position in a list of pages

## Main definitions

* `CampusBoard.Pagination`: a position, with the number of hits and of hits on a page.
* `CampusBoard.Pagination.setOffset`, `CampusBoard.Pagination.increment`,
  `CampusBoard.Pagination.decrement`, `CampusBoard.Pagination.reset`,
  `CampusBoard.Pagination.setTotalHits`: the ways to move.
-/

set_option autoImplicit false

namespace CampusBoard

/-- A position in a list of pages. -/
structure Pagination where
  /-- The number of hits on a page. -/
  pageSize : PageSize
  /-- The number of hits before the current page. -/
  offset : Nat
  /-- The number of hits in all. -/
  totalHits : Nat
  deriving DecidableEq, Repr

namespace Pagination

/-- The first page of nothing. -/
def start (pageSize : PageSize) : Pagination :=
  ⟨pageSize, 0, 0⟩

/-- The number of hits on a page. -/
def size (p : Pagination) : Nat :=
  p.pageSize.get

/-- The number of hits before the last page. -/
def lastPageStart (p : Pagination) : Nat :=
  p.totalHits / p.size * p.size

/-- Moves to the page of the hit with the given number, or to the last page if that comes
earlier. -/
def setOffset (requested : Nat) (p : Pagination) : Pagination :=
  { p with offset := min (requested / p.size * p.size) p.lastPageStart }

/-- Moves to the next page, if there is one. -/
def increment (p : Pagination) : Pagination :=
  { p with offset := min (p.offset + p.size) p.lastPageStart }

/-- Moves to the page before, if there is one. -/
def decrement (p : Pagination) : Pagination :=
  { p with offset := p.offset - p.size }

/-- Moves to the first page. -/
def reset (p : Pagination) : Pagination :=
  { p with offset := 0 }

/-- Takes over a number of hits, moving back to the last page if the current one is gone. -/
def setTotalHits (total : Nat) (p : Pagination) : Pagination :=
  let p := { p with totalHits := total }
  { p with offset := min p.offset p.lastPageStart }

/-- The number of the current page, the first being one. -/
def currentPage (p : Pagination) : Nat :=
  p.offset / p.size + 1

/-- The number of the last page. -/
def lastPage (p : Pagination) : Nat :=
  p.lastPageStart / p.size + 1

/-- Whether a page follows. -/
def hasNext (p : Pagination) : Bool :=
  decide (p.offset < p.lastPageStart)

/-- Whether a page comes before. -/
def hasPrevious (p : Pagination) : Bool :=
  decide (0 < p.offset)

end Pagination

end CampusBoard
