/-!
# Page sizes

## Main definitions

* `CampusBoard.PageSize`: the number of hits on a page, at least one.
* `CampusBoard.PageSize.ofUInt64`: the page size of a number.
-/

set_option autoImplicit false

namespace CampusBoard

/-- The number of hits on a page. -/
structure PageSize where
  /-- The number itself. -/
  val : UInt64
  /-- A page holds at least one hit. -/
  val_ne_zero : val ≠ 0
  deriving DecidableEq, Repr

/-- Zero is no page size. -/
inductive PageSizeError
  /-- The number is zero. -/
  | zero
  deriving DecidableEq, Repr

/-- The text of the error. -/
def PageSizeError.message : PageSizeError → String
  | .zero => "PageSize is too small. The value must be greater than 0."

namespace PageSize

/-- The page size of a positive number. -/
def ofUInt64 (n : UInt64) : Except PageSizeError PageSize :=
  if h : n = 0 then .error .zero else .ok ⟨n, h⟩

/-- The number of hits on a page. -/
def get (p : PageSize) : Nat :=
  p.val.toNat

/-- Twelve hits fit on a page unless something else is configured. -/
def standard : PageSize :=
  ⟨12, by decide⟩

instance : Inhabited PageSize := ⟨standard⟩

/-- A page holds at least one hit. -/
theorem get_pos (p : PageSize) : 0 < p.get := by
  have := p.val_ne_zero
  unfold get
  rcases Nat.eq_zero_or_pos p.val.toNat with h | h
  · exact absurd (UInt64.toNat.inj (by simpa using h)) this
  · exact h

end PageSize

end CampusBoard
