import CampusBoard.Proofs.Search.Runs
import Mathlib.Algebra.Order.Group.Nat
import Mathlib.Tactic.Common

/-!
# The position of a controller is always a page

Whatever a user does and whatever replies arrive in whatever order, the position of a controller is
the start of a page and not past the last one, and the number of hits that the position counts with
is the one that came with the hits.

## Design

The number of hits is held twice, with the position and with the hits. `Controller.Paged` ties the
two together and says that the position is a page. Every operation either leaves the position alone,
or sets it to a multiple of the page size cut off at the start of the last page, so one lemma on
such cut positions carries all of them.

## Main definitions

* `CampusBoard.Pagination.OnPage`: the position is the start of a page.
* `CampusBoard.Controller.Paged`: the invariant of controllers.
* `CampusBoard.Operation.appliedTotal?`: the number of hits that an operation brings.

## Main results

* `CampusBoard.Operation.paged_run`: one operation keeps the invariant, also in what it shows.
* `CampusBoard.Controller.position_stays_on_page`: it holds along every run.
-/

set_option autoImplicit false

namespace CampusBoard

/-! ## Positions -/

namespace Pagination

/-- The position is the start of a page that is not past the last one. -/
structure OnPage (p : Pagination) : Prop where
  /-- It is the start of a page. -/
  aligned : p.size ∣ p.offset
  /-- It is not past the last page. -/
  not_past : p.offset ≤ p.lastPageStart

/-- The last page starts at a multiple of the page size. -/
lemma size_dvd_lastPageStart (p : Pagination) : p.size ∣ p.lastPageStart :=
  Nat.dvd_mul_left _ _

/-- A multiple of the page size, cut off at the start of the last page, is the start of a page. -/
lemma onPage_min {p : Pagination} {n : Nat} (h : p.size ∣ n) :
    OnPage { p with offset := min n p.lastPageStart } where
  aligned := by
    change p.size ∣ min n p.lastPageStart
    rcases le_total n p.lastPageStart with hle | hle
    · rwa [min_eq_left hle]
    · rw [min_eq_right hle]
      exact p.size_dvd_lastPageStart
  not_past := min_le_right _ _

/-- The first page is a page. -/
lemma onPage_reset (p : Pagination) : p.reset.OnPage where
  aligned := Nat.dvd_zero _
  not_past := Nat.zero_le _

/-- Any number leads to a page. -/
lemma onPage_setOffset (requested : Nat) (p : Pagination) : (p.setOffset requested).OnPage :=
  onPage_min (Nat.dvd_mul_left _ _)

/-- The next page is a page. -/
lemma OnPage.increment {p : Pagination} (h : p.OnPage) : p.increment.OnPage :=
  onPage_min (Nat.dvd_add h.aligned (Nat.dvd_refl _))

/-- The page before is a page. -/
lemma OnPage.decrement {p : Pagination} (h : p.OnPage) : p.decrement.OnPage where
  aligned := Nat.dvd_sub h.aligned (Nat.dvd_refl _)
  not_past := (Nat.sub_le _ _).trans h.not_past

/-- With another number of hits the position is a page again. -/
lemma OnPage.setTotalHits {p : Pagination} (h : p.OnPage) (total : Nat) :
    (p.setTotalHits total).OnPage :=
  onPage_min (p := { p with totalHits := total }) h.aligned

end Pagination

/-! ## Controllers -/

variable {d : Domain}

/-- What always holds of a controller with the given page size: its position is a page, both numbers
of hits agree, and a page past the last hit still has a number of 64 bits. -/
structure Controller.Paged (pageSize : PageSize) (c : Controller d) : Prop where
  /-- The page size stays as it was given. -/
  pageSize_eq : c.pagination.pageSize = pageSize
  /-- The position is a page. -/
  onPage : c.pagination.OnPage
  /-- The position counts with the number of hits that came with the hits. -/
  sameTotal : c.pagination.totalHits = c.results.totalHits
  /-- The end of the page after the last hit does not overflow. -/
  fits : c.pagination.totalHits + pageSize.get < UInt64.size

/-- The number of hits that an operation brings, if it brings any. -/
def Operation.appliedTotal? : Operation d → Option Nat
  | .applyResults results => some results.totalHits
  | .applyOutcome _ (.ok results) => some results.totalHits
  | _ => none

namespace Controller

/-- A page size is a number of 64 bits. -/
lemma pageSize_lt (pageSize : PageSize) : 0 + pageSize.get < UInt64.size := by
  rw [Nat.zero_add]
  exact pageSize.val.toNat_lt

/-- A new controller shows the first page of nothing. -/
lemma paged_fresh (scope : d.Scope) (pageSize : PageSize) :
    (fresh scope pageSize).Paged pageSize where
  pageSize_eq := rfl
  onPage := ⟨Nat.dvd_zero _, Nat.zero_le _⟩
  sameTotal := rfl
  fits := pageSize_lt pageSize

variable {pageSize : PageSize} {c : Controller d}

/-- A move among the pages of the same hits keeps the invariant. -/
lemma Paged.move (h : c.Paged pageSize) {p : Pagination} (hp : p.OnPage)
    (hsize : p.pageSize = c.pagination.pageSize) (htotal : p.totalHits = c.pagination.totalHits) :
    Paged pageSize { c with pagination := p } where
  pageSize_eq := hsize.trans h.pageSize_eq
  onPage := hp
  sameTotal := htotal.trans h.sameTotal
  fits := by simpa only [htotal] using h.fits

/-- Another form starts at the first page. -/
lemma Paged.setForm (h : c.Paged pageSize) (form : QueryForm d) :
    (c.setForm form).All (Paged pageSize) :=
  have hmoved := h.move c.pagination.onPage_reset rfl rfl
  Transition.all_changed ⟨hmoved.pageSize_eq, hmoved.onPage, hmoved.sameTotal, hmoved.fits⟩

/-- A move is shown as it is. -/
lemma Paged.setPagination (h : c.Paged pageSize) {p : Pagination} (hp : p.OnPage)
    (hsize : p.pageSize = c.pagination.pageSize) (htotal : p.totalHits = c.pagination.totalHits) :
    (c.setPagination p).All (Paged pageSize) :=
  Transition.all_changed (h.move hp hsize htotal)

/-- Other hits come with their number. -/
lemma Paged.replace (h : c.Paged pageSize) (scope : d.Scope) (results : ResultSet d)
    (hfit : results.totalHits + pageSize.get < UInt64.size) :
    Paged pageSize { c with
      scope := scope, results := results,
      pagination := c.pagination.setTotalHits results.totalHits } where
  pageSize_eq := h.pageSize_eq
  onPage := h.onPage.setTotalHits _
  sameTotal := rfl
  fits := hfit

/-- An error has nothing to do with the position. -/
lemma Paged.showError (h : c.Paged pageSize) (message : String) :
    Paged pageSize { c with error := message } :=
  ⟨h.pageSize_eq, h.onPage, h.sameTotal, h.fits⟩

/-- Clearing an error keeps the invariant, also where there is none. -/
lemma Paged.clearError (h : c.Paged pageSize) : c.clearError.All (Paged pageSize) := by
  unfold Controller.clearError
  split
  · exact Transition.all_unchanged h
  · exact Transition.all_changed (h.showError "")

end Controller

/-- **One operation keeps the invariant**, in its state and in all that the listener is shown, if
the number of hits that it brings leaves room for a page. -/
theorem Operation.paged_run {pageSize : PageSize} {c : Controller d} (op : Operation d)
    (hfit : ∀ total ∈ op.appliedTotal?, total + pageSize.get < UInt64.size)
    (h : c.Paged pageSize) : (op.run c).All (Controller.Paged pageSize) := by
  cases op with
  | setText text => exact h.setForm _
  | setFilter update => exact h.setForm _
  | setSortField field => exact h.setForm _
  | setSortDirection direction =>
    change (c.setSortDirection direction).All _
    unfold Controller.setSortDirection
    split
    · exact h.setForm _
    · exact Transition.all_unchanged h
  | clearQuery => exact h.setForm _
  | setOffset offset => exact h.setPagination (Pagination.onPage_setOffset _ _) rfl rfl
  | nextPage => exact h.setPagination h.onPage.increment rfl rfl
  | previousPage => exact h.setPagination h.onPage.decrement rfl rfl
  | applyResults results =>
    exact Transition.all_changed (h.replace c.scope results (hfit _ rfl))
  | setError message => exact Transition.all_changed (h.showError message)
  | clearError => exact h.clearError
  | setScope scope =>
    change (c.setScope scope).All _
    unfold Controller.setScope
    split
    · exact Transition.all_unchanged h
    · exact Transition.all_changed (h.replace scope (.none d) (Controller.pageSize_lt pageSize))
  | applyOutcome maxChars outcome =>
    cases outcome with
    | error e => exact Transition.all_changed (h.showError _)
    | ok results =>
      -- the listener is shown the controller without its error before the hits are replaced
      have hcleared : c.clearError.All (Controller.Paged pageSize) := h.clearError
      exact hcleared.andThen
        (Transition.all_changed (hcleared.1.replace _ results (hfit _ rfl)))

/-- **The position of a controller is always a page.** After any operations in any order, and in
each state that the listener is shown on the way, the position is a multiple of the page size that
was given at the start and at most the start of the last page, the number of hits that it counts
with is the one that came with the hits, and the end of the page is a number of 64 bits.

**Proof sketch.** The invariant `Controller.Paged` holds of a new controller, one operation keeps it
(`Operation.paged_run`), so a run keeps it (`Controller.all_run`). -/
theorem Controller.position_stays_on_page (scope : d.Scope) (pageSize : PageSize)
    (ops : List (Operation d))
    (hfit : ∀ op ∈ ops, ∀ total ∈ op.appliedTotal?, total + pageSize.get < UInt64.size) :
    ((fresh scope pageSize).run ops).All fun c =>
      c.pagination.pageSize = pageSize ∧
        pageSize.get ∣ c.pagination.offset ∧
        c.pagination.offset ≤ c.pagination.totalHits / pageSize.get * pageSize.get ∧
        c.pagination.totalHits = c.results.totalHits ∧
        c.pagination.offset + pageSize.get < UInt64.size := by
  have hrun : ((fresh scope pageSize).run ops).All (Paged pageSize) :=
    all_run (paged_fresh scope pageSize) fun op hop c hc => op.paged_run (hfit op hop) hc
  refine hrun.mono fun c hc => ?_
  have hsize : c.pagination.size = pageSize.get := congrArg PageSize.get hc.pageSize_eq
  have haligned := hc.onPage.aligned
  have hpast := hc.onPage.not_past
  rw [Pagination.lastPageStart, hsize] at hpast
  rw [hsize] at haligned
  have htotal : c.pagination.offset ≤ c.pagination.totalHits :=
    hpast.trans (Nat.div_mul_le_self _ _)
  have hfits := hc.fits
  exact ⟨hc.pageSize_eq, haligned, hpast, hc.sameTotal, by omega⟩

/-- A user looks at the last of thirty reviews when a search finds only thirteen, and then tries to
go on. -/
def Operation.shrinkingSearch : List (Operation .reviews) :=
  [.applyResults ⟨[], 30⟩, .setOffset 100, .applyOutcome 50 (.ok ⟨[], 13⟩), .nextPage]

/-- With twelve hits on a page the user ends on the second page. -/
theorem Controller.position_stays_on_page_shrinking :
    (∀ op ∈ Operation.shrinkingSearch, ∀ total ∈ op.appliedTotal?,
      total + PageSize.standard.get < UInt64.size) ∧
    ((fresh (d := .reviews) Residence.wiley .standard).run
      Operation.shrinkingSearch).state.pagination = ⟨.standard, 12, 13⟩ ∧
    ((fresh (d := .reviews) Residence.wiley .standard).run Operation.shrinkingSearch).All fun c =>
      c.pagination.pageSize = .standard ∧
        PageSize.standard.get ∣ c.pagination.offset ∧
        c.pagination.offset ≤
          c.pagination.totalHits / PageSize.standard.get * PageSize.standard.get ∧
        c.pagination.totalHits = c.results.totalHits ∧
        c.pagination.offset + PageSize.standard.get < UInt64.size := by
  have hfit : ∀ op ∈ Operation.shrinkingSearch, ∀ total ∈ op.appliedTotal?,
      total + PageSize.standard.get < UInt64.size := by
    simp [Operation.shrinkingSearch, Operation.appliedTotal?, PageSize.standard, PageSize.get,
      UInt64.size]
  exact ⟨hfit, by rfl, position_stays_on_page (d := .reviews) Residence.wiley .standard _ hfit⟩

end CampusBoard
