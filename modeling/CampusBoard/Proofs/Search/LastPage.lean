import CampusBoard.Proofs.Search.Pages
import CampusBoard.Proofs.Search.Position
import Mathlib.Tactic.Common
import Mathlib.Tactic.Lemma

/-!
# The page after the last hit

The last page starts where the full pages end. If the last hit fills its page, then that is past the
last hit, and the last page shows nothing: one can go on to it, and it is counted. With any other
number of hits each page that one can come to shows some.

## Main definitions

* `CampusBoard.Pagination.Move`: the ways to move, and another number of hits.
* `CampusBoard.Pagination.Reachable`: the positions that one can come to.
* `CampusBoard.Pagination.filledPages`: how many pages show hits.

## Main results

* `CampusBoard.Pagination.onPage_of_reachable`: the position is always a page.
* `CampusBoard.Pagination.filledPages_eq`: the hits by the page size, a part counting as one.
* `CampusBoard.Pagination.pages_show_hits_unless_full`: when there is a page without hits.
* `CampusBoard.Pagination.fullPage_offers_empty_page`: one page of hits is followed by another.
-/

set_option autoImplicit false

namespace CampusBoard.Pagination

/-! ## Moves -/

/-- A way to move, or another number of hits. -/
inductive Move
  /-- Moves to the page of a hit. -/
  | setOffset (requested : Nat)
  /-- Moves to the next page. -/
  | increment
  /-- Moves to the page before. -/
  | decrement
  /-- Moves to the first page. -/
  | reset
  /-- Takes over a number of hits. -/
  | setTotalHits (total : Nat)

/-- What a move does. -/
def Move.run : Move → Pagination → Pagination
  | .setOffset requested => Pagination.setOffset requested
  | .increment => Pagination.increment
  | .decrement => Pagination.decrement
  | .reset => Pagination.reset
  | .setTotalHits total => Pagination.setTotalHits total

/-- The position after some moves. -/
def after (p : Pagination) (moves : List Move) : Pagination :=
  moves.foldl (fun q move => move.run q) p

/-- One can come to the position by moves from the first page of nothing. -/
def Reachable (p : Pagination) : Prop :=
  ∃ pageSize moves, (start pageSize).after moves = p

variable {p : Pagination}

/-- Each move leads from a page to a page. -/
lemma OnPage.run (h : p.OnPage) (move : Move) : (move.run p).OnPage := by
  cases move with
  | setOffset requested => exact p.onPage_setOffset requested
  | increment => exact h.increment
  | decrement => exact h.decrement
  | reset => exact p.onPage_reset
  | setTotalHits total => exact h.setTotalHits total

/-- So do several moves. -/
lemma OnPage.after (h : p.OnPage) (moves : List Move) : (p.after moves).OnPage := by
  induction moves generalizing p with
  | nil => exact h
  | cons move moves ih => exact ih (h.run move)

/-- **The position is always a page.** -/
theorem onPage_of_reachable (h : p.Reachable) : p.OnPage := by
  obtain ⟨pageSize, moves, rfl⟩ := h
  have hstart : (start pageSize).OnPage := ⟨Nat.dvd_zero _, Nat.zero_le _⟩
  exact hstart.after moves

/-! ## The last page -/

/-- The last page does not start after the last hit. -/
lemma lastPageStart_le (p : Pagination) : p.lastPageStart ≤ p.totalHits :=
  Nat.div_mul_le_self _ _

/-- The last page starts after the last hit if and only if all pages are full. -/
lemma lastPageStart_eq_iff : p.lastPageStart = p.totalHits ↔ p.size ∣ p.totalHits :=
  ⟨fun h => h ▸ p.size_dvd_lastPageStart, Nat.div_mul_cancel⟩

/-- From a page before the last, the next one is not past the last. -/
lemma OnPage.add_size_le (h : p.OnPage) (hnext : p.hasNext = true) :
    p.offset + p.size ≤ p.lastPageStart := by
  have hlt : p.offset < p.lastPageStart := of_decide_eq_true hnext
  have hdvd : p.size ∣ p.lastPageStart - p.offset :=
    Nat.dvd_sub p.size_dvd_lastPageStart h.aligned
  have hle := Nat.le_of_dvd (by omega) hdvd
  omega

/-! ## Pages with hits -/

/-- How many pages show hits. -/
def filledPages (p : Pagination) : Nat :=
  p.reset.walk.countP fun q => !q.hitNumbers.isEmpty

/-- The pages that show hits are the first ones, as many as the hits need. -/
lemma isEmpty_hitNumbers_page (pageSize : PageSize) (total k : Nat) :
    (page pageSize total k).hitNumbers.isEmpty = false ↔
      k < (total + pageSize.get - 1) / pageSize.get := by
  have hpos := pageSize.get_pos
  rw [List.isEmpty_eq_false_iff, hitNumbers, Ne, List.range'_eq_nil_iff, Nat.lt_div_iff_mul_lt hpos]
  change ¬min (k * pageSize.get + pageSize.get) total - k * pageSize.get = 0 ↔ _
  rw [Nat.mul_comm]
  omega

/-- How many of the first numbers are below a bound. -/
lemma countP_lt_range (bound count : Nat) :
    (List.range count).countP (fun k => decide (k < bound)) = min bound count := by
  induction count with
  | zero => simp
  | succ count ih =>
    rw [List.range_succ, List.countP_append, ih, List.countP_singleton]
    simp only [decide_eq_true_eq]
    split_ifs <;> omega

/-- **How many pages show hits**: the hits by the page size, a part of a page counting as one. -/
theorem filledPages_eq (p : Pagination) :
    p.filledPages = (p.totalHits + p.size - 1) / p.size := by
  have hle : (p.totalHits + p.size - 1) / p.size ≤ p.lastPage := by
    rw [lastPage_eq, ← Nat.add_div_right _ p.size_pos]
    exact Nat.div_le_div_right (Nat.sub_le _ _)
  have hfilled : ∀ k, (!(page p.pageSize p.totalHits k).hitNumbers.isEmpty) =
      decide (k < (p.totalHits + p.size - 1) / p.size) := by
    intro k
    rw [Bool.eq_iff_iff, Bool.not_eq_true', isEmpty_hitNumbers_page, decide_eq_true_iff]
    rfl
  rw [filledPages, walk_reset, List.countP_map]
  calc (List.range p.lastPage).countP _
      = (List.range p.lastPage).countP
          fun k => decide (k < (p.totalHits + p.size - 1) / p.size) :=
        List.countP_congr fun k _ => by rw [Function.comp_apply, hfilled]
    _ = min ((p.totalHits + p.size - 1) / p.size) p.lastPage := countP_lt_range _ _
    _ = (p.totalHits + p.size - 1) / p.size := min_eq_left hle

/-- The pages with hits are the full ones and, if hits are left over, one more. -/
lemma filledPages_eq_add (p : Pagination) :
    p.filledPages = p.totalHits / p.size + (p.totalHits % p.size + p.size - 1) / p.size := by
  have hpos := p.size_pos
  have hsplit := Nat.div_add_mod p.totalHits p.size
  have hrest : p.totalHits + p.size - 1 =
      p.size * (p.totalHits / p.size) + (p.totalHits % p.size + p.size - 1) := by omega
  rw [filledPages_eq, hrest, Nat.mul_add_div hpos]

/-- If hits are left over, then the last page shows them. -/
lemma lastPage_of_not_dvd (h : ¬p.size ∣ p.totalHits) : p.lastPage = p.filledPages := by
  have hrest : p.totalHits % p.size ≠ 0 := fun h0 => h (Nat.dvd_of_mod_eq_zero h0)
  have hlt := Nat.mod_lt p.totalHits p.size_pos
  have hone : (p.totalHits % p.size + p.size - 1) / p.size = 1 :=
    Nat.div_eq_of_lt_le (by omega) (by omega)
  rw [lastPage_eq, filledPages_eq_add, hone]

/-- If all pages are full, then the last page comes after them. -/
lemma lastPage_of_dvd (h : p.size ∣ p.totalHits) : p.lastPage = p.filledPages + 1 := by
  have hpos := p.size_pos
  have hnone : (p.totalHits % p.size + p.size - 1) / p.size = 0 := by
    rw [Nat.mod_eq_zero_of_dvd h]
    exact Nat.div_eq_of_lt (by omega)
  rw [lastPage_eq, filledPages_eq_add, hnone]

/-- **Pages show hits unless all are full.** If the hits do not fill their pages, then every
position that one can come to has hits from there on, a next page is offered only if it shows hits,
and the last page is the number of pages that show hits, which is the number of hits by the page
size with a part counting as one. If the hits fill their pages, then the last page is one more than
that. It starts after the last hit, and going on to it is offered from each position before, also
from the last page with hits.

**Proof sketch.** The position is a multiple of the page size up to the start of the last page
(`OnPage`), and so is the next one if there is one. The last page starts after the last hit if and
only if the hits are a multiple of the page size (`lastPageStart_eq_iff`). -/
theorem pages_show_hits_unless_full (hreach : p.Reachable) :
    p.filledPages = (p.totalHits + p.size - 1) / p.size ∧
    (¬p.size ∣ p.totalHits →
      p.offset < p.totalHits ∧ (p.hasNext = true → p.offset + p.size < p.totalHits) ∧
        p.lastPage = p.filledPages) ∧
    (p.size ∣ p.totalHits →
      p.offset ≤ p.totalHits ∧ (p.hasNext = true ↔ p.offset < p.totalHits) ∧
        p.lastPage = p.filledPages + 1) := by
  have hpage := onPage_of_reachable hreach
  have hle := p.lastPageStart_le
  have hpast := hpage.not_past
  refine ⟨p.filledPages_eq, ?_, ?_⟩
  · intro hpart
    have hne : p.lastPageStart ≠ p.totalHits := fun h => hpart (lastPageStart_eq_iff.mp h)
    refine ⟨by omega, ?_, lastPage_of_not_dvd hpart⟩
    intro hnext
    have hfull := hpage.add_size_le hnext
    omega
  · intro hfull
    have heq := lastPageStart_eq_iff.mpr hfull
    refine ⟨by omega, ?_, lastPage_of_dvd hfull⟩
    rw [hasNext, heq, decide_eq_true_iff]

/-- Ten hits on one page of ten. -/
def fullPage : Pagination :=
  ⟨⟨10, by decide⟩, 0, 10⟩

/-- **After a full page an empty one is offered.** With ten hits on a page of ten, a next page is
offered though no hit is left for it, one can go on to it, and it is counted as the second and last
page. -/
theorem fullPage_offers_empty_page :
    fullPage.Reachable ∧ 0 < fullPage.totalHits ∧
    (fullPage.hasNext = true ∧ ¬fullPage.offset + fullPage.size < fullPage.totalHits) ∧
    fullPage.lastPage ≠ (fullPage.totalHits + fullPage.size - 1) / fullPage.size ∧
    (fullPage.increment.Reachable ∧ 0 < fullPage.increment.totalHits ∧
      ¬fullPage.increment.offset < fullPage.increment.totalHits) := by
  have hreach : fullPage.Reachable := ⟨fullPage.pageSize, [.setTotalHits 10], by decide⟩
  have hnext : fullPage.increment.Reachable :=
    ⟨fullPage.pageSize, [.setTotalHits 10, .increment], by decide⟩
  exact ⟨hreach, by decide, by decide, by decide, hnext, by decide, by decide⟩

/-- The last of twenty-five hits, ten on a page. -/
def partPage : Pagination :=
  ⟨fullPage.pageSize, 20, 25⟩

/-- The same position when the hits on it are gone. -/
def emptiedPage : Pagination :=
  ⟨fullPage.pageSize, 20, 20⟩

/-- The third page shows the last five of twenty-five hits. When they are gone, it is still a page
that one can be on. -/
theorem pages_show_hits_unless_full_emptiedPage :
    (partPage.Reachable ∧ ¬partPage.size ∣ partPage.totalHits ∧
      partPage.offset < partPage.totalHits ∧
        (partPage.hasNext = true → partPage.offset + partPage.size < partPage.totalHits) ∧
          partPage.lastPage = partPage.filledPages) ∧
    (emptiedPage.Reachable ∧ emptiedPage.size ∣ emptiedPage.totalHits ∧
      emptiedPage.offset ≤ emptiedPage.totalHits ∧
        (emptiedPage.hasNext = true ↔ emptiedPage.offset < emptiedPage.totalHits) ∧
          emptiedPage.lastPage = emptiedPage.filledPages + 1) := by
  have hpart : partPage.Reachable :=
    ⟨fullPage.pageSize, [.setTotalHits 25, .setOffset 30], by decide⟩
  have hemptied : emptiedPage.Reachable :=
    ⟨fullPage.pageSize, [.setTotalHits 25, .setOffset 30, .setTotalHits 20], by decide⟩
  have hleft : ¬partPage.size ∣ partPage.totalHits := by decide
  have hfull : emptiedPage.size ∣ emptiedPage.totalHits := by decide
  obtain ⟨-, hshows, -⟩ := pages_show_hits_unless_full hpart
  obtain ⟨-, -, hempty⟩ := pages_show_hits_unless_full hemptied
  exact ⟨⟨hpart, hleft, hshows hleft⟩, hemptied, hfull, hempty hfull⟩

end CampusBoard.Pagination
