import CampusBoard.Search.Pagination
import Mathlib.Data.List.Basic
import Mathlib.Logic.Function.Iterate
import Mathlib.Tactic.Common
import Mathlib.Tactic.Lemma

/-!
# Going through all pages

Going on from the first page as long as a page follows, one comes past every hit exactly once, in
order, and stops on the last page.

## Design

The loop is defined by recursion on what is left to the last page. It is then described without
recursion: it visits the pages by their number, from the first to the last. The page with number
`k` is `Pagination.page`, and each of the ways to move has a short lemma on it.

## Main definitions

* `CampusBoard.Pagination.walk`: the positions on the way to the last page.
* `CampusBoard.Pagination.hitNumbers`: the hits on a page.
* `CampusBoard.Pagination.page`: the page with a given number.

## Main results

* `CampusBoard.Pagination.walk_reset`: the way visits the pages by their number.
* `CampusBoard.Pagination.flatMap_hitNumbers`: the first pages show the first hits.
* `CampusBoard.Pagination.walk_shows_each_hit_once`: all of it, with the other ways to move.
-/

set_option autoImplicit false

namespace CampusBoard.Pagination

/-! ## The way to the last page -/

/-- A page holds at least one hit. -/
lemma size_pos (p : Pagination) : 0 < p.size :=
  p.pageSize.get_pos

/-- Going on, one comes closer to the last page. -/
lemma left_increment_lt {p : Pagination} (h : p.hasNext = true) :
    p.increment.lastPageStart - p.increment.offset < p.lastPageStart - p.offset := by
  have hlt : p.offset < p.lastPageStart := of_decide_eq_true h
  have hpos := p.size_pos
  change p.lastPageStart - min (p.offset + p.size) p.lastPageStart < p.lastPageStart - p.offset
  omega

/-- The positions that one comes past by going on to the next page as long as there is one. -/
def walk (p : Pagination) : List Pagination :=
  if p.hasNext = true then p :: p.increment.walk else [p]
termination_by p.lastPageStart - p.offset
decreasing_by exact left_increment_lt ‹_›

/-- The numbers of the hits on the current page, the first hit having the number zero. -/
def hitNumbers (p : Pagination) : List Nat :=
  List.range' p.offset (min (p.offset + p.size) p.totalHits - p.offset)

/-- A page shows the hits from its position on, as many as fit on it and as there are. -/
lemma mem_hitNumbers {p : Pagination} {i : Nat} :
    i ∈ p.hitNumbers ↔ p.offset ≤ i ∧ i < p.offset + p.size ∧ i < p.totalHits := by
  rw [hitNumbers, List.mem_range'_1]
  omega

/-! ## Pages by their number -/

/-- The page with `k` pages before it. -/
def page (pageSize : PageSize) (total k : Nat) : Pagination :=
  ⟨pageSize, k * pageSize.get, total⟩

/-- The number of the last page is the number of full pages and one. -/
lemma lastPage_eq (p : Pagination) : p.lastPage = p.totalHits / p.size + 1 := by
  rw [lastPage, lastPageStart, Nat.mul_div_cancel _ p.size_pos]

section Page

variable (pageSize : PageSize) (total k : Nat)

/-- Pages are counted from one on. -/
lemma currentPage_page : (page pageSize total k).currentPage = k + 1 :=
  congrArg (· + 1) (Nat.mul_div_cancel k pageSize.get_pos)

/-- A page follows if there are more full pages. -/
lemma hasNext_page : (page pageSize total k).hasNext = true ↔ k < total / pageSize.get := by
  change decide (k * pageSize.get < total / pageSize.get * pageSize.get) = true ↔ _
  rw [decide_eq_true_iff, Nat.mul_lt_mul_right pageSize.get_pos]

variable {total k}

/-- The next page has the next number. -/
lemma increment_page (h : k < total / pageSize.get) :
    (page pageSize total k).increment = page pageSize total (k + 1) := by
  have hle : (k + 1) * pageSize.get ≤ total / pageSize.get * pageSize.get :=
    Nat.mul_le_mul_right _ h
  change Pagination.mk _ (min (k * pageSize.get + pageSize.get) _) _ = _
  rw [← Nat.succ_mul]
  exact congrArg (Pagination.mk pageSize · total) (Nat.min_eq_left hle)

/-- The page before has the number before. -/
lemma decrement_page :
    (page pageSize total (k + 1)).decrement = page pageSize total k := by
  refine congrArg (Pagination.mk pageSize · total) ?_
  change (k + 1) * pageSize.get - pageSize.get = k * pageSize.get
  rw [Nat.succ_mul, Nat.add_sub_cancel]

/-- A hit is shown on the page whose number is its quotient by the page size. -/
lemma mem_hitNumbers_page {i : Nat} :
    i ∈ (page pageSize total k).hitNumbers ↔ i / pageSize.get = k ∧ i < total := by
  have hfrom : k * pageSize.get ≤ i ↔ k ≤ i / pageSize.get :=
    (Nat.le_div_iff_mul_le pageSize.get_pos).symm
  have hto : i < k * pageSize.get + pageSize.get ↔ i / pageSize.get < k + 1 := by
    rw [← Nat.succ_mul, Nat.div_lt_iff_lt_mul pageSize.get_pos]
  rw [mem_hitNumbers]
  change k * pageSize.get ≤ i ∧ i < k * pageSize.get + pageSize.get ∧ i < total ↔ _
  rw [hfrom, hto]
  omega

end Page

/-- The first page has no page before it. -/
lemma reset_eq_page (p : Pagination) : p.reset = page p.pageSize p.totalHits 0 :=
  congrArg (Pagination.mk p.pageSize · p.totalHits) (Nat.zero_mul _).symm

/-- The page of a hit is the one that shows it. -/
lemma setOffset_eq_page {p : Pagination} {i : Nat} (h : i < p.totalHits) :
    p.setOffset i = page p.pageSize p.totalHits (i / p.size) := by
  have hle : i / p.size * p.size ≤ p.totalHits / p.size * p.size :=
    Nat.mul_le_mul_right _ (Nat.div_le_div_right (Nat.le_of_lt h))
  exact congrArg (Pagination.mk p.pageSize · p.totalHits) (Nat.min_eq_left hle)

/-! ## The pages on the way -/

section Walk

variable (pageSize : PageSize) (total : Nat)

/-- From a page on, the way visits the pages with the numbers from there to the last.

**Proof sketch.** Induction on how many pages follow. If none does, the way ends here. Otherwise it
goes on from the next page, after which one page less follows. -/
lemma walk_page {k : Nat} (h : k ≤ total / pageSize.get) :
    (page pageSize total k).walk =
      (List.range' k (total / pageSize.get - k + 1)).map (page pageSize total) := by
  induction hleft : total / pageSize.get - k generalizing k with
  | zero =>
    have hlast : ¬(page pageSize total k).hasNext = true := by
      rw [hasNext_page]
      omega
    rw [walk, if_neg hlast]
    rfl
  | succ left ih =>
    have hlt : k < total / pageSize.get := by omega
    rw [walk, if_pos ((hasNext_page ..).mpr hlt), increment_page pageSize hlt,
      ih (by omega) (by omega), List.range'_succ (s := k), List.map_cons]

/-- **The way visits the pages by their number**, from the first to the last. -/
theorem walk_reset (p : Pagination) :
    p.reset.walk = (List.range p.lastPage).map (page p.pageSize p.totalHits) := by
  rw [reset_eq_page, walk_page _ _ (Nat.zero_le _), lastPage_eq, List.range_eq_range', size]
  rfl

/-- Going on as often as a page follows, one comes to the page of that number. -/
lemma iterate_increment_reset (p : Pagination) {k : Nat} (h : k < p.lastPage) :
    increment^[k] p.reset = page p.pageSize p.totalHits k := by
  induction k with
  | zero => exact p.reset_eq_page
  | succ k ih =>
    have hlt : k < p.totalHits / p.size := by
      rw [lastPage_eq] at h
      omega
    rw [Function.iterate_succ_apply', ih (by omega), increment_page _ hlt]

/-- The pages on the way, by their number. -/
lemma mem_walk_reset {p q : Pagination} :
    q ∈ p.reset.walk ↔ ∃ k < p.lastPage, page p.pageSize p.totalHits k = q := by
  rw [walk_reset, List.mem_map]
  simp only [List.mem_range]

/-- The numbers below a first one and those from it on. -/
lemma range_append_range' (first count : Nat) :
    List.range first ++ List.range' first count = List.range (first + count) := by
  have happend := List.range'_append_1 (s := 0) (m := first) (n := count)
  rwa [Nat.zero_add, ← List.range_eq_range', ← List.range_eq_range'] at happend

/-- **The first pages show the first hits**, each of them once and in order.

**Proof sketch.** Induction on the number of pages. The next page shows the hits from where the
pages before it end, or none if they showed all. -/
theorem flatMap_hitNumbers (count : Nat) :
    (List.range count).flatMap (fun k => (page pageSize total k).hitNumbers) =
      List.range (min (count * pageSize.get) total) := by
  induction count with
  | zero => simp
  | succ count ih =>
    rw [List.range_succ, List.flatMap_append, ih, List.flatMap_singleton, Nat.succ_mul]
    change _ ++ List.range' (count * pageSize.get)
      (min (count * pageSize.get + pageSize.get) total - count * pageSize.get) = _
    rcases Nat.le_total (count * pageSize.get) total with hle | hle
    · have hend : count * pageSize.get ≤ min (count * pageSize.get + pageSize.get) total := by
        omega
      rw [Nat.min_eq_left hle, range_append_range', Nat.add_sub_cancel' hend]
    · have hend : min (count * pageSize.get + pageSize.get) total = total := by omega
      rw [Nat.min_eq_right hle, hend, Nat.sub_eq_zero_of_le hle, List.range'_zero, List.append_nil]

/-- All pages together show all hits. -/
lemma flatMap_hitNumbers_walk (p : Pagination) :
    p.reset.walk.flatMap hitNumbers = List.range p.totalHits := by
  have hall : p.totalHits ≤ p.lastPage * p.size := by
    rw [lastPage_eq, Nat.succ_mul]
    exact Nat.le_of_lt (Nat.lt_div_mul_add p.size_pos)
  rw [walk_reset, List.flatMap_map, flatMap_hitNumbers]
  exact congrArg List.range (Nat.min_eq_right hall)

end Walk

/-- **Going through all pages shows each hit once.** From the first page, one can go on one time
less than there are pages, and then no page follows. The pages that one comes past are numbered from
one to the last. Put together, the hits on them are all hits, each once and in order, so no page
shows a hit that another shows, and a later page shows later hits. Moving to a hit, from any
position, leads to the one page on the way that shows it. On the way, going on and back again leads
to where one was. If the hits and one page more have numbers of 64 bits, then so has the end of
every page.

**Proof sketch.** The way visits the pages by their number (`walk_reset`). The hits on the first
pages are the first hits (`flatMap_hitNumbers`), by induction on the number of pages. A hit is on
the page whose number is its quotient by the page size, and that is where one moves to. -/
theorem walk_shows_each_hit_once (p : Pagination) :
    p.reset.walk = (List.range p.lastPage).map (fun k => increment^[k] p.reset) ∧
    (∀ k < p.lastPage, (increment^[k] p.reset).hasNext = true ↔ k < p.lastPage - 1) ∧
    p.reset.walk.map currentPage = List.range' 1 p.lastPage ∧
    p.reset.walk.flatMap hitNumbers = List.range p.totalHits ∧
    (p.reset.walk.Pairwise fun q r => ∀ i ∈ q.hitNumbers, ∀ j ∈ r.hitNumbers, i < j) ∧
    (∀ i < p.totalHits, p.setOffset i ∈ p.reset.walk ∧ i ∈ (p.setOffset i).hitNumbers ∧
      ∀ q ∈ p.reset.walk, i ∈ q.hitNumbers → q = p.setOffset i) ∧
    (∀ q ∈ p.reset.walk, q.hasNext = true → q.increment.decrement = q) ∧
    (p.totalHits + p.size < UInt64.size →
      ∀ q ∈ p.reset.walk, q.offset + q.size < UInt64.size) := by
  have hlast := p.lastPage_eq
  refine ⟨?_, ?_, ?_, flatMap_hitNumbers_walk p, ?_, ?_, ?_, ?_⟩
  · rw [walk_reset]
    refine List.map_congr_left fun k hk => ?_
    exact (p.iterate_increment_reset (List.mem_range.mp hk)).symm
  · intro k hk
    rw [p.iterate_increment_reset hk, hasNext_page]
    change k < p.totalHits / p.size ↔ _
    omega
  · rw [walk_reset, List.map_map, List.range'_eq_map_range]
    refine List.map_congr_left fun k _ => ?_
    exact (currentPage_page ..).trans (Nat.add_comm k 1)
  · have hsorted : (p.reset.walk.flatMap hitNumbers).Pairwise (· < ·) := by
      rw [flatMap_hitNumbers_walk]
      exact List.pairwise_lt_range
    exact (List.pairwise_flatMap.mp hsorted).2
  · intro i hi
    rw [setOffset_eq_page hi]
    refine ⟨mem_walk_reset.mpr ⟨i / p.size, ?_, rfl⟩, ?_, ?_⟩
    · have hle : i / p.size ≤ p.totalHits / p.size := Nat.div_le_div_right (Nat.le_of_lt hi)
      omega
    · exact (mem_hitNumbers_page _).mpr ⟨rfl, hi⟩
    · intro q hq hshown
      obtain ⟨k, -, rfl⟩ := mem_walk_reset.mp hq
      obtain ⟨rfl, -⟩ := (mem_hitNumbers_page _).mp hshown
      rfl
  · intro q hq hnext
    obtain ⟨k, -, rfl⟩ := mem_walk_reset.mp hq
    rw [increment_page _ ((hasNext_page ..).mp hnext), decrement_page]
  · intro hfit q hq
    obtain ⟨k, hk, rfl⟩ := mem_walk_reset.mp hq
    have hle : k * p.size ≤ p.totalHits / p.size * p.size := Nat.mul_le_mul_right _ (by omega)
    have htotal : p.totalHits / p.size * p.size ≤ p.totalHits := Nat.div_mul_le_self _ _
    change k * p.size + p.size < UInt64.size
    omega

/-- Twenty-four hits, twelve on a page, with the second page shown. -/
def twoFullPages : Pagination :=
  ⟨.standard, 12, 24⟩

/-- The way through two full pages goes on twice, so it ends on a third page, which shows nothing.
The last hit is on the second page only. -/
theorem walk_shows_each_hit_once_twoFullPages :
    (1 < twoFullPages.lastPage ∧
      ((increment^[1] twoFullPages.reset).hasNext = true ↔ 1 < twoFullPages.lastPage - 1)) ∧
    (23 < twoFullPages.totalHits ∧ twoFullPages.setOffset 23 ∈ twoFullPages.reset.walk ∧
      23 ∈ (twoFullPages.setOffset 23).hitNumbers ∧
      ∀ q ∈ twoFullPages.reset.walk, 23 ∈ q.hitNumbers → q = twoFullPages.setOffset 23) ∧
    (twoFullPages ∈ twoFullPages.reset.walk ∧ twoFullPages.hasNext = true ∧
      twoFullPages.increment.decrement = twoFullPages) ∧
    twoFullPages.totalHits + twoFullPages.size < UInt64.size ∧
      ∀ q ∈ twoFullPages.reset.walk, q.offset + q.size < UInt64.size := by
  obtain ⟨-, hsteps, -, -, -, hshown, hback, hfits⟩ := walk_shows_each_hit_once twoFullPages
  have hmem : twoFullPages ∈ twoFullPages.reset.walk :=
    mem_walk_reset.mpr ⟨1, by decide, by decide⟩
  have hnext : twoFullPages.hasNext = true := by decide
  have hfit : twoFullPages.totalHits + twoFullPages.size < UInt64.size := by decide
  exact ⟨⟨by decide, hsteps 1 (by decide)⟩, ⟨by decide, hshown 23 (by decide)⟩,
    ⟨hmem, hnext, hback _ hmem hnext⟩, hfit, hfits hfit⟩

/-- The pages on that way. -/
example : twoFullPages.reset.walk.map hitNumbers =
    [List.range' 0 12, List.range' 12 12, []] := by
  rw [walk_reset]
  decide

end CampusBoard.Pagination
