import CampusBoard.Traffic.Chart
import Mathlib.Data.List.Sort
import Mathlib.Tactic.Lemma

/-!
# Charts rank their bars

A chart shows the bars that it was given, the tallest first, and bars of one height in the order in
which they were given. This leaves no choice, so a chart depends on nothing but its bars.

## Design

Bars that are alike cannot be told apart in a list, so the order in which bars were given is said of
the places at which they were given: a ranking is a list of bars that carry the numbers of their
places. No two places are the same, which makes the order of such a list strict, and a list is
determined by its members and a strict order.

## Main definitions

* `CampusBoard.TrafficChart.IsRanking`: a list shows given bars as a chart does.

## Main results

* `CampusBoard.TrafficChart.isRanking_ordered`: the bars of a chart are a ranking of those given.
* `CampusBoard.TrafficChart.IsRanking.unique`: there is no other ranking.
* `CampusBoard.TrafficChart.IsRanking.filter_eq`: among equally tall bars a ranking changes nothing.
* `CampusBoard.TrafficChart.setBars_shows_the_ranking`: what a chart shows.
-/

set_option autoImplicit false

namespace CampusBoard.TrafficChart

/-- A list shows given bars as a chart does. -/
structure IsRanking (bars shown : List TrafficBar) : Prop where
  /-- Each bar stands in it as often as it was given. -/
  perm : shown.Perm bars
  /-- The visitors never increase from one bar to a later one. -/
  descending : shown.Pairwise fun a b => b.visitors ≤ a.visitors
  /-- Bars with equally many visitors follow each other in the order of their places among the
  bars that were given. -/
  ties : ∃ numbered : List (TrafficBar × Nat), numbered.map Prod.fst = shown ∧
    numbered.Perm bars.zipIdx ∧
      numbered.Pairwise fun a b => a.1.visitors = b.1.visitors → a.2 < b.2

variable {bars shown other : List TrafficBar}

/-- The places of given bars increase from bar to bar. -/
lemma pairwise_zipIdx (bars : List TrafficBar) : bars.zipIdx.Pairwise fun a b => a.2 < b.2 := by
  have hplaces : (bars.zipIdx.map Prod.snd).Pairwise (· < ·) := by
    rw [List.zipIdx_map_snd]
    exact List.pairwise_lt_range'
  exact List.pairwise_map.mp hplaces

/-! ## One ranking -/

/-- **There is no other ranking.** -/
theorem IsRanking.unique (h : IsRanking bars shown) (h' : IsRanking bars other) :
    shown = other := by
  obtain ⟨numbered, rfl, hperm, hties⟩ := h.ties
  obtain ⟨numbered', rfl, hperm', hties'⟩ := h'.ties
  have hsorted := (List.pairwise_map.mp h.descending).and hties
  have hsorted' := (List.pairwise_map.mp h'.descending).and hties'
  have hsame : numbered = numbered' := by
    refine List.Perm.eq_of_pairwise ?_ hsorted hsorted' (hperm.trans hperm'.symm)
    rintro a b - - ⟨hle, hbefore⟩ ⟨hle', hbefore'⟩
    -- Two numbered bars that come before each other would be equally tall.
    have heq : a.1.visitors = b.1.visitors := UInt64.le_antisymm hle' hle
    have hlt := hbefore heq
    have hlt' := hbefore' heq.symm
    omega
  rw [hsame]

/-- **Among equally tall bars a ranking changes nothing.** -/
theorem IsRanking.filter_eq (h : IsRanking bars shown) (visitors : UInt64) :
    shown.filter (fun b => b.visitors = visitors) =
      bars.filter fun b => b.visitors = visitors := by
  obtain ⟨numbered, rfl, hperm, hties⟩ := h.ties
  have hincreasing : (numbered.filter fun b => b.1.visitors = visitors).Pairwise
      fun a b => a.2 < b.2 := by
    refine (hties.filter _).imp_of_mem ?_
    intro a b ha hb hbefore
    have htall := of_decide_eq_true (List.mem_filter.mp ha).2
    have htall' := of_decide_eq_true (List.mem_filter.mp hb).2
    exact hbefore (htall.trans htall'.symm)
  have hsame : (numbered.filter fun b => b.1.visitors = visitors) =
      bars.zipIdx.filter fun b => b.1.visitors = visitors := by
    refine List.Perm.eq_of_pairwise ?_ hincreasing ((pairwise_zipIdx bars).filter _)
      (hperm.filter _)
    intro a b _ _ hlt hlt'
    omega
  calc (numbered.map Prod.fst).filter (fun b => b.visitors = visitors)
      = (numbered.filter fun b => b.1.visitors = visitors).map Prod.fst := List.filter_map
    _ = (bars.zipIdx.filter fun b => b.1.visitors = visitors).map Prod.fst := by rw [hsame]
    _ = (bars.zipIdx.map Prod.fst).filter (fun b => b.visitors = visitors) := by
        rw [List.filter_map]
        rfl
    _ = bars.filter fun b => b.visitors = visitors := by rw [List.zipIdx_map_fst]

/-! ## The ranking of a chart -/

/-- Whether a bar may stand before another one. -/
def mayPrecede (a b : TrafficBar) : Bool :=
  decide (b.visitors ≤ a.visitors)

/-- What may stand before a bar may stand before what follows it. -/
lemma mayPrecede_trans (a b c : TrafficBar) (hab : mayPrecede a b = true)
    (hbc : mayPrecede b c = true) : mayPrecede a c = true := by
  simp only [mayPrecede, decide_eq_true_eq] at *
  exact UInt64.le_trans hbc hab

/-- Of two bars one may stand before the other. -/
lemma mayPrecede_total (a b : TrafficBar) : (mayPrecede a b || mayPrecede b a) = true := by
  simp only [mayPrecede, Bool.or_eq_true, decide_eq_true_eq]
  exact UInt64.le_total _ _

/-- **The bars of a chart are a ranking of those given.**

**Proof sketch.** Sorting the bars is sorting the numbered bars by height and then by place, and
dropping the numbers. No two numbers are the same, so of two equally tall bars the first one was
given at an earlier place. -/
theorem isRanking_ordered (bars : List TrafficBar) : IsRanking bars (ordered bars) where
  perm := List.mergeSort_perm _ _
  descending := by
    have hsorted := List.pairwise_mergeSort mayPrecede_trans mayPrecede_total bars
    exact hsorted.imp of_decide_eq_true
  ties := by
    have hsorted := List.pairwise_mergeSort (List.zipIdxLE_trans mayPrecede_trans)
      (List.zipIdxLE_total mayPrecede_total) bars.zipIdx
    have hperm := List.mergeSort_perm bars.zipIdx (List.zipIdxLE mayPrecede)
    have hplaces : (bars.zipIdx.mergeSort (List.zipIdxLE mayPrecede)).Pairwise
        fun a b => a.2 ≠ b.2 :=
      hperm.symm.pairwise ((pairwise_zipIdx bars).imp Nat.ne_of_lt) Ne.symm
    refine ⟨_, List.mergeSort_zipIdx, hperm, (hsorted.and hplaces).imp ?_⟩
    rintro a b ⟨hle, hne⟩ htie
    have hplace : a.2 ≤ b.2 := by simpa [List.zipIdxLE, mayPrecede, htie] using hle
    exact Nat.lt_of_le_of_ne hplace hne

/-- **A chart shows the ranking of its bars**, whatever it showed before. The list that it shows is
the only one in which each bar stands as often as it was given, the visitors never increase, and
bars with equally many visitors keep their order; so the bars with any one number of visitors are
the same list before and after. Giving a chart the bars that it shows changes nothing.

**Proof sketch.** The sorted bars are a ranking (`isRanking_ordered`), and there is no other one
(`IsRanking.unique`). -/
theorem setBars_shows_the_ranking (bars : List TrafficBar) (c : TrafficChart) :
    (∀ shown, IsRanking bars shown ↔ shown = (c.setBars bars).bars) ∧
    (∀ before : TrafficChart, before.setBars bars = c.setBars bars) ∧
    (c.setBars bars).setBars (c.setBars bars).bars = c.setBars bars ∧
    ∀ visitors : UInt64,
      (c.setBars bars).bars.filter (fun b => b.visitors = visitors) =
        bars.filter fun b => b.visitors = visitors := by
  have hranking : IsRanking bars (c.setBars bars).bars := isRanking_ordered bars
  refine ⟨?_, fun _ => rfl, ?_, hranking.filter_eq⟩
  · intro shown
    constructor
    · intro h
      exact h.unique hranking
    · rintro rfl
      exact hranking
  · have hsorted : (ordered bars).Pairwise fun a b => mayPrecede a b = true :=
      hranking.descending.imp decide_eq_true
    exact congrArg TrafficChart.mk (List.mergeSort_of_pairwise hsorted)

end CampusBoard.TrafficChart
