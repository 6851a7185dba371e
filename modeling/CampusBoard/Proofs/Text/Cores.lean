import CampusBoard.Text.Blank
import Mathlib.Data.List.DropRight
import Mathlib.Tactic.Common
import Mathlib.Tactic.Lemma

/-!
# What trimming leaves

Trimming leaves the one part of a text that has no blank at its ends and nothing but blanks around
it. Texts that differ only in the blanks at their ends leave the same.

## Main definitions

* `CampusBoard.Text.IsWrapped`: a text is another one with blanks around it.
* `CampusBoard.Text.IsBare`: a text has no blank at its ends.
* `CampusBoard.Text.EqualInside`: two texts differ only in the blanks at their ends.

## Main results

* `CampusBoard.Text.isWrapped_and_isBare_iff`: what trimming leaves.
* `CampusBoard.Text.equalInside_iff`: which texts it makes equal.
-/

set_option autoImplicit false

namespace CampusBoard.Text

/-- `cs` is `middle` with blanks in front of it and behind it, any number of each. -/
def IsWrapped (middle cs : List Char) : Prop :=
  ∃ front back, cs = front ++ middle ++ back ∧ (∀ c ∈ front, isBlank c = true) ∧
    ∀ c ∈ back, isBlank c = true

/-- There is no blank at the ends. -/
structure IsBare (cs : List Char) : Prop where
  /-- The first character is not blank. -/
  head : ∀ c ∈ cs.head?, isBlank c = false
  /-- The last character is not blank. -/
  last : ∀ c ∈ cs.getLast?, isBlank c = false

/-- Two texts differ only in the blanks at their ends. -/
def EqualInside (cs ds : List Char) : Prop :=
  ∃ middle, IsWrapped middle cs ∧ IsWrapped middle ds

variable {cs ds middle : List Char}

/-- Blanks behind a text make no difference. -/
lemma trimmed_append {back : List Char} (hback : ∀ c ∈ back, isBlank c = true) :
    trimmed (cs ++ back) = trimmed cs := by
  unfold trimmed
  rw [List.dropWhile_append]
  split
  · -- a text of blanks alone, of which nothing is left
    rename_i hblank
    rw [List.isEmpty_iff.mp hblank, List.dropWhile_eq_nil_iff.mpr hback]
  · rw [trimmedEnd, trimmedEnd, List.reverse_append,
      List.dropWhile_append_of_pos fun c hc => hback c (List.mem_reverse.mp hc)]

/-- Blanks around a text make no difference. -/
lemma IsWrapped.trimmed_eq (h : IsWrapped middle cs) : trimmed cs = trimmed middle := by
  obtain ⟨front, back, rfl, hfront, hback⟩ := h
  rw [trimmed_append hback, trimmed, List.dropWhile_append_of_pos hfront, trimmed]

/-- Trimming takes nothing but blanks. -/
lemma isWrapped_trimmed (cs : List Char) : IsWrapped (trimmed cs) cs := by
  refine ⟨cs.takeWhile isBlank, (cs.dropWhile isBlank).rtakeWhile isBlank, ?_,
    fun c => List.mem_takeWhile_imp, fun c => List.mem_rtakeWhile_imp⟩
  have hend : trimmed cs ++ (cs.dropWhile isBlank).rtakeWhile isBlank = cs.dropWhile isBlank :=
    List.rdropWhile_append_rtakeWhile
  rw [List.append_assoc, hend, List.takeWhile_append_dropWhile]

/-- Trimming leaves no blank at the ends. -/
lemma isBare_trimmed (cs : List Char) : IsBare (trimmed cs) := by
  refine ⟨head?_trimmed cs, ?_⟩
  rw [trimmed, trimmedEnd, List.getLast?_reverse]
  exact head?_dropWhile_isBlank _

/-- Trimming leaves a text as it is that has no blank at its ends. -/
lemma IsBare.trimmed_eq (h : IsBare cs) : trimmed cs = cs := by
  have hreverse : ∀ c ∈ cs.reverse.head?, isBlank c = false := by
    rw [List.head?_reverse]
    exact h.last
  rw [trimmed, dropWhile_isBlank h.head, trimmedEnd, dropWhile_isBlank hreverse,
    List.reverse_reverse]

/-- **What trimming leaves**: the only part that has no blank at its ends and nothing but blanks
around it. -/
theorem isWrapped_and_isBare_iff : IsWrapped middle cs ∧ IsBare middle ↔ trimmed cs = middle := by
  constructor
  · rintro ⟨hwrapped, hbare⟩
    rw [hwrapped.trimmed_eq, hbare.trimmed_eq]
  · rintro rfl
    exact ⟨isWrapped_trimmed cs, isBare_trimmed cs⟩

/-- **Trimming makes texts equal if and only if they differ only in the blanks at their ends.** -/
theorem equalInside_iff : EqualInside cs ds ↔ trimmed cs = trimmed ds := by
  constructor
  · rintro ⟨middle, hcs, hds⟩
    rw [hcs.trimmed_eq, hds.trimmed_eq]
  · intro h
    exact ⟨trimmed ds, h ▸ isWrapped_trimmed cs, isWrapped_trimmed ds⟩

variable {s t core : String}

/-- What trimming leaves of a text, as a text. -/
lemma isWrapped_and_isBare_iff_trim :
    IsWrapped core.toList s.toList ∧ IsBare core.toList ↔ trim s = core := by
  rw [isWrapped_and_isBare_iff, ← String.toList_inj, trim, String.toList_ofList]

/-- Which texts trimming makes equal, as texts. -/
lemma equalInside_iff_trim : EqualInside s.toList t.toList ↔ trim s = trim t := by
  rw [equalInside_iff, trim, trim, String.ofList_inj]

end CampusBoard.Text
