import Mathlib.Data.List.Basic
import Mathlib.Data.List.TakeWhile
import Mathlib.Tactic.Common
import Mathlib.Tactic.Lemma

/-!
# Cutting a text

A text is cut in two at the first character that is not of a class, at the first place where a mark
stands, or after the first place where a word stands.

## Main definitions

* `CampusBoard.Text.cut`: what stands before and after the first mark.
* `CampusBoard.Text.afterWord?`: what stands after the first occurrence of a word.

## Main results

* `CampusBoard.Text.takeWhile_append_of_head?`, `CampusBoard.Text.dropWhile_append_of_head?`: where
  the characters of a class end.
* `CampusBoard.Text.cut_eq_some_iff`: where a text is cut.
* `CampusBoard.Text.cut_of_notMem`: a text without the mark is not cut.
-/

set_option autoImplicit false

namespace CampusBoard.Text

/-! ## Classes -/

section Classes

variable {p : Char → Bool} {cs rest : List Char} (h : ∀ c ∈ cs, p c = true)
  (hrest : ∀ c ∈ rest.head?, p c = false)

include h hrest

/-- The characters of a class end at the first that is not of it. -/
lemma takeWhile_append_of_head? : (cs ++ rest).takeWhile p = cs := by
  rw [List.takeWhile_append_of_pos h]
  cases rest with
  | nil => simp
  | cons c after => simp [hrest c rfl]

/-- What follows them begins there. -/
lemma dropWhile_append_of_head? : (cs ++ rest).dropWhile p = rest := by
  rw [List.dropWhile_append_of_pos h]
  cases rest with
  | nil => rfl
  | cons c after => simp [hrest c rfl]

end Classes

/-! ## Marks -/

/-- What stands before the first `mark`, and what stands after it, if there is one. -/
def cut (mark : Char) (cs : List Char) : List Char × Option (List Char) :=
  (cs.takeWhile (· != mark), (cs.dropWhile (· != mark)).tail?)

variable {mark : Char} {cs before after : List Char}

/-- A text without the mark is not cut. -/
lemma cut_of_notMem (h : mark ∉ cs) : cut mark cs = (cs, none) := by
  have hall : ∀ c ∈ cs, (c != mark) = true := by
    intro c hc
    simpa using ne_of_mem_of_not_mem hc h
  rw [cut, List.takeWhile_eq_self_iff.mpr hall, List.dropWhile_eq_nil_iff.mpr hall]
  rfl

/-- A text is cut at the first mark. -/
lemma cut_append (h : mark ∉ before) :
    cut mark (before ++ mark :: after) = (before, some after) := by
  have hall : ∀ c ∈ before, (c != mark) = true := by
    intro c hc
    simpa using ne_of_mem_of_not_mem hc h
  have hend : ∀ c ∈ (mark :: after).head?, (c != mark) = false := by simp
  rw [cut, takeWhile_append_of_head? hall hend, dropWhile_append_of_head? hall hend]
  rfl

/-- **Where a text is cut.** -/
theorem cut_eq_some_iff :
    cut mark cs = (before, some after) ↔ cs = before ++ mark :: after ∧ mark ∉ before := by
  constructor
  · intro h
    by_cases hmark : mark ∈ cs
    · obtain ⟨front, back, rfl, hfront⟩ := List.eq_append_cons_of_mem hmark
      rw [cut_append hfront] at h
      obtain ⟨rfl, hback⟩ := Prod.mk.inj h
      obtain rfl := Option.some.inj hback
      exact ⟨rfl, hfront⟩
    · rw [cut_of_notMem hmark] at h
      cases h
  · rintro ⟨rfl, h⟩
    exact cut_append h

/-! ## Words -/

/-- What stands after the first occurrence of `word`, if there is one. -/
def afterWord? (word : List Char) : List Char → Option (List Char)
  | [] => if word.isEmpty then some [] else none
  | c :: cs => if word.isPrefixOf (c :: cs) then some ((c :: cs).drop word.length)
    else afterWord? word cs

end CampusBoard.Text
