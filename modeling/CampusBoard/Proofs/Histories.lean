import Mathlib.Data.List.Induction
import Mathlib.Tactic.Lemma

/-!
# Histories

What holds at the end of a run is often the work of one moment of it, which nothing after it has
undone. A history is a list that grows at its end, so such a statement is shown of a run by saying
what the last moment can do to it.

## Main definitions

* `CampusBoard.Since`: a moment of a history brought something that nothing has taken since.

## Main results

* `CampusBoard.split_concat`: where a history that grew by one moment can be taken apart.
* `CampusBoard.since_concat`: what the last moment does to `Since`.
-/

set_option autoImplicit false

namespace CampusBoard

variable {α : Type}

/-- Where a history that grew by one moment is taken apart at a moment, that is the new one, or the
history before is taken apart in the same way. -/
lemma split_concat {history before later : List α} {last moment : α}
    (h : history ++ [last] = before ++ moment :: later) :
    (moment = last ∧ before = history ∧ later = []) ∨
      ∃ rest, later = rest ++ [last] ∧ history = before ++ moment :: rest := by
  rcases List.eq_nil_or_concat later with rfl | ⟨rest, other, rfl⟩
  · obtain ⟨rfl, hlast⟩ := List.append_inj' h rfl
    exact .inl ⟨(List.singleton_inj.mp hlast).symm, rfl, rfl⟩
  · rw [List.concat_eq_append, ← List.cons_append, ← List.append_assoc] at h
    obtain ⟨rfl, hlast⟩ := List.append_inj' h rfl
    obtain rfl := List.singleton_inj.mp hlast
    exact .inr ⟨rest, List.concat_eq_append, rfl⟩

/-- A moment of a history, after what was `before` it, brought something, and no later moment has
taken it. -/
def Since (brings : List α → α → Prop) (takes : α → Prop) (history : List α) : Prop :=
  ∃ before moment later, history = before ++ moment :: later ∧ brings before moment ∧
    ∀ other ∈ later, ¬takes other

variable (brings : List α → α → Prop) (takes : α → Prop)

/-- At first nothing was brought. -/
lemma not_since_nil : ¬Since brings takes [] := by
  rintro ⟨before, moment, later, hsplit, -⟩
  simp at hsplit

/-- **The last moment of a history** brings something, or it was brought before and the last moment
does not take it.

**Proof sketch.** The moment that brought it is the last one or stands before it
(`split_concat`). -/
theorem since_concat (history : List α) (last : α) :
    Since brings takes (history ++ [last]) ↔
      brings history last ∨ Since brings takes history ∧ ¬takes last := by
  constructor
  · rintro ⟨before, moment, later, hsplit, hbrings, hlater⟩
    rcases split_concat hsplit with ⟨rfl, rfl, -⟩ | ⟨rest, rfl, rfl⟩
    · exact .inl hbrings
    · refine .inr ⟨⟨before, moment, rest, rfl, hbrings, ?_⟩, hlater last (by simp)⟩
      intro other hother
      exact hlater other (List.mem_append_left _ hother)
  · rintro (hbrings | ⟨⟨before, moment, later, rfl, hbrings, hlater⟩, hlast⟩)
    · exact ⟨history, last, [], rfl, hbrings, by simp⟩
    · refine ⟨before, moment, later ++ [last], by simp, hbrings, ?_⟩
      intro other hother
      rcases List.mem_append.mp hother with hother | hother
      · exact hlater other hother
      · obtain rfl := List.mem_singleton.mp hother
        exact hlast

end CampusBoard
