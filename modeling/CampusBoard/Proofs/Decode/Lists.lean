import CampusBoard.Decode.Scalar
import Mathlib.Data.List.Forall2
import Mathlib.Tactic.Lemma

/-!
# Reading a list of values

A list is read item by item, up to the first item that cannot be read.

## Main definitions

* `CampusBoard.Decode.FirstRefused`: the first value of a list that a reader refuses.

## Main results

* `CampusBoard.Decode.mapM_eq_ok_iff`: a list is read if each of its items is.
* `CampusBoard.Decode.mapM_eq_error_iff`: it is refused for the reason of the first that is not.
-/

set_option autoImplicit false

namespace CampusBoard.Decode

variable {α : Type} (read : Reader α)

/-- The first value of a list that a reader refuses is refused for this reason. -/
def FirstRefused (values : List Json) (reason : DecodeError) : Prop :=
  ∃ before value after, values = before ++ value :: after ∧
    (∀ earlier ∈ before, ∃ a, read earlier = .ok a) ∧ read value = .error reason

/-- A list that begins with a value that is read is refused for a reason if the others are. -/
lemma firstRefused_cons_of_ok {value : Json} {a : α} (h : read value = .ok a) (rest : List Json)
    (reason : DecodeError) :
    FirstRefused read (value :: rest) reason ↔ FirstRefused read rest reason := by
  constructor
  · rintro ⟨before, refused, after, hsplit, hbefore, hrefused⟩
    cases before with
    | nil =>
      obtain ⟨rfl, -⟩ := List.cons.inj hsplit
      rw [h] at hrefused
      cases hrefused
    | cons first before =>
      obtain ⟨-, rfl⟩ := List.cons.inj hsplit
      refine ⟨before, refused, after, rfl, ?_, hrefused⟩
      intro earlier hearlier
      exact hbefore earlier (List.mem_cons_of_mem _ hearlier)
  · rintro ⟨before, refused, after, rfl, hbefore, hrefused⟩
    refine ⟨value :: before, refused, after, rfl, ?_, hrefused⟩
    intro earlier hearlier
    rcases List.mem_cons.mp hearlier with rfl | hearlier
    · exact ⟨a, h⟩
    · exact hbefore earlier hearlier

/-- A list that begins with a value that is refused is refused for the same reason. -/
lemma firstRefused_cons_of_error {value : Json} {e : DecodeError} (h : read value = .error e)
    (rest : List Json) (reason : DecodeError) :
    FirstRefused read (value :: rest) reason ↔ e = reason := by
  constructor
  · rintro ⟨before, refused, after, hsplit, hbefore, hrefused⟩
    cases before with
    | nil =>
      obtain ⟨rfl, -⟩ := List.cons.inj hsplit
      rw [h] at hrefused
      exact Except.error.inj hrefused
    | cons first before =>
      obtain ⟨rfl, -⟩ := List.cons.inj hsplit
      obtain ⟨a, ha⟩ := hbefore value List.mem_cons_self
      rw [h] at ha
      cases ha
  · rintro rfl
    exact ⟨[], value, rest, rfl, by simp, h⟩

/-- **A list is refused for the reason of its first item that is refused.** -/
theorem mapM_eq_error_iff (values : List Json) (reason : DecodeError) :
    values.mapM read = .error reason ↔ FirstRefused read values reason := by
  induction values with
  | nil =>
    constructor
    · intro h
      cases h
    · rintro ⟨before, value, after, hsplit, -⟩
      simp at hsplit
  | cons value rest ih =>
    rw [List.mapM_cons]
    cases h : read value with
    | error e =>
      rw [firstRefused_cons_of_error read h]
      exact Except.error.injEq e reason ▸ Iff.rfl
    | ok a =>
      rw [firstRefused_cons_of_ok read h, ← ih]
      cases rest.mapM read <;> simp [bind, Except.bind, pure, Except.pure]

/-- **A list is read if each of its items is**, in the order of the items. -/
theorem mapM_eq_ok_iff (values : List Json) (as : List α) :
    values.mapM read = .ok as ↔ List.Forall₂ (fun value a => read value = .ok a) values as := by
  induction values generalizing as with
  | nil =>
    rw [List.mapM_nil, List.forall₂_nil_left_iff]
    exact ⟨fun h => (Except.ok.inj h).symm, fun h => h ▸ rfl⟩
  | cons value rest ih =>
    rw [List.mapM_cons, List.forall₂_cons_left_iff]
    cases h : read value with
    | error e => simp [bind, Except.bind]
    | ok a =>
      have ih' := fun as => (ih as).symm
      cases hrest : rest.mapM read with
      | error e => simp [ih', hrest, bind, Except.bind]
      | ok others => simp [ih', hrest, bind, Except.bind, pure, Except.pure, eq_comm]

end CampusBoard.Decode
