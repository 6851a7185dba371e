import CampusBoard.Search.Controller
import Mathlib.Data.List.Induction
import Mathlib.Tactic.Lemma

/-!
# Runs of search controllers

What one operation keeps, a whole run keeps, both in the state at the end and in the states that
the listener was shown on the way.

## Design

An operation moves a controller through one or two states. `Transition.All` speaks of all of them at
once, so that an invariant is proved once for each operation and never again for what the listener
sees. Next to it stand the parts of a controller that an operation changes independently of the
others: the scope and the form. The page size is not changed at all.

## Main definitions

* `CampusBoard.Transition.All`: a property of the state after an operation and of all shown states.
* `CampusBoard.Operation.editForm`, `CampusBoard.Operation.chooseScope`: what an operation does to
  the form and to the scope.

## Main results

* `CampusBoard.Controller.all_run`: what each operation keeps, a run keeps.
* `CampusBoard.Operation.parts_run`: the form, the scope and the page size after an operation.
-/

set_option autoImplicit false

namespace CampusBoard

variable {d : Domain}

/-! ## Properties of all states of a transition -/

namespace Transition

/-- `P` holds of the state after an operation and of each state that the listener was shown. -/
def All (P : Controller d → Prop) (t : Transition d) : Prop :=
  P t.state ∧ ∀ c ∈ t.shown, P c

/-- A change is shown as it is. -/
lemma all_changed {P : Controller d → Prop} {c : Controller d} (h : P c) :
    (Controller.changed c).All P := by
  refine ⟨h, fun c' hc' => ?_⟩
  obtain rfl : c' = c := by simpa [Controller.changed] using hc'
  exact h

/-- No change shows nothing. -/
lemma all_unchanged {P : Controller d → Prop} {c : Controller d} (h : P c) :
    (Controller.unchanged c).All P :=
  ⟨h, by simp [Controller.unchanged]⟩

/-- Two transitions in a row show the states of both. -/
lemma All.andThen {P : Controller d → Prop} {t : Transition d} {next : Controller d → Transition d}
    (h : t.All P) (hnext : (next t.state).All P) : (t.andThen next).All P := by
  refine ⟨hnext.1, fun c hc => ?_⟩
  rcases List.mem_append.1 hc with hc | hc
  · exact h.2 c hc
  · exact hnext.2 c hc

/-- A weaker property holds as well. -/
lemma All.mono {P Q : Controller d → Prop} {t : Transition d} (h : t.All P)
    (himp : ∀ c, P c → Q c) : t.All Q :=
  ⟨himp _ h.1, fun c hc => himp c (h.2 c hc)⟩

end Transition

/-! ## Runs -/

namespace Controller

/-- No operation changes nothing. -/
lemma run_nil (c : Controller d) : c.run [] = c.unchanged :=
  rfl

/-- The last operation of a run starts from the state after the others. -/
lemma run_concat (c : Controller d) (ops : List (Operation d)) (op : Operation d) :
    c.run (ops ++ [op]) = (c.run ops).andThen op.run := by
  simp [run, List.foldl_append]

/-- The state after the last operation of a run. -/
lemma state_run_concat (c : Controller d) (ops : List (Operation d)) (op : Operation d) :
    (c.run (ops ++ [op])).state = (op.run (c.run ops).state).state := by
  rw [run_concat]
  rfl

/-- A run can be taken apart at any point. -/
lemma state_run_append (c : Controller d) (first second : List (Operation d)) :
    (c.run (first ++ second)).state = ((c.run first).state.run second).state := by
  induction second using List.reverseRecOn with
  | nil => simp [run_nil, unchanged]
  | append_singleton second op ih =>
    rw [← List.append_assoc, state_run_concat, ih, ← state_run_concat]

/-- **A run keeps what each of its operations keeps**, at its end and in all that is shown.

**Proof sketch.** Induction on the run from its end. The states of the last operation satisfy `P`
by assumption, since it starts from the state after the others. -/
theorem all_run {P : Controller d → Prop} {c : Controller d} {ops : List (Operation d)} (hc : P c)
    (hstep : ∀ op ∈ ops, ∀ c, P c → (op.run c).All P) : (c.run ops).All P := by
  induction ops using List.reverseRecOn with
  | nil => exact Transition.all_unchanged hc
  | append_singleton ops op ih =>
    have hops : (c.run ops).All P :=
      ih fun op' hop' => hstep op' (List.mem_append_left _ hop')
    rw [run_concat]
    exact hops.andThen (hstep op (by simp) _ hops.1)

end Controller

/-! ## The state after one operation -/

namespace Controller

/-- A direction is taken over only by a query that is sorted. -/
@[simp]
lemma state_setSortDirection (direction : SortDirection) (c : Controller d) :
    (c.setSortDirection direction).state =
      if c.form.isSorted then
        { c with form := c.form.setSortDirection direction, pagination := c.pagination.reset }
      else c := by
  unfold setSortDirection
  split <;> rfl

/-- After clearing there is no error, whether there was one or not. -/
@[simp]
lemma state_clearError (c : Controller d) : c.clearError.state = { c with error := "" } := by
  unfold clearError
  split
  · rename_i h
    rw [← h]
    rfl
  · rfl

/-- Another scope takes the hits and the position with it. -/
@[simp]
lemma state_setScope (scope : d.Scope) (c : Controller d) :
    (c.setScope scope).state =
      if c.scope = scope then c
      else
        { c with
          scope := scope, results := .none d, pagination := c.pagination.setTotalHits 0 } := by
  unfold setScope
  split <;> rfl

/-- The hits of a search that succeeded replace the ones before, and no error is shown. -/
@[simp]
lemma state_applyOutcome_ok (maxChars : Nat) (results : ResultSet d) (c : Controller d) :
    (c.applyOutcome maxChars (.ok results)).state =
      { c with
        error := "", results := results,
        pagination := c.pagination.setTotalHits results.totalHits } := by
  change (c.clearError.state.applyResults results).state = _
  rw [state_clearError]
  rfl

/-- A search that failed leaves its error and nothing else. -/
@[simp]
lemma state_applyOutcome_error (maxChars : Nat) (e : TransportError) (c : Controller d) :
    (c.applyOutcome maxChars (.error e)).state = { c with error := e.userMessage maxChars } :=
  rfl

end Controller

/-! ## The form, the scope and the page size -/

/-- A query without a sort has no direction to change. -/
lemma QueryForm.setSortDirection_of_not_isSorted {q : QueryForm d} (h : ¬q.isSorted)
    (direction : SortDirection) : q.setSortDirection direction = q := by
  obtain ⟨text, filters, sort⟩ := q
  obtain rfl : sort = none := by simpa [isSorted] using h
  rfl

namespace Operation

/-- What an operation does to the form. -/
def editForm : Operation d → QueryForm d → QueryForm d
  | .setText text => .setText text
  | .setFilter update => .setFilter update
  | .setSortField field => .setSortField field
  | .setSortDirection direction => .setSortDirection direction
  | .clearQuery => fun _ => .initial d
  | _ => id

/-- What an operation does to the scope. -/
def chooseScope : Operation d → d.Scope → d.Scope
  | .setScope scope => fun _ => scope
  | _ => id

/-- **What an operation does to the parts that it changes independently of each other.** The form
and the scope change as `editForm` and `chooseScope` say, whatever else the controller holds, and
the page size stays.

**Proof sketch.** By cases on the operation. Only a direction and a scope may leave the controller
as it is: the one where nothing is sorted, the other where it was chosen already. -/
theorem parts_run (op : Operation d) (c : Controller d) :
    (op.run c).state.form = op.editForm c.form ∧
      (op.run c).state.scope = op.chooseScope c.scope ∧
      (op.run c).state.pagination.pageSize = c.pagination.pageSize := by
  cases op with
  | setSortDirection direction =>
    simp only [run, editForm, chooseScope, Controller.state_setSortDirection]
    split
    · exact ⟨rfl, rfl, rfl⟩
    · rename_i h
      exact ⟨(QueryForm.setSortDirection_of_not_isSorted h direction).symm, rfl, rfl⟩
  | clearError => simp [run, editForm, chooseScope]
  | setScope scope =>
    simp only [run, editForm, chooseScope, Controller.state_setScope]
    split
    · rename_i h
      exact ⟨rfl, h, rfl⟩
    · exact ⟨rfl, rfl, rfl⟩
  | applyOutcome maxChars outcome =>
    cases outcome <;> simp [run, editForm, chooseScope, Pagination.setTotalHits]
  | _ => exact ⟨rfl, rfl, rfl⟩

/-- The form after an operation depends on the form before and on nothing else. -/
lemma form_run (op : Operation d) (c : Controller d) :
    (op.run c).state.form = op.editForm c.form :=
  (op.parts_run c).1

/-- The scope after an operation is the one that the operation chooses, if it chooses one. -/
lemma scope_run (op : Operation d) (c : Controller d) :
    (op.run c).state.scope = op.chooseScope c.scope :=
  (op.parts_run c).2.1

/-- The page size never changes. -/
lemma pageSize_run (op : Operation d) (c : Controller d) :
    (op.run c).state.pagination.pageSize = c.pagination.pageSize :=
  (op.parts_run c).2.2

end Operation

/-- The page size at the end of a run is the one at its start. -/
lemma Controller.pageSize_run (c : Controller d) (ops : List (Operation d)) :
    (c.run ops).state.pagination.pageSize = c.pagination.pageSize := by
  induction ops using List.reverseRecOn with
  | nil => rfl
  | append_singleton ops op ih => rw [state_run_concat, Operation.pageSize_run, ih]

end CampusBoard
