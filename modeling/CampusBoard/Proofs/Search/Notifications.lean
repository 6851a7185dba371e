import CampusBoard.Proofs.Search.History
import CampusBoard.Search.Engine

/-!
# A listener is never behind

The listener of a controller is shown the controller after each change and at no other time. So a
view that redraws only when it is shown something always shows the controller as it is, and the
number of times that it redraws can be counted off what was done.

## Design

Reading something off a controller gives no transition, so in a run readings stand between the
operations as moments at which nothing happens. `Transition.UpToDate` says that whoever has kept the
last shown state has the state itself; two transitions in a row hand it on, so it is shown once for
every way in which an operation is put together. How often the listener is shown something hangs on
a few questions to the controller before the operation, which `Access.isIdle` asks, and
`Access.dropsError` for a search that takes over hits.

## Main definitions

* `CampusBoard.Access`, `CampusBoard.Controller.visit`: readings and operations, and runs of both.
* `CampusBoard.Access.isIdle`: what changes nothing by its own rules.
* `CampusBoard.Transition.UpToDate`: the last shown state is the state.

## Main results

* `CampusBoard.Controller.upToDate_visit`: a listener is up to date after any run.
* `CampusBoard.Controller.length_shown_visit`: how often it is shown something.
* `CampusBoard.Controller.listener_is_never_behind`: both, with what one operation shows.
-/

set_option autoImplicit false

namespace CampusBoard

variable {d : Domain}

/-! ## Up to date -/

namespace Transition

/-- Whoever saw `c` before and keeps the last state that was shown since has the state itself. -/
def UpToDate (c : Controller d) (t : Transition d) : Prop :=
  t.shown.getLast?.getD c = t.state

variable {c : Controller d}

/-- A change is shown as it is. -/
lemma upToDate_changed (c c' : Controller d) : c'.changed.UpToDate c :=
  rfl

/-- Without a change there is nothing new to see. -/
lemma upToDate_unchanged (c : Controller d) : c.unchanged.UpToDate c :=
  rfl

/-- Two transitions in a row hand it on. -/
lemma UpToDate.andThen {t : Transition d} {next : Controller d → Transition d} (h : t.UpToDate c)
    (hnext : (next t.state).UpToDate t.state) : (t.andThen next).UpToDate c := by
  change (t.shown ++ (next t.state).shown).getLast?.getD c = (next t.state).state
  rw [List.getLast?_append]
  cases hlast : (next t.state).shown.getLast? with
  | none =>
    -- the second transition has shown nothing, so it has changed nothing
    have hsame : (next t.state).state = t.state := by rw [← hnext, hlast, Option.getD_none]
    rw [hsame]
    exact h
  | some last =>
    rw [← hnext, hlast]
    rfl

/-- Where nothing was shown nothing has changed. -/
lemma UpToDate.state_eq {t : Transition d} (h : t.UpToDate c) (hnone : t.shown = []) :
    t.state = c := by
  rw [← h, hnone]
  rfl

end Transition

/-! ## One operation -/

namespace Controller

/-- Clearing an error is shown where there is one. -/
lemma shown_clearError (c : Controller d) :
    c.clearError.shown = if c.error = "" then [] else [{ c with error := "" }] := by
  unfold clearError
  split <;> rfl

/-- **What taking over the outcome of a search shows**: a failure is shown once, and hits once more
after an error that was shown has been cleared. -/
theorem shown_applyOutcome (maxChars : Nat) (outcome : Except TransportError (ResultSet d))
    (c : Controller d) :
    (c.applyOutcome maxChars outcome).shown =
      match outcome with
      | .error _ => [(c.applyOutcome maxChars outcome).state]
      | .ok _ =>
        (if c.error = "" then [] else [{ c with error := "" }]) ++
          [(c.applyOutcome maxChars outcome).state] := by
  cases outcome with
  | error e => rfl
  | ok results => exact congrArg (· ++ [_]) c.shown_clearError

end Controller

/-- Whether an operation takes over the outcome of a search. -/
def Operation.isOutcome : Operation d → Bool
  | .applyOutcome _ _ => true
  | _ => false

/-- **An operation leaves its listener up to date.** -/
theorem Operation.upToDate_run (op : Operation d) (c : Controller d) :
    (op.run c).UpToDate c := by
  cases op with
  | setSortDirection direction =>
    change (c.setSortDirection direction).UpToDate c
    unfold Controller.setSortDirection
    split
    · exact Transition.upToDate_changed c _
    · exact Transition.upToDate_unchanged c
  | clearError =>
    change c.clearError.UpToDate c
    unfold Controller.clearError
    split
    · exact Transition.upToDate_unchanged c
    · exact Transition.upToDate_changed c _
  | setScope scope =>
    change (c.setScope scope).UpToDate c
    unfold Controller.setScope
    split
    · exact Transition.upToDate_unchanged c
    · exact Transition.upToDate_changed c _
  | applyOutcome maxChars outcome =>
    change (c.applyOutcome maxChars outcome).UpToDate c
    rw [Transition.UpToDate, Controller.shown_applyOutcome]
    cases outcome <;> simp
  | _ => exact Transition.upToDate_changed c _

/-! ## Readings and operations -/

/-- What is done with a controller. -/
inductive Access (d : Domain)
  /-- Something is read off it, whatever function of the controller that is. -/
  | read
  /-- An operation is done on it. -/
  | operate (op : Operation d)

namespace Access

/-- What is done moves the controller on if it is an operation. -/
def run : Access d → Controller d → Transition d
  | .read => Controller.unchanged
  | .operate op => op.run

/-- Whether something changes nothing by its own rules: a reading, a direction where nothing is
sorted, the scope that is already chosen, and clearing an error where there is none. -/
def isIdle (c : Controller d) : Access d → Bool
  | .read => true
  | .operate (.setSortDirection _) => d.defaultSort.isNone
  | .operate (.setScope scope) => decide (scope = c.scope)
  | .operate .clearError => decide (c.error = "")
  | _ => false

/-- Whether hits are taken over while an error is shown. -/
def dropsError (c : Controller d) : Access d → Bool
  | .operate (.applyOutcome _ (.ok _)) => decide (c.error ≠ "")
  | _ => false

/-- What is done leaves the listener up to date. -/
lemma upToDate_run (a : Access d) (c : Controller d) : (a.run c).UpToDate c := by
  cases a with
  | read => exact Transition.upToDate_unchanged c
  | operate op => exact op.upToDate_run c

end Access

/-- **A single operation shows its end, or nothing if it is idle.** -/
theorem Operation.shown_run {c : Controller d} (hsorted : c.form.isSorted = d.defaultSort.isSome)
    (op : Operation d) (hop : op.isOutcome = false) :
    (op.run c).shown = if (Access.operate op).isIdle c then [] else [(op.run c).state] := by
  cases op with
  | setSortDirection direction =>
    change (c.setSortDirection direction).shown =
      if d.defaultSort.isNone then [] else [(c.setSortDirection direction).state]
    unfold Controller.setSortDirection
    rw [hsorted]
    cases d.defaultSort <;> rfl
  | clearError =>
    change c.clearError.shown = if decide (c.error = "") then [] else [c.clearError.state]
    rw [Controller.shown_clearError]
    by_cases h : c.error = "" <;> simp [h]
  | setScope scope =>
    change (c.setScope scope).shown =
      if decide (scope = c.scope) then [] else [(c.setScope scope).state]
    unfold Controller.setScope
    by_cases h : c.scope = scope
    · simp [h, Controller.unchanged]
    · simp [h, Ne.symm h, Controller.changed]
  | applyOutcome maxChars outcome => cases hop
  | _ => rfl

/-- How often one access shows something: once unless it is idle, and once more if an error has to
be cleared first. -/
lemma Access.length_shown_run {c : Controller d}
    (hsorted : c.form.isSorted = d.defaultSort.isSome) (a : Access d) :
    (a.run c).shown.length =
      (if !a.isIdle c then 1 else 0) + if a.dropsError c then 1 else 0 := by
  cases a with
  | read => rfl
  | operate op =>
    cases op with
    | applyOutcome maxChars outcome =>
      change (c.applyOutcome maxChars outcome).shown.length = _
      rw [Controller.shown_applyOutcome]
      cases outcome with
      | error e => rfl
      | ok results => by_cases h : c.error = "" <;> simp [h, isIdle, dropsError]
    | _ =>
      change (Operation.run _ c).shown.length = _
      rw [Operation.shown_run hsorted _ rfl]
      simp only [dropsError]
      split <;> simp_all

/-! ## Runs -/

namespace Controller

/-- What a number of accesses do, one after another. -/
def visit (c : Controller d) (accesses : List (Access d)) : Transition d :=
  accesses.foldl (fun t a => t.andThen a.run) c.unchanged

/-- The accesses of a run, each with the controller that it finds. -/
def found (c : Controller d) : List (Access d) → List (Controller d × Access d)
  | [] => []
  | a :: rest => (c, a) :: found (a.run c).state rest

variable (c : Controller d) (accesses : List (Access d)) (a : Access d)

/-- The last access finds what the others have left. -/
lemma visit_concat : c.visit (accesses ++ [a]) = (c.visit accesses).andThen a.run := by
  simp [visit, List.foldl_append]

/-- Readings leave no trace: a run is that of its operations. -/
lemma visit_eq_run :
    c.visit accesses = c.run (accesses.filterMap fun
      | .read => none
      | .operate op => some op) := by
  induction accesses using List.reverseRecOn with
  | nil => rfl
  | append_singleton accesses a ih =>
    rw [visit_concat, ih, List.filterMap_append]
    cases a with
    | read =>
      simp [Transition.andThen, Access.run, unchanged]
    | operate op => exact (run_concat c _ op).symm

/-- One more access finds what the others have left. -/
lemma found_concat :
    c.found (accesses ++ [a]) = c.found accesses ++ [((c.visit accesses).state, a)] := by
  suffices h : ∀ t : Transition d, t.state = c →
      c.found (accesses ++ [a]) = c.found accesses ++
        [((accesses.foldl (fun t a => t.andThen a.run) t).state, a)] from h c.unchanged rfl
  induction accesses generalizing c with
  | nil =>
    rintro t rfl
    rfl
  | cons first accesses ih =>
    rintro t rfl
    exact congrArg (List.cons _) (ih (first.run t.state).state (t.andThen first.run) rfl)

/-- **A listener is up to date after any run.** -/
theorem upToDate_visit : (c.visit accesses).UpToDate c := by
  induction accesses using List.reverseRecOn with
  | nil => exact Transition.upToDate_unchanged c
  | append_singleton accesses a ih =>
    rw [visit_concat]
    exact ih.andThen (a.upToDate_run _)

variable (first : d.Scope) (pageSize : PageSize)

/-- In a run nothing changes whether there is a sort. -/
lemma isSorted_visit_fresh :
    ((fresh first pageSize).visit accesses).state.form.isSorted = d.defaultSort.isSome := by
  rw [visit_eq_run]
  exact isSorted_run_fresh first pageSize _

/-- **How often the listener is shown something**: once for each access that is not idle, and once
more for each search that takes over hits while an error is shown.

**Proof sketch.** Induction on the run from its end, with `Access.length_shown_run`. -/
theorem length_shown_visit :
    ((fresh first pageSize).visit accesses).shown.length =
      ((fresh first pageSize).found accesses).countP (fun (c, a) => !a.isIdle c) +
        ((fresh first pageSize).found accesses).countP (fun (c, a) => a.dropsError c) := by
  induction accesses using List.reverseRecOn with
  | nil => rfl
  | append_singleton accesses a ih =>
    have hlast := a.length_shown_run (isSorted_visit_fresh accesses first pageSize)
    rw [visit_concat, found_concat, List.countP_append, List.countP_append, List.countP_singleton,
      List.countP_singleton]
    change (((fresh first pageSize).visit accesses).shown ++ _ : List (Controller d)).length = _
    rw [List.length_append, ih, hlast]
    exact Nat.add_add_add_comm _ _ _ _

/-- **A listener is never behind.** Whatever is read off a controller and done on it, in whatever
order: who keeps the last state that the listener was shown has the state of the controller. From
there a single operation shows the listener its end, once, or nothing at all if it is idle, and what
shows nothing has changed nothing; giving the controller the outcome of a search shows a failure
once, and hits once more after the error that they end, if one is shown. So the listener was shown
something as often as there were accesses that were not idle, and hits taken over while an error was
shown count twice.

**Proof sketch.** Every operation leaves the listener up to date (`Operation.upToDate_run`), and so
does a run. What an operation shows follows from what it finds (`Operation.shown_run`,
`shown_applyOutcome`), since a run leaves a sort just where the kind has one; the number is the sum
over the run. -/
theorem listener_is_never_behind :
    let start := fresh first pageSize
    let t := start.visit accesses
    t.shown.getLast?.getD start = t.state ∧
    (∀ op : Operation d, op.isOutcome = false →
      (op.run t.state).shown =
        if (Access.operate op).isIdle t.state then [] else [(op.run t.state).state]) ∧
    (∀ a : Access d, (a.run t.state).shown = [] → (a.run t.state).state = t.state) ∧
    (∀ (e : Engine) (failure : TransportError),
      (e.apply (.error failure) t.state).shown = [(e.apply (.error failure) t.state).state]) ∧
    (∀ (e : Engine) (results : ResultSet d),
      (e.apply (.ok results) t.state).shown =
        (if t.state.error = "" then [] else [{ t.state with error := "" }]) ++
          [(e.apply (.ok results) t.state).state]) ∧
    t.shown.length =
      (start.found accesses).countP (fun (c, a) => !a.isIdle c) +
        (start.found accesses).countP (fun (c, a) => a.dropsError c) := by
  intro start t
  refine ⟨upToDate_visit start accesses, fun op hop => ?_, fun a hnone => ?_, fun e failure => ?_,
    fun e results => ?_, length_shown_visit accesses first pageSize⟩
  · exact Operation.shown_run (isSorted_visit_fresh accesses first pageSize) op hop
  · exact (a.upToDate_run t.state).state_eq hnone
  · exact shown_applyOutcome _ (.error failure) t.state
  · exact shown_applyOutcome _ (.ok results) t.state

/-- Items have no direction to change, so the error is shown, its end, and then the hits. -/
example :
    ((fresh (d := .items) () .standard).visit
      [.read, .operate (.setSortDirection .asc), .operate (.setError "no connection"), .read,
        .operate (.applyOutcome 50 (.ok ⟨[], 3⟩)), .operate .clearError]).shown.length = 3 := by
  rfl

end Controller

end CampusBoard
