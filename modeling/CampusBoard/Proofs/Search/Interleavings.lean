import CampusBoard.Proofs.Histories
import CampusBoard.Proofs.Search.History
import CampusBoard.Search.Engine
import Mathlib.Logic.Function.Basic

/-!
# Searches that are under way at the same time

A search can be taken apart: its request is taken from the controller, sent to an index some time
later, and the outcome given back to the controller later still. Any number of searches can be under
way at once, with other operations in between. Whatever the order of all these steps, the controller
shows the hits of the outcome that was applied last.

## Design

A search is known by its ticket. Its request and its outcome wait under that ticket, so that the
steps of different searches can come in any order, and a request can be sent again. The controller
only notices two kinds of steps: operations, and outcomes that are applied. `Searches.effects` are
the operations that the steps of an interleaving amount to, and what is shown at the end is read off
them with `History.lastWrite`, the hits from those since the scope was last changed.

## Main definitions

* `CampusBoard.SearchStep`, `CampusBoard.Searches`: a step, and what there is between two steps.
* `CampusBoard.Searches.run`, `CampusBoard.Searches.effects`: what steps lead to, and what they do
  to the controller.
* `CampusBoard.Searches.Requested`, `CampusBoard.Searches.Fetched`: the request and the outcome that
  the history of a search has left.
* `CampusBoard.History.sinceMove`: the operations since the scope was last changed.

## Main results

* `CampusBoard.Searches.outcomes_run`: an outcome answers the request of its own search.
* `CampusBoard.Controller.results_run_fresh`, `CampusBoard.Controller.error_run_fresh`: the hits and
  the error of a controller are those of its history.
* `CampusBoard.Searches.shown_of_interleaving`: so are they in all interleavings.
-/

set_option autoImplicit false

namespace CampusBoard

variable {d : Domain}

/-! ## Hits and errors of a history -/

namespace Operation

/-- The hits that an operation brings. -/
def writtenResults : Operation d → Option (ResultSet d)
  | .applyResults results => some results
  | .applyOutcome _ (.ok results) => some results
  | _ => none

/-- The error that an operation leaves: the one to show, none after hits were found or when it is
cleared, and the text of a failure. -/
def writtenError : Operation d → Option String
  | .setError message => some message
  | .clearError => some ""
  | .applyOutcome _ (.ok _) => some ""
  | .applyOutcome maxChars (.error e) => some (e.userMessage maxChars)
  | _ => none

/-- Whether an operation chooses another scope than the one that is chosen. -/
def movesScope (chosen : d.Scope) : Operation d → Bool
  | .setScope scope => decide (scope ≠ chosen)
  | _ => false

/-- **What an operation does to the hits.** Another scope drops them, other hits replace them, and
all else leaves them alone. -/
theorem results_run (op : Operation d) (c : Controller d) :
    (op.run c).state.results =
      if op.movesScope c.scope then .none d else op.writtenResults.getD c.results := by
  cases op with
  | setSortDirection direction =>
    simp only [run, Controller.state_setSortDirection, movesScope, writtenResults]
    split <;> rfl
  | clearError => simp [run, movesScope, writtenResults]
  | setScope scope =>
    by_cases h : c.scope = scope
    · simp [run, movesScope, writtenResults, h]
    · simp [run, movesScope, h, Ne.symm h]
  | applyOutcome maxChars outcome =>
    cases outcome <;> simp [run, movesScope, writtenResults]
  | _ => rfl

/-- An operation leaves its error, or else the one before. -/
lemma error_run (op : Operation d) (c : Controller d) :
    (op.run c).state.error = op.writtenError.getD c.error := by
  cases op with
  | setSortDirection direction =>
    simp only [run, Controller.state_setSortDirection, writtenError]
    split <;> rfl
  | clearError => simp [run, writtenError]
  | setScope scope =>
    simp only [run, Controller.state_setScope, writtenError]
    split <;> rfl
  | applyOutcome maxChars outcome => cases outcome <;> simp [run, writtenError]
  | _ => rfl

/-- Both numbers of hits change together. -/
lemma totalHits_run (op : Operation d) {c : Controller d}
    (h : c.pagination.totalHits = c.results.totalHits) :
    (op.run c).state.pagination.totalHits = (op.run c).state.results.totalHits := by
  cases op with
  | setSortDirection direction =>
    simp only [run, Controller.state_setSortDirection]
    split <;> exact h
  | applyResults results => rfl
  | clearError => simpa [run] using h
  | setScope scope =>
    simp only [run, Controller.state_setScope]
    split
    · exact h
    · rfl
  | applyOutcome maxChars outcome => cases outcome <;> simp [run, h, Pagination.setTotalHits]
  | _ => exact h

end Operation

namespace History

/-- The operations of a history, each with the scope that is chosen before it. -/
def withScope (chosen : d.Scope) : List (Operation d) → List (d.Scope × Operation d)
  | [] => []
  | op :: rest => (chosen, op) :: withScope (op.chooseScope chosen) rest

/-- The operations since another scope was last chosen. -/
def sinceMove (first : d.Scope) (ops : List (Operation d)) : List (Operation d) :=
  ((withScope first ops).rtakeWhile fun (chosen, op) => !op.movesScope chosen).map Prod.snd

variable (first : d.Scope) (ops : List (Operation d)) (op : Operation d)

/-- The scope of a history that begins with an operation. -/
lemma scope_cons : scope first (op :: ops) = scope (op.chooseScope first) ops := by
  unfold scope lastWrite
  rw [List.reverse_cons, List.findSome?_append]
  cases ops.reverse.findSome? Operation.writtenScope with
  | some chosen => rfl
  | none => cases op <;> rfl

/-- The last operation of a history is done in the scope of the others. -/
lemma withScope_concat :
    withScope first (ops ++ [op]) = withScope first ops ++ [(scope first ops, op)] := by
  induction ops generalizing first with
  | nil => rfl
  | cons earlier ops ih =>
    rw [List.cons_append, withScope, ih, withScope, scope_cons, List.cons_append]

/-- Another scope leaves nothing, and any other operation is one more since the last one. -/
lemma sinceMove_concat :
    sinceMove first (ops ++ [op]) =
      if op.movesScope (scope first ops) then [] else sinceMove first ops ++ [op] := by
  unfold sinceMove
  rw [withScope_concat, List.rtakeWhile_concat]
  cases h : op.movesScope (scope first ops) <;> simp [h]

end History

namespace Controller

variable (first : d.Scope) (pageSize : PageSize) (ops : List (Operation d))

/-- **The hits of a controller are the last ones since its scope was last changed.**

**Proof sketch.** Induction on the run from its end, with `Operation.results_run`; the scope at each
moment is the one of the history before it. -/
theorem results_run_fresh :
    ((fresh first pageSize).run ops).state.results =
      (History.lastWrite Operation.writtenResults (History.sinceMove first ops)).getD
        (.none d) := by
  induction ops using List.reverseRecOn with
  | nil => rfl
  | append_singleton ops op ih =>
    rw [state_run_concat, Operation.results_run, scope_run_fresh, ih, History.sinceMove_concat]
    split
    · rfl
    · rw [History.lastWrite_concat]
      cases op.writtenResults <;> rfl

/-- **The error of a controller is the last one of its history.** -/
theorem error_run_fresh :
    ((fresh first pageSize).run ops).state.error =
      (History.lastWrite Operation.writtenError ops).getD "" := by
  induction ops using List.reverseRecOn with
  | nil => rfl
  | append_singleton ops op ih =>
    rw [state_run_concat, Operation.error_run, ih, History.lastWrite_concat]
    cases op.writtenError <;> rfl

/-- The position always counts with the number that came with the hits. -/
lemma totalHits_run_fresh :
    ((fresh first pageSize).run ops).state.pagination.totalHits =
      ((fresh first pageSize).run ops).state.results.totalHits := by
  induction ops using List.reverseRecOn with
  | nil => rfl
  | append_singleton ops op ih =>
    rw [state_run_concat]
    exact op.totalHits_run ih

end Controller

/-! ## Interleavings -/

/-- A step of one of many searches on a controller, or an operation in between. -/
inductive SearchStep (d : Domain)
  /-- An operation on the controller. -/
  | operate (op : Operation d)
  /-- The request of a search is taken from the controller. -/
  | request (ticket : Nat)
  /-- The request of a search is sent to an index. -/
  | fetch (ticket : Nat) (index : SearchRequest → Except TransportError IndexReply)
  /-- The outcome of a search is given to the controller. -/
  | apply (ticket : Nat)

/-- A controller with the searches that are under way. -/
structure Searches (d : Domain) where
  /-- The controller. -/
  controller : Controller d
  /-- The request of a search, if it was taken. -/
  requests : Nat → Option SearchRequest
  /-- The outcome of a search, if there is one that was not applied. -/
  outcomes : Nat → Option (Except TransportError (ResultSet d))

namespace Searches

/-- No search is under way. -/
def start (c : Controller d) : Searches d :=
  ⟨c, fun _ => none, fun _ => none⟩

/-- What a step does. Without a request nothing can be sent, and without an outcome nothing
applied. -/
def step (e : Engine) (s : Searches d) : SearchStep d → Searches d
  | .operate op => { s with controller := (op.run s.controller).state }
  | .request ticket =>
    { s with requests := Function.update s.requests ticket (some (e.request s.controller)) }
  | .fetch ticket index =>
    match s.requests ticket with
    | some request =>
      { s with
        outcomes := Function.update s.outcomes ticket (some (Engine.outcome d (index request))) }
    | none => s
  | .apply ticket =>
    match s.outcomes ticket with
    | some outcome =>
      { s with
        controller := (e.apply outcome s.controller).state
        outcomes := Function.update s.outcomes ticket none }
    | none => s

/-- What steps lead to. -/
def run (e : Engine) (s : Searches d) (steps : List (SearchStep d)) : Searches d :=
  steps.foldl (step e) s

/-- The operation that a step amounts to for the controller. -/
def effect? (e : Engine) (s : Searches d) : SearchStep d → Option (Operation d)
  | .operate op => some op
  | .request _ => none
  | .fetch _ _ => none
  | .apply ticket => (s.outcomes ticket).map (.applyOutcome e.errorMaxChars.toNat)

/-- The operations that steps amount to for the controller. -/
def effects (e : Engine) (s : Searches d) : List (SearchStep d) → List (Operation d)
  | [] => []
  | step :: rest => (s.effect? e step).toList ++ effects e (s.step e step) rest

/-- The operations among steps, without the searches. -/
def edits (steps : List (SearchStep d)) : List (Operation d) :=
  steps.filterMap fun
    | .operate op => some op
    | _ => none

variable (e : Engine) (s : Searches d) (steps : List (SearchStep d)) (last : SearchStep d)

/-- The last step starts from where the others lead. -/
lemma run_concat : s.run e (steps ++ [last]) = (s.run e steps).step e last := by
  simp [run, List.foldl_append]

/-- The last step has its effect where the others lead. -/
lemma effects_concat :
    s.effects e (steps ++ [last]) =
      s.effects e steps ++ ((s.run e steps).effect? e last).toList := by
  induction steps generalizing s with
  | nil => simp [effects, run]
  | cons step steps ih => simp [effects, run, ih]

/-- A step does to the controller what it amounts to. -/
lemma controller_step :
    (s.step e last).controller = (s.controller.run (s.effect? e last).toList).state := by
  cases last with
  | operate op => rfl
  | request ticket => rfl
  | fetch ticket index =>
    rw [step, effect?]
    cases s.requests ticket <;> rfl
  | apply ticket =>
    rw [step, effect?]
    cases s.outcomes ticket <;> rfl

/-- **Steps do to the controller what they amount to.** -/
theorem controller_run :
    (s.run e steps).controller = (s.controller.run (s.effects e steps)).state := by
  induction steps using List.reverseRecOn with
  | nil => rfl
  | append_singleton steps last ih =>
    rw [run_concat, controller_step, effects_concat, Controller.state_run_append, ih]

/-- **Searches leave the form and the scope alone.** They are what the operations in between alone
would have left.

**Proof sketch.** Induction on the steps from their end: an outcome that is applied edits neither
the form nor the scope. -/
theorem form_scope_run :
    (s.run e steps).controller.form = (s.controller.run (edits steps)).state.form ∧
      (s.run e steps).controller.scope = (s.controller.run (edits steps)).state.scope := by
  induction steps using List.reverseRecOn with
  | nil => exact ⟨rfl, rfl⟩
  | append_singleton steps last ih =>
    obtain ⟨hform, hscope⟩ := ih
    rw [run_concat, controller_step, edits, List.filterMap_append, Controller.state_run_append]
    cases last with
    | operate op =>
      constructor
      · calc
          (op.run (s.run e steps).controller).state.form
              = op.editForm (s.run e steps).controller.form := op.form_run _
          _ = op.editForm (s.controller.run (edits steps)).state.form := by rw [hform]
          _ = (op.run (s.controller.run (edits steps)).state).state.form := (op.form_run _).symm
      · calc
          (op.run (s.run e steps).controller).state.scope
              = op.chooseScope (s.run e steps).controller.scope := op.scope_run _
          _ = op.chooseScope (s.controller.run (edits steps)).state.scope := by rw [hscope]
          _ = (op.run (s.controller.run (edits steps)).state).state.scope := (op.scope_run _).symm
    | request ticket => exact ⟨hform, hscope⟩
    | fetch ticket index => exact ⟨hform, hscope⟩
    | apply ticket =>
      rw [effect?]
      cases (s.run e steps).outcomes ticket with
      | none => exact ⟨hform, hscope⟩
      | some outcome =>
        exact ⟨(Operation.form_run _ _).trans hform, (Operation.scope_run _ _).trans hscope⟩

/-! ### Requests and outcomes of a search -/

/-- A search holds the request of the controller at the moment at which it was last taken. -/
def Requested (ticket : Nat) (request : SearchRequest) : List (SearchStep d) → Prop :=
  Since
    (fun before step => step = .request ticket ∧ request = e.request (s.run e before).controller)
    fun step => step = .request ticket

/-- A search holds the outcome of its request at the moment at which it was last sent, and has not
applied it since. -/
def Fetched (ticket : Nat) (outcome : Except TransportError (ResultSet d)) :
    List (SearchStep d) → Prop :=
  Since
    (fun before step => ∃ index request, step = .fetch ticket index ∧
      s.Requested e ticket request before ∧ outcome = Engine.outcome d (index request))
    fun step => step = .apply ticket ∨ ∃ index, step = .fetch ticket index

variable (c : Controller d) (ticket : Nat)

/-- The request of a search is the one that its history has left. -/
theorem requests_run (request : SearchRequest) :
    ((start c).run e steps).requests ticket = some request ↔
      (start c).Requested e ticket request steps := by
  induction steps using List.reverseRecOn with
  | nil => exact iff_of_false nofun (not_since_nil _ _)
  | append_singleton steps last ih =>
    rw [run_concat, Requested, since_concat, ← Requested, ← ih]
    cases last with
    | operate op => simp [step]
    | request other =>
      by_cases h : other = ticket
      · simp [step, h, eq_comm]
      · simp [step, h, Ne.symm h]
    | fetch other index =>
      rw [step]
      cases ((start c).run e steps).requests other <;> simp
    | apply other =>
      rw [step]
      cases ((start c).run e steps).outcomes other <;> simp

/-- A step keeps it so that each search with an outcome has a request. -/
lemma isSome_requests_step (h : ∀ ticket, (s.outcomes ticket).isSome → (s.requests ticket).isSome)
    (houtcome : ((s.step e last).outcomes ticket).isSome) :
    ((s.step e last).requests ticket).isSome := by
  cases last with
  | operate op => exact h ticket houtcome
  | request other =>
    by_cases hother : other = ticket
    · simp [step, hother]
    · simpa [step, Ne.symm hother] using h ticket houtcome
  | fetch other index =>
    rw [step] at houtcome ⊢
    cases hrequest : s.requests other with
    | none => exact h ticket (by simpa [hrequest] using houtcome)
    | some request =>
      by_cases hother : other = ticket
      · simp [← hother, hrequest]
      · exact h ticket (by simpa [hrequest, Ne.symm hother] using houtcome)
  | apply other =>
    rw [step] at houtcome ⊢
    cases happlied : s.outcomes other with
    | none => exact h ticket (by simpa [happlied] using houtcome)
    | some applied =>
      by_cases hother : other = ticket
      · subst hother
        simp [happlied] at houtcome
      · exact h ticket (by simpa [happlied, Ne.symm hother] using houtcome)

/-- A search with an outcome has a request. -/
lemma isSome_requests_run (houtcome : (((start c).run e steps).outcomes ticket).isSome) :
    (((start c).run e steps).requests ticket).isSome := by
  induction steps using List.reverseRecOn generalizing ticket with
  | nil => cases houtcome
  | append_singleton steps last ih =>
    rw [run_concat] at houtcome ⊢
    exact isSome_requests_step e _ last ticket ih houtcome

/-- **An outcome answers the request of its own search**: the one that the search held when it was
last sent, whatever other searches did in the meantime. -/
theorem outcomes_run (outcome : Except TransportError (ResultSet d)) :
    ((start c).run e steps).outcomes ticket = some outcome ↔
      (start c).Fetched e ticket outcome steps := by
  induction steps using List.reverseRecOn with
  | nil => exact iff_of_false nofun (not_since_nil _ _)
  | append_singleton steps last ih =>
    rw [run_concat, Fetched, since_concat, ← Fetched, ← ih]
    cases last with
    | operate op => simp [step]
    | request other => simp [step]
    | fetch other index =>
      simp only [← requests_run]
      by_cases h : other = ticket
      · subst h
        rw [step]
        cases hrequest : ((start c).run e steps).requests other with
        | none =>
          have hnone : ((start c).run e steps).outcomes other ≠ some outcome := by
            intro houtcome
            have hsome := isSome_requests_run e steps c other (by simp [houtcome])
            simp [hrequest] at hsome
          simp [hnone]
        | some request => simp [eq_comm]
      · rw [step]
        cases ((start c).run e steps).requests other <;> simp [h, Ne.symm h]
    | apply other =>
      by_cases h : other = ticket
      · subst h
        rw [step]
        cases hother : ((start c).run e steps).outcomes other <;> simp [hother]
      · rw [step]
        cases ((start c).run e steps).outcomes other <;> simp [h, Ne.symm h]

/-! ### What is shown -/

/-- **Whatever the order of the steps, the controller shows what was applied last.** For any number
of searches, each taken apart into the taking of its request, the sending of it and the applying of
its outcome, with these steps in any order among each other and among all other operations: the hits
and their number are those that were brought last since another scope was last chosen, and none if
there are none; the error is the one that was left last; and the form and the scope are what the
operations in between alone would have left. An outcome that is applied answers the request of its
own search, as it was taken from the controller.

**Proof sketch.** The controller is the one after the operations that the steps amount to
(`controller_run`), and its hits and its error are those of that history. The searches are no part
of what becomes of the form and the scope (`form_scope_run`). -/
theorem shown_of_interleaving (first : d.Scope) (pageSize : PageSize) :
    let searches := start (Controller.fresh first pageSize)
    let shown := (searches.run e steps).controller
    let effects := searches.effects e steps
    shown.results =
        (History.lastWrite Operation.writtenResults (History.sinceMove first effects)).getD
          (.none d) ∧
      shown.pagination.totalHits = shown.results.totalHits ∧
      shown.error = (History.lastWrite Operation.writtenError effects).getD "" ∧
      shown.form = ((Controller.fresh first pageSize).run (edits steps)).state.form ∧
      shown.scope = ((Controller.fresh first pageSize).run (edits steps)).state.scope ∧
      ∀ ticket outcome, (searches.run e steps).outcomes ticket = some outcome ↔
        searches.Fetched e ticket outcome steps := by
  obtain ⟨hform, hscope⟩ := form_scope_run e (start (Controller.fresh first pageSize)) steps
  refine ⟨?_, ?_, ?_, hform, hscope, fun ticket => outcomes_run e steps _ ticket⟩
  · rw [controller_run]
    exact Controller.results_run_fresh first pageSize _
  · rw [controller_run]
    exact Controller.totalHits_run_fresh first pageSize _
  · rw [controller_run]
    exact Controller.error_run_fresh first pageSize _

/-- The outcome of an older search that comes late takes the place of the newer one. -/
example :
    ((start (Controller.fresh (d := .items) () .standard)).run (.ofSettings {})
      [.request 0, .request 1, .fetch 0 fun _ => .ok ⟨[], 7⟩, .fetch 1 fun _ => .ok ⟨[], 3⟩,
        .apply 1, .apply 0]).controller.results.totalHits = 7 := by
  rfl

end Searches

end CampusBoard
