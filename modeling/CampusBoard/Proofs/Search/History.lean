import CampusBoard.Proofs.Search.Runs
import CampusBoard.Proofs.Search.Wording
import Mathlib.Data.List.DropRight

/-!
# A request is what was last written

The request that a controller sends follows from the history of its operations alone: every part of
it is the last value that an operation wrote there, most of them since the query was last cleared.

## Design

An operation writes to at most one of the parts: the text, one dimension of the filters, the field
and the direction of the sort, and the scope. `History.lastWrite` searches a history from its end
for the last value written to a part. Since the last write of a history that grows by one operation
is the write of that operation, or the one before, the form that a history describes changes with
each operation in the way a controller's form does.

## Main definitions

* `CampusBoard.History.lastWrite`: the last value that a history writes to a part.
* `CampusBoard.History.sinceClear`: the operations since the query was last cleared.
* `CampusBoard.History.form`, `CampusBoard.History.scope`: the form and the scope of a history.
* `CampusBoard.History.AtStart`: nothing has moved on since the last return to the first page.

## Main results

* `CampusBoard.Controller.form_run_fresh`: the form of a controller is the one of its history.
* `CampusBoard.Controller.request_of_history`: so is its request.
-/

set_option autoImplicit false

namespace CampusBoard

variable {d : Domain}

/-! ## What an operation writes -/

namespace Operation

/-- The text that an operation writes. -/
def writtenText : Operation d → Option String
  | .setText text => some text
  | _ => none

/-- What an operation writes to a dimension: a value, or `none` to free it. -/
def writtenFilter (dim : Dimension d) : Operation d → Option (Option dim.Value)
  | .setFilter update => if h : update.dimension = dim then some (h ▸ update.value) else none
  | _ => none

/-- The field that an operation sorts on. -/
def writtenField : Operation d → Option d.SortField
  | .setSortField field => some field
  | _ => none

/-- The direction in which an operation sorts. -/
def writtenDirection : Operation d → Option SortDirection
  | .setSortDirection direction => some direction
  | _ => none

/-- The scope that an operation chooses. -/
def writtenScope : Operation d → Option d.Scope
  | .setScope scope => some scope
  | _ => none

/-- Whether an operation clears the query. -/
def isClear : Operation d → Bool
  | .clearQuery => true
  | _ => false

/-- Whether an operation can move past the first page. -/
def moves : Operation d → Bool
  | .setOffset _ => true
  | .nextPage => true
  | _ => false

/-- Whether an operation returns to the first page while a scope is chosen: it changes the query, or
chooses another scope. A direction changes nothing where nothing is sorted. -/
def restarts (chosen : d.Scope) : Operation d → Bool
  | .setText _ => true
  | .setFilter _ => true
  | .setSortField _ => true
  | .setSortDirection _ => d.defaultSort.isSome
  | .clearQuery => true
  | .setScope scope => decide (scope ≠ chosen)
  | _ => false

end Operation

/-! ## What a history has written -/

namespace History

/-- The last value that the operations of a history wrote. -/
def lastWrite {α : Type} (written : Operation d → Option α) (ops : List (Operation d)) : Option α :=
  ops.reverse.findSome? written

/-- The operations since the query was last cleared. -/
def sinceClear (ops : List (Operation d)) : List (Operation d) :=
  ops.rtakeWhile fun op => !op.isClear

/-- What was last written to a part of the query since the query was last cleared. -/
def current {α : Type} (written : Operation d → Option α) (ops : List (Operation d)) : Option α :=
  lastWrite written (sinceClear ops)

/-- The text that a history has left. -/
def text (ops : List (Operation d)) : String :=
  (current Operation.writtenText ops).getD ""

/-- The value to which a history has bound a dimension, if it is bound. -/
def filter (ops : List (Operation d)) (dim : Dimension d) : Option dim.Value :=
  (current (Operation.writtenFilter dim) ops).join

/-- The sort that a history has left; the field and the direction are those of the kind as long as
nothing else was written. -/
def sort (ops : List (Operation d)) : Option (SortBy d.SortField) :=
  d.defaultSort.map fun standard =>
    ⟨(current Operation.writtenField ops).getD standard.field,
      (current Operation.writtenDirection ops).getD standard.direction⟩

/-- The form that a history has left. -/
def form (ops : List (Operation d)) : QueryForm d :=
  ⟨text ops, ⟨filter ops⟩, sort ops⟩

/-- The scope that a history has left, after the one chosen at first. -/
def scope (first : d.Scope) (ops : List (Operation d)) : d.Scope :=
  (lastWrite Operation.writtenScope ops).getD first

/-- Nothing has moved on since the start or since the last return to the first page. -/
def AtStart (first : d.Scope) (ops : List (Operation d)) : Prop :=
  (∀ op ∈ ops, op.moves = false) ∨
    ∃ before op after, ops = before ++ op :: after ∧ op.restarts (scope first before) = true ∧
      ∀ later ∈ after, later.moves = false

/-! ## Histories that grow -/

variable {α : Type} (written : Operation d → Option α) (ops : List (Operation d))
  (op : Operation d)

/-- The last write is the one of the last operation, or else the one before. -/
lemma lastWrite_concat :
    lastWrite written (ops ++ [op]) = (written op).or (lastWrite written ops) := by
  cases h : written op <;> simp [lastWrite, h]

/-- Clearing leaves nothing written, and any other operation may write over what was there. -/
lemma current_concat :
    current written (ops ++ [op]) =
      if op.isClear then none else (written op).or (current written ops) := by
  unfold current sinceClear
  rw [List.rtakeWhile_concat]
  cases op.isClear
  · simp [lastWrite_concat]
  · simp [lastWrite]

/-- The scope of a history changes with each operation as a controller's does. -/
lemma scope_concat (first : d.Scope) :
    scope first (ops ++ [op]) = op.chooseScope (scope first ops) := by
  unfold scope
  rw [lastWrite_concat]
  cases op <;> rfl

/-- Only kinds that are sorted at first have fields to sort on. -/
lemma defaultSort_of_field (field : d.SortField) : ∃ standard, d.defaultSort = some standard := by
  cases d with
  | items => exact nomatch (show Empty from field)
  | listings => exact ⟨_, rfl⟩
  | reviews => exact ⟨_, rfl⟩

/-- The text of a history changes with each operation as a form's does. -/
lemma text_concat : text (ops ++ [op]) = (op.editForm (form ops)).text := by
  unfold text
  rw [current_concat]
  cases op <;> simp [Operation.isClear, Operation.writtenText, Operation.editForm, form, text,
    QueryForm.setText, QueryForm.setFilter, QueryForm.setSortField, QueryForm.setSortDirection,
    QueryForm.initial]

/-- So does each dimension: a change of one dimension leaves the others as they were. -/
lemma filter_concat (dim : Dimension d) :
    filter (ops ++ [op]) dim = (op.editForm (form ops)).filters.chosen dim := by
  unfold filter
  rw [current_concat]
  cases op with
  | setFilter update =>
    change _ = (Filters.set update.dimension update.value ⟨filter ops⟩).chosen dim
    by_cases h : update.dimension = dim
    · subst h
      simp [Operation.isClear, Operation.writtenFilter, Filters.chosen_set_same]
    · rw [Filters.chosen_set_other fun h' => h h'.symm]
      simp [Operation.isClear, Operation.writtenFilter, h, filter]
  | _ => rfl

/-- So does the sort: the field and the direction are written independently of each other. -/
lemma sort_concat : sort (ops ++ [op]) = (op.editForm (form ops)).sort := by
  unfold sort
  rw [current_concat, current_concat]
  cases op with
  | setSortField field =>
    obtain ⟨standard, hstandard⟩ := defaultSort_of_field field
    simp [Operation.isClear, Operation.writtenField, Operation.writtenDirection, Operation.editForm,
      form, sort, QueryForm.setSortField, QueryForm.direction, hstandard]
  | setSortDirection direction =>
    change _ = (sort ops).map fun s => { s with direction := direction }
    cases hstandard : d.defaultSort <;>
      simp [Operation.isClear, Operation.writtenField, Operation.writtenDirection, sort, hstandard]
  | clearQuery =>
    change _ = d.defaultSort
    cases d.defaultSort <;> rfl
  | _ => rfl

/-- The empty history leaves the form of the kind. -/
lemma form_nil : form ([] : List (Operation d)) = .initial d := by
  cases d <;> rfl

/-- **The form of a history changes with each operation as a controller's does.** -/
theorem form_concat : form (ops ++ [op]) = op.editForm (form ops) := by
  have hfilter : (⟨filter (ops ++ [op])⟩ : Filters d) = (op.editForm (form ops)).filters :=
    Filters.ext (funext (filter_concat ops op))
  rw [form, text_concat, hfilter, sort_concat]

end History

/-! ## Controllers and their histories -/

namespace Controller

/-- **The form of a controller is the one of its history**, whatever else happened to it. -/
theorem form_run_fresh (first : d.Scope) (pageSize : PageSize) (ops : List (Operation d)) :
    ((fresh first pageSize).run ops).state.form = History.form ops := by
  induction ops using List.reverseRecOn with
  | nil => exact History.form_nil.symm
  | append_singleton ops op ih =>
    rw [state_run_concat, Operation.form_run, ih, History.form_concat]

/-- The scope of a controller is the one of its history. -/
theorem scope_run_fresh (first : d.Scope) (pageSize : PageSize) (ops : List (Operation d)) :
    ((fresh first pageSize).run ops).state.scope = History.scope first ops := by
  induction ops using List.reverseRecOn with
  | nil => rfl
  | append_singleton ops op ih =>
    rw [state_run_concat, Operation.scope_run, ih, History.scope_concat]

/-- A history leaves a sort just where the kind has one. -/
lemma isSorted_run_fresh (first : d.Scope) (pageSize : PageSize) (ops : List (Operation d)) :
    ((fresh first pageSize).run ops).state.form.isSorted = d.defaultSort.isSome := by
  rw [form_run_fresh, QueryForm.isSorted]
  simp [History.form, History.sort]

end Controller

/-! ## The first page -/

namespace Operation

variable {c : Controller d} {op : Operation d}

/-- On the first page nothing but a move leads away from it. -/
lemma offset_run_of_not_moves (hop : op.moves = false) (hc : c.pagination.offset = 0) :
    (op.run c).state.pagination.offset = 0 := by
  cases op with
  | setOffset offset => cases hop
  | nextPage => cases hop
  | previousPage => simp [run, Controller.previousPage, Controller.setPagination,
      Controller.changed, Pagination.decrement, hc]
  | setSortDirection direction =>
    simp only [run, Controller.state_setSortDirection]
    split
    · rfl
    · exact hc
  | applyResults results => simp [run, Controller.applyResults, Controller.changed,
      Pagination.setTotalHits, hc]
  | clearError => simpa [run] using hc
  | setScope scope =>
    simp only [run, Controller.state_setScope]
    split
    · exact hc
    · simp [Pagination.setTotalHits, hc]
  | applyOutcome maxChars outcome =>
    cases outcome <;> simp [run, Pagination.setTotalHits, hc]
  | setError message => exact hc
  | _ => rfl

/-- What changes the query or the scope leads to the first page. -/
lemma offset_run_of_restarts (hop : op.restarts c.scope = true)
    (hsorted : c.form.isSorted = d.defaultSort.isSome) :
    (op.run c).state.pagination.offset = 0 := by
  cases op with
  | setSortDirection direction =>
    have hs : c.form.isSorted = true := hsorted.trans hop
    simp [run, hs, Pagination.reset]
  | setScope scope =>
    have hne : c.scope ≠ scope := by
      intro heq
      simp [restarts, heq] at hop
    simp [run, hne, Pagination.setTotalHits, Pagination.lastPageStart]
  | setText text => rfl
  | setFilter update => rfl
  | setSortField field => rfl
  | clearQuery => rfl
  | _ => cases hop

end Operation

namespace Controller

/-- Without a move a run stays on the first page. -/
lemma offset_run_of_not_moves {c : Controller d} {ops : List (Operation d)}
    (hops : ∀ op ∈ ops, op.moves = false) (hc : c.pagination.offset = 0) :
    (c.run ops).state.pagination.offset = 0 := by
  induction ops using List.reverseRecOn with
  | nil => exact hc
  | append_singleton ops op ih =>
    rw [state_run_concat]
    exact Operation.offset_run_of_not_moves (hops op (by simp))
      (ih fun op' hop' => hops op' (List.mem_append_left _ hop'))

/-- **Nothing but a move leads away from the first page.**

**Proof sketch.** If nothing ever moves, the run stays where it starts. Otherwise the operation that
changes the query or the scope is on the first page, since the scope and the sort at that moment are
those of the history before it, and the operations after it stay there. -/
theorem offset_run_of_atStart {first : d.Scope} (pageSize : PageSize) {ops : List (Operation d)}
    (hops : History.AtStart first ops) :
    ((fresh first pageSize).run ops).state.pagination.offset = 0 := by
  rcases hops with hops | ⟨before, op, after, rfl, hop, hafter⟩
  · exact offset_run_of_not_moves hops rfl
  · have hzero : ((fresh first pageSize).run (before ++ [op])).state.pagination.offset = 0 := by
      rw [state_run_concat]
      refine Operation.offset_run_of_restarts ?_ (isSorted_run_fresh first pageSize before)
      rw [scope_run_fresh]
      exact hop
    rw [show before ++ op :: after = before ++ [op] ++ after by simp, state_run_append]
    exact offset_run_of_not_moves hafter hzero

/-! ## Requests -/

/-- **A request is what was last written**, in the words of the index. After any operations in any
order, the request of a controller has the index of the scope that was last chosen; the text that
was last written since the query was last cleared; an expression, in the order of declaration, for
just the dimensions that were last bound since then; for kinds that are sorted one sort, whose field
and direction are each the last that was written since then, and else those of the kind; the page
size that was given at the start; the marks of the settings; and the first page if nothing has moved
on since the last change of the query or of the scope.

**Proof sketch.** The scope and the form are those of the history (`scope_run_fresh`,
`form_run_fresh`), the page size never changes, and the position is the subject of
`offset_run_of_atStart`. The words are those of `Wording`. -/
theorem request_of_history (first : d.Scope) (pageSize : PageSize) (settings : SearchSettings)
    (ops : List (Operation d)) :
    let r := ((fresh first pageSize).run ops).state.request settings
    r.index = Wording.index d ((History.lastWrite Operation.writtenScope ops).getD first) ∧
      r.text = (History.current Operation.writtenText ops).getD "" ∧
      r.filters = (Wording.dimensions d).filterMap (fun dim =>
        (History.current (Operation.writtenFilter dim) ops).join.map fun value =>
          Wording.dimension dim ++ " = " ++ Wording.value dim value) ∧
      r.sort = ((Wording.standardSort d).map fun (field, direction) =>
        Wording.sortAttribute d ((History.current Operation.writtenField ops).getD field) ++ ":" ++
          Wording.direction
            ((History.current Operation.writtenDirection ops).getD direction)).toList ∧
      r.sort.length = (if d = .items then 0 else 1) ∧
      r.limit = pageSize.val.toNat ∧
      r.highlight = ⟨Wording.marked d, settings.preTag, settings.postTag⟩ ∧
      (History.AtStart first ops → r.offset = 0) := by
  have hform := form_run_fresh first pageSize ops
  have hscope := scope_run_fresh first pageSize ops
  have hfilters : (History.form ops).filters.expressions =
      (Wording.dimensions d).filterMap (fun dim =>
        (History.current (Operation.writtenFilter dim) ops).join.map fun value =>
          Wording.dimension dim ++ " = " ++ Wording.value dim value) := by
    simp only [← Wording.expression_eq]
    cases d <;> rfl
  have hsort : (((fresh first pageSize).run ops).state.request settings).sort =
      ((Wording.standardSort d).map fun (field, direction) =>
        Wording.sortAttribute d ((History.current Operation.writtenField ops).getD field) ++ ":" ++
          Wording.direction
            ((History.current Operation.writtenDirection ops).getD direction)).toList := by
    change (((fresh first pageSize).run ops).state.form.sort.map d.sortExpression).toList = _
    rw [hform, History.form, History.sort, Wording.defaultSort_eq]
    simp [Wording.sortExpression_eq, Function.comp_def]
  refine ⟨?_, ?_, ?_, hsort, ?_, ?_, ?_, offset_run_of_atStart pageSize⟩
  · rw [← Wording.index_eq]
    exact congrArg d.index hscope
  · exact congrArg QueryForm.text hform
  · rw [← hfilters]
    exact congrArg (fun form => form.filters.expressions) hform
  · rw [hsort]
    cases d <;> rfl
  · exact congrArg PageSize.get (pageSize_run _ ops)
  · cases d <;> rfl

/-- A user looks for quiet four-star places among the reviews of Hawkins Hall, the oldest first,
goes to the second page, and then turns to the reviews of Windsor Halls. -/
def turnedToWindsor : List (Operation .reviews) :=
  [.setText "loud", .clearQuery, .setText "quiet",
    .setFilter ⟨.overallRating, some (.four : StarRating)⟩, .setSortDirection .asc,
    .applyResults ⟨[], 40⟩, .nextPage, .setScope (.windsor : Residence), .setError "late"]

/-- The next request asks for the first page of the reviews of Windsor Halls. -/
theorem request_of_history_turnedToWindsor :
    let first : Domain.Scope .reviews := (.hawkins : Residence)
    let r := ((fresh first .standard).run turnedToWindsor).state.request {}
    History.AtStart first turnedToWindsor ∧ r.index = "windsor" ∧ r.text = "quiet" ∧
      r.filters = ["overall_rating = 400"] ∧ r.sort = ["date:asc"] ∧ r.limit = 12 ∧
      r.highlight = ⟨["description"], "<mark>", "</mark>"⟩ ∧ r.offset = 0 := by
  intro first r
  have hstart : History.AtStart first turnedToWindsor :=
    Or.inr ⟨turnedToWindsor.take 7, .setScope (.windsor : Residence), [.setError "late"], rfl,
      by decide, by simp [Operation.moves]⟩
  obtain ⟨hindex, htext, hfilters, hsort, -, hlimit, hhighlight, hoffset⟩ :=
    request_of_history first .standard {} turnedToWindsor
  exact ⟨hstart, hindex.trans (by decide), htext.trans (by decide), hfilters.trans (by decide),
    hsort.trans (by decide), hlimit.trans (by decide), hhighlight, hoffset hstart⟩

end Controller

end CampusBoard
