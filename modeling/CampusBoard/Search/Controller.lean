import CampusBoard.Search.Pagination
import CampusBoard.Search.Query
import CampusBoard.Settings.Basic
import CampusBoard.Transport

/-!
# Search controllers

A controller holds what a user sees of one kind of records: the query, the position, the hits and an
error. A listener is shown the controller after each change.

## Main definitions

* `CampusBoard.Controller`: the state.
* `CampusBoard.Transition`: the state after an operation, with what the listener was shown.
* `CampusBoard.Operation`: the operations.
* `CampusBoard.Operation.run`: what an operation does.
* `CampusBoard.Controller.run`: what a sequence of operations does.

## Design

Whatever changes the order of the hits moves to the first page. Hits and their number are only ever
replaced together. An operation that changes nothing by its own rules shows nothing to the listener:
a direction for records that are not sorted, the scope that is already chosen, and clearing an error
where there is none.
-/

set_option autoImplicit false

namespace CampusBoard

/-- The hits of a reply with the number of hits that the index knows of. -/
structure ResultSet (d : Domain) where
  /-- The hits. -/
  records : List d.Record
  /-- The number of all hits. -/
  totalHits : Nat

/-- No hits. -/
def ResultSet.none (d : Domain) : ResultSet d :=
  ⟨[], 0⟩

/-- What a user sees of one kind of records. -/
structure Controller (d : Domain) where
  /-- What was chosen before the search. -/
  scope : d.Scope
  /-- The query. -/
  form : QueryForm d
  /-- The position. -/
  pagination : Pagination
  /-- The hits. -/
  results : ResultSet d
  /-- The error that is shown, empty if there is none. -/
  error : String

/-- The state after an operation. -/
structure Transition (d : Domain) where
  /-- The state. -/
  state : Controller d
  /-- The states that the listener was shown on the way, in order. -/
  shown : List (Controller d)

/-- One transition after another. -/
def Transition.andThen {d : Domain} (t : Transition d) (next : Controller d → Transition d) :
    Transition d :=
  let u := next t.state
  ⟨u.state, t.shown ++ u.shown⟩

namespace Controller

variable {d : Domain}

/-- A controller before its first operation. -/
def fresh (scope : d.Scope) (pageSize : PageSize) : Controller d where
  scope := scope
  form := .initial d
  pagination := .start pageSize
  results := .none d
  error := ""

/-! ## Reading -/

/-- The query at this moment. -/
def query (c : Controller d) : Query d :=
  c.form.compose c.scope c.pagination.offset

/-- The request for the current page. -/
def request (c : Controller d) (settings : SearchSettings) : SearchRequest :=
  c.query.toRequest c.pagination.size settings.preTag settings.postTag

/-- The first `n` hits. -/
def sample (c : Controller d) (n : Nat) : List d.Record :=
  c.results.records.take n

/-- The first hit for a residence. -/
def listingOf? (c : Controller .listings) (residence : Residence) : Option Listing :=
  (c.results.records : List Listing).find? fun l => l.id == residence

/-! ## Changing -/

/-- A change that the listener is shown. -/
def changed (c : Controller d) : Transition d :=
  ⟨c, [c]⟩

/-- No change. -/
def unchanged (c : Controller d) : Transition d :=
  ⟨c, []⟩

/-- Changes the query and moves to the first page. -/
def setForm (form : QueryForm d) (c : Controller d) : Transition d :=
  changed { c with form := form, pagination := c.pagination.reset }

/-- Changes the text. -/
def setText (text : String) (c : Controller d) : Transition d :=
  c.setForm (c.form.setText text)

/-- Changes one filter. -/
def setFilter (u : FilterUpdate d) (c : Controller d) : Transition d :=
  c.setForm (c.form.setFilter u)

/-- Changes the field on which records are sorted. -/
def setSortField (field : d.SortField) (c : Controller d) : Transition d :=
  c.setForm (c.form.setSortField field)

/-- Changes the direction of the sort, if there is one. -/
def setSortDirection (direction : SortDirection) (c : Controller d) : Transition d :=
  if c.form.isSorted then c.setForm (c.form.setSortDirection direction) else c.unchanged

/-- Starts a new query. -/
def clearQuery (c : Controller d) : Transition d :=
  c.setForm (.initial d)

/-- Changes the position. -/
def setPagination (p : Pagination) (c : Controller d) : Transition d :=
  changed { c with pagination := p }

/-- Moves to the page of the hit with the given number. -/
def setOffset (offset : Nat) (c : Controller d) : Transition d :=
  c.setPagination (c.pagination.setOffset offset)

/-- Moves to the next page. -/
def nextPage (c : Controller d) : Transition d :=
  c.setPagination c.pagination.increment

/-- Moves to the page before. -/
def previousPage (c : Controller d) : Transition d :=
  c.setPagination c.pagination.decrement

/-- Replaces the hits and their number. -/
def applyResults (results : ResultSet d) (c : Controller d) : Transition d :=
  changed { c with
    results := results, pagination := c.pagination.setTotalHits results.totalHits }

/-- Shows an error. -/
def setError (message : String) (c : Controller d) : Transition d :=
  changed { c with error := message }

/-- Shows no error any more. -/
def clearError (c : Controller d) : Transition d :=
  if c.error = "" then c.unchanged else changed { c with error := "" }

/-- Chooses another scope, whose hits are not known yet. The query stays. -/
def setScope (scope : d.Scope) (c : Controller d) : Transition d :=
  if c.scope = scope then c.unchanged
  else changed { c with
    scope := scope, results := .none d, pagination := c.pagination.setTotalHits 0 }

/-- Takes over the outcome of a search: its hits, with no error shown any more, or its error, cut
to `maxChars` characters. -/
def applyOutcome (maxChars : Nat) (outcome : Except TransportError (ResultSet d))
    (c : Controller d) : Transition d :=
  match outcome with
  | .ok results => c.clearError.andThen (applyResults results)
  | .error e => c.setError (e.userMessage maxChars)

end Controller

/-! ## Operations -/

/-- An operation on a controller. -/
inductive Operation (d : Domain)
  /-- Changes the text. -/
  | setText (text : String)
  /-- Changes one filter. -/
  | setFilter (update : FilterUpdate d)
  /-- Changes the field on which records are sorted. -/
  | setSortField (field : d.SortField)
  /-- Changes the direction of the sort. -/
  | setSortDirection (direction : SortDirection)
  /-- Starts a new query. -/
  | clearQuery
  /-- Moves to the page of a hit. -/
  | setOffset (offset : Nat)
  /-- Moves to the next page. -/
  | nextPage
  /-- Moves to the page before. -/
  | previousPage
  /-- Replaces the hits and their number. -/
  | applyResults (results : ResultSet d)
  /-- Shows an error. -/
  | setError (message : String)
  /-- Shows no error any more. -/
  | clearError
  /-- Chooses another scope. -/
  | setScope (scope : d.Scope)
  /-- Takes over the outcome of a search. -/
  | applyOutcome (maxChars : Nat) (outcome : Except TransportError (ResultSet d))

variable {d : Domain}

/-- What an operation does. -/
def Operation.run : Operation d → Controller d → Transition d
  | .setText text => Controller.setText text
  | .setFilter update => Controller.setFilter update
  | .setSortField field => Controller.setSortField field
  | .setSortDirection direction => Controller.setSortDirection direction
  | .clearQuery => Controller.clearQuery
  | .setOffset offset => Controller.setOffset offset
  | .nextPage => Controller.nextPage
  | .previousPage => Controller.previousPage
  | .applyResults results => Controller.applyResults results
  | .setError message => Controller.setError message
  | .clearError => Controller.clearError
  | .setScope scope => Controller.setScope scope
  | .applyOutcome maxChars outcome => Controller.applyOutcome maxChars outcome

/-- What a sequence of operations does. -/
def Controller.run (c : Controller d) (operations : List (Operation d)) : Transition d :=
  operations.foldl (fun t op => t.andThen op.run) c.unchanged

end CampusBoard
