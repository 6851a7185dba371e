import CampusBoard.Proofs.Votes.Deadlines
import Mathlib.Data.Nat.Find

/-!
# When a poll comes early

A poll delivers once the allowed delay has passed since the buffer was last filled. So it comes
early for the votes that wait if all of them are younger than that, which takes that the vote that
filled the buffer was withdrawn while others waited: they inherit its deadline.

## Design

Which vote filled the buffer, and what has happened since, is a relation that follows a run from its
end: a vote fills an empty buffer, and any other operation leaves votes waiting. By induction on it
that vote waits still, on its review, or it was withdrawn.

## Main definitions

* `CampusBoard.VoteBuffer.IsOldest`: the vote on a review has waited as long as any.
* `CampusBoard.VoteBuffer.Filling`: which vote filled the buffer, and what has happened since.
* `CampusBoard.VoteBuffer.FillerWithdrawn`: that vote was withdrawn.

## Main results

* `CampusBoard.VoteBuffer.Filling.waits_or_withdrawn`: the vote that filled the buffer waits still,
  or it was withdrawn.
* `CampusBoard.VoteBuffer.polls_wait_for_the_filler`: from when on polls deliver, and whether that
  is early for the oldest vote that waits.
-/

set_option autoImplicit false

namespace CampusBoard

/-! ## One operation -/

namespace VoteOperation

variable {rules : VoteRules} {now : Nat} {op : VoteOperation} {b : VoteBuffer}

/-- An operation that leaves votes waiting has only taken its own. -/
lemma pending_of_waiting (hafter : (op.run rules now b).buffer.pending.isEmpty = false) :
    (op.run rules now b).buffer.pending = op.gather b.pending := by
  obtain ⟨-, -, hpending⟩ | ⟨-, -, -, hpending⟩ | ⟨-, -, hpending⟩ := op.run_kinds rules now b
  · exact hpending
  · rw [hpending] at hafter
    cases hafter
  · rw [hpending] at hafter
    cases hafter

/-- Only a vote fills an empty buffer, and it waits then. -/
lemma exists_record_of_fills (hbefore : b.pending.isEmpty = true)
    (hafter : (op.run rules now b).buffer.pending.isEmpty = false) :
    ∃ review vote, op = .record review vote ∧
      ((op.run rules now b).buffer.pendingVote review).isSome = true := by
  have hpending := pending_of_waiting hafter
  cases op with
  | record review vote =>
    have hnone := (VoteBatch.isEmpty_iff_get? b.pending).mp hbefore review
    refine ⟨review, vote, rfl, ?_⟩
    rw [VoteBuffer.pendingVote, hpending, gather, VoteBuffer.get?_pendingAfter, hnone]
    simp
  | flush | poll | reset =>
    rw [hpending, gather, hbefore] at hafter
    cases hafter

/-- **A vote that waits goes on waiting as long as the buffer does not become empty**, on its review
at least, unless it is withdrawn. -/
lemma waits_or_withdraws {review : ReviewId} (hwaits : (b.pendingVote review).isSome = true)
    (hafter : (op.run rules now b).buffer.pending.isEmpty = false) :
    ((op.run rules now b).buffer.pendingVote review).isSome = true ∨
      ∃ vote, op = .record review vote ∧
        (op.run rules now b).result = .outcome .cancelled := by
  have hpending := pending_of_waiting hafter
  rw [VoteBuffer.pendingVote] at hwaits
  rw [VoteBuffer.pendingVote, hpending]
  cases op with
  | record other vote =>
    rw [gather, VoteBuffer.get?_pendingAfter]
    by_cases hreview : review = other
    · subst hreview
      by_cases hsame : b.pending.get? review = some vote
      · refine .inr ⟨vote, rfl, ?_⟩
        simp [run, VoteStep.map, VoteBuffer.result_record, VoteBuffer.pendingVote, hsame,
          VoteBuffer.outcomeOf]
      · exact .inl (by simp [hsame])
    · exact .inl (by simpa [hreview] using hwaits)
  | flush | poll | reset => exact .inl hwaits

end VoteOperation

/-- The moment withdraws the vote on a review. -/
structure VoteMoment.Withdraws (m : VoteMoment) (review : ReviewId) : Prop where
  /-- It is a vote on that review. -/
  exists_vote : ∃ vote, m.event.operation = .record review vote
  /-- It takes back the one that waited. -/
  result : m.step.result = .outcome .cancelled

namespace VoteBuffer

variable {rules : VoteRules} {events : List VoteEvent}

/-! ## The oldest vote that waits -/

/-- The vote on the review has waited since that moment, and no vote has waited longer. -/
structure IsOldest (rules : VoteRules) (events : List VoteEvent) (review : ReviewId) (since : Nat) :
    Prop where
  /-- It waits. -/
  waits : ((empty.after rules events).pendingVote review).isSome = true
  /-- It has waited since that moment. -/
  since_eq : waitingSince review (empty.run rules events) = some since
  /-- The votes on other reviews have waited no longer. -/
  since_le : ∀ (other : ReviewId) (began : Nat),
    ((empty.after rules events).pendingVote other).isSome = true →
      waitingSince other (empty.run rules events) = some began → since ≤ began

/-- Where votes wait, one of them is the oldest. -/
lemma exists_isOldest (hwaits : (empty.after rules events).pending.isEmpty = false) :
    ∃ review since, IsOldest rules events review since := by
  classical
  have hsome : ∃ since review, ((empty.after rules events).pendingVote review).isSome = true ∧
      waitingSince review (empty.run rules events) = some since := by
    have hvote : ¬∀ review, (empty.after rules events).pending.get? review = none := by
      rw [← VoteBatch.isEmpty_iff_get?, hwaits]
      decide
    obtain ⟨review, hreview⟩ := not_forall.mp hvote
    have hnow : ((empty.after rules events).pendingVote review).isSome = true :=
      Option.isSome_iff_ne_none.mpr hreview
    obtain ⟨since, hsince⟩ := exists_getLast?_risings
      (P := fun b => (b.pendingVote review).isSome) rfl hnow
    exact ⟨since, review, hnow, hsince⟩
  obtain ⟨review, hreview, hsince⟩ := Nat.find_spec hsome
  exact ⟨review, Nat.find hsome, hreview, hsince,
    fun other began hother hbegan => Nat.find_min' hsome ⟨other, hother, hbegan⟩⟩

/-! ## The vote that filled the buffer -/

/-- Votes wait after the events, and have done so since the vote on `filler` at `filled`. The
moments `later` came after it. -/
inductive Filling (rules : VoteRules) :
    List VoteEvent → ReviewId → Nat → List VoteMoment → Prop
  /-- The last event is a vote that fills the empty buffer. -/
  | fill {events : List VoteEvent} {filler : ReviewId} {vote : Vote} {filled : Nat}
      (hbefore : (empty.after rules events).pending.isEmpty = true)
      (hafter : (empty.after rules (events ++ [⟨filled, .record filler vote⟩])).pending.isEmpty =
        false) :
      Filling rules (events ++ [⟨filled, .record filler vote⟩]) filler filled []
  /-- The last event leaves votes waiting. -/
  | wait {events : List VoteEvent} {filler : ReviewId} {filled : Nat} {later : List VoteMoment}
      {e : VoteEvent} (h : Filling rules events filler filled later)
      (hafter : (empty.after rules (events ++ [e])).pending.isEmpty = false) :
      Filling rules (events ++ [e]) filler filled
        (later ++ [⟨e, e.operation.run rules e.now (empty.after rules events)⟩])

/-- Votes wait after the events, and the one that filled the buffer was withdrawn. -/
def FillerWithdrawn (rules : VoteRules) (events : List VoteEvent) : Prop :=
  ∃ filler filled later, Filling rules events filler filled later ∧
    ∃ m ∈ later, m.Withdraws filler

/-- Where votes wait, one has filled the buffer. -/
lemma exists_filling (hwaits : (empty.after rules events).pending.isEmpty = false) :
    ∃ filler filled later, Filling rules events filler filled later := by
  induction events using List.reverseRecOn with
  | nil => cases hwaits
  | append_singleton events e ih =>
    cases hbefore : (empty.after rules events).pending.isEmpty with
    | true =>
      have hafter := hwaits
      rw [after_concat] at hafter
      obtain ⟨filler, vote, hop, -⟩ := VoteOperation.exists_record_of_fills hbefore hafter
      obtain ⟨filled, op⟩ := e
      obtain rfl : op = .record filler vote := hop
      exact ⟨filler, filled, [], .fill hbefore hwaits⟩
    | false =>
      obtain ⟨filler, filled, later, h⟩ := ih hbefore
      exact ⟨filler, filled, _, .wait h hwaits⟩

namespace Filling

variable {filler : ReviewId} {filled : Nat} {later : List VoteMoment}

/-- Votes wait. -/
lemma waiting (h : Filling rules events filler filled later) :
    (empty.after rules events).pending.isEmpty = false := by
  cases h with
  | fill _ hafter => exact hafter
  | wait _ hafter => exact hafter

/-- The buffer was last filled with that vote. -/
lemma filledAt_eq (h : Filling rules events filler filled later) :
    filledAt (empty.run rules events) = some filled := by
  induction h with
  | fill hbefore hafter => exact getLast?_risings_of_rises (by simp [hbefore]) (by simp [hafter])
  | wait h _ ih => exact (getLast?_risings_of_before (by simp [h.waiting])).trans ih

/-- **The vote that filled the buffer waits still, or it was withdrawn.**

**Proof sketch.** Induction on what has happened since. The vote waits once it has filled the
buffer. An operation after which votes wait leaves it waiting unless it withdraws it
(`VoteOperation.waits_or_withdraws`), and what has been withdrawn remains so. -/
theorem waits_or_withdrawn (h : Filling rules events filler filled later) :
    ((empty.after rules events).pendingVote filler).isSome = true ∧
        waitingSince filler (empty.run rules events) = some filled ∨
      ∃ m ∈ later, m.Withdraws filler := by
  induction h with
  | @fill events filler vote filled hbefore hafter =>
    have hnone : ((empty.after rules events).pendingVote filler).isSome = false := by
      rw [pendingVote, (VoteBatch.isEmpty_iff_get? _).mp hbefore filler]
      rfl
    have hsome : ((empty.after rules
        (events ++ [⟨filled, .record filler vote⟩])).pendingVote filler).isSome = true := by
      rw [after_concat] at hafter ⊢
      obtain ⟨review, _, hop, hwaits⟩ := VoteOperation.exists_record_of_fills hbefore hafter
      obtain ⟨rfl, -⟩ := VoteOperation.record.inj hop
      exact hwaits
    exact .inl ⟨hsome, getLast?_risings_of_rises hnone hsome⟩
  | @wait events filler filled later e _ hafter ih =>
    rcases ih with ⟨hwaits, hsince⟩ | ⟨m, hm, hwithdraws⟩
    · rw [after_concat] at hafter ⊢
      rcases VoteOperation.waits_or_withdraws hwaits hafter with hstill | ⟨vote, hop, hresult⟩
      · exact .inl ⟨hstill, (getLast?_risings_of_before hwaits).trans hsince⟩
      · exact .inr ⟨_, List.mem_append_right _ (List.mem_singleton_self _), ⟨vote, hop⟩, hresult⟩
    · exact .inr ⟨m, List.mem_append_left _ hm, hwithdraws⟩

/-- What has happened since then is a part of the run. -/
lemma mem_run (h : Filling rules events filler filled later) :
    ∀ m ∈ later, m ∈ empty.run rules events := by
  induction h with
  | fill => exact fun m hm => absurd hm List.not_mem_nil
  | wait _ _ ih =>
    intro m hm
    rw [run_concat]
    rcases List.mem_append.mp hm with hm | hm
    · exact List.mem_append_left _ (ih m hm)
    · exact List.mem_append_right _ hm

end Filling

/-- Where the vote that filled the buffer was withdrawn, the run has withdrawn a vote. -/
lemma FillerWithdrawn.exists_cancelled (h : FillerWithdrawn rules events) :
    ∃ m ∈ empty.run rules events, m.step.result = .outcome .cancelled := by
  obtain ⟨filler, filled, later, hfilling, m, hm, hwithdraws⟩ := h
  exact ⟨m, hfilling.mem_run m hm, hwithdraws.result⟩

/-! ## Polls -/

section Polls

variable {filler review : ReviewId} {filled oldest : Nat} {later : List VoteMoment}
  (hforward : events.Pairwise fun earlier later => earlier.now ≤ later.now)

/-- A poll delivers once the allowed delay has passed since the buffer was filled. -/
lemma Filling.poll_delivers_iff (h : Filling rules events filler filled later)
    (hlimit : 0 < rules.limit) (now : Nat) :
    ((empty.after rules events).poll now).delivered ≠ [] ↔ filled + rules.delay ≤ now := by
  obtain ⟨htells, hdue⟩ := poll_delivers now (empty.after rules events)
  rw [← htells, hdue, deadline_after hlimit events, h.waiting, h.filledAt_eq]
  simp

include hforward

/-- No vote that waits is older than the filling of the buffer. -/
lemma IsOldest.filled_le (h : Filling rules events filler filled later)
    (holdest : IsOldest rules events review oldest) : filled ≤ oldest :=
  getLast?_risings_le (P := fun b => (b.pendingVote review).isSome)
    (fun _ => not_isEmpty_of_isSome_pendingVote) hforward holdest.waits holdest.since_eq
    h.filledAt_eq

/-- The oldest vote has waited since the filling of the buffer, unless the vote that filled it was
withdrawn. -/
lemma IsOldest.eq_filled (h : Filling rules events filler filled later)
    (holdest : IsOldest rules events review oldest) (hkept : ¬FillerWithdrawn rules events) :
    oldest = filled := by
  rcases h.waits_or_withdrawn with ⟨hwaits, hsince⟩ | hwithdrawn
  · exact Nat.le_antisymm (holdest.since_le filler filled hwaits hsince)
      (holdest.filled_le hforward h)
  · exact absurd ⟨filler, filled, later, h, hwithdrawn⟩ hkept

/-- From when on polls deliver, seen from the oldest vote. -/
lemma IsOldest.exists_filled (hlimit : 0 < rules.limit)
    (holdest : IsOldest rules events review oldest) :
    ∃ filled, filledAt (empty.run rules events) = some filled ∧ filled ≤ oldest ∧
      (¬FillerWithdrawn rules events → oldest = filled) ∧
      ∀ now, ((empty.after rules events).poll now).delivered ≠ [] ↔ filled + rules.delay ≤ now := by
  have hwaits := not_isEmpty_of_isSome_pendingVote holdest.waits
  obtain ⟨filler, filled, later, h⟩ := exists_filling (by simpa using hwaits)
  exact ⟨filled, h.filledAt_eq, holdest.filled_le hforward h, holdest.eq_filled hforward h,
    h.poll_delivers_iff hlimit⟩

end Polls

/-- **A poll comes early only where the vote that filled the buffer was withdrawn.** After any run
in which time moves forward, whatever the limit and the delay:

* if a poll delivers, then votes wait, one of them is the oldest, and it has waited for the allowed
  delay unless the vote that filled the buffer was withdrawn while others waited;
* polls deliver just from the moment on at which the allowed delay has passed since the buffer was
  filled. No vote that waits is older than that, so polls are early for the oldest one just until it
  has waited for the delay itself, and never if it is as old as the filling. That it is, unless the
  vote that filled the buffer was withdrawn.

**Proof sketch.** The deadline is set when the buffer is filled and kept (`deadline_after`). The
vote that filled the buffer waits still or was withdrawn (`Filling.waits_or_withdrawn`), and as long
as it waits it is the oldest, because no vote can wait in an empty buffer. -/
theorem polls_wait_for_the_filler (settings : ReviewSettings) (events : List VoteEvent)
    (hforward : events.Pairwise fun earlier later => earlier.now ≤ later.now) :
    let rules := VoteRules.ofSettings settings
    let delay := settings.thumbsFlushMs.toNat
    let b := empty.after rules events
    let past := empty.run rules events
    (∀ now, (b.poll now).delivered ≠ [] →
      ∃ review oldest, IsOldest rules events review oldest ∧
        (¬FillerWithdrawn rules events → oldest + delay ≤ now)) ∧
    ∀ review oldest, IsOldest rules events review oldest →
      ∃ filled, filledAt past = some filled ∧ filled ≤ oldest ∧
        (¬FillerWithdrawn rules events → oldest = filled) ∧
        ∀ now, (b.poll now).delivered ≠ [] ↔ filled + delay ≤ now := by
  intro rules delay b past
  have hlimit : 0 < rules.limit := Nat.lt_of_lt_of_le Nat.one_pos (Nat.le_max_left _ _)
  refine ⟨fun now hdelivers => ?_, fun _ _ holdest => holdest.exists_filled hforward hlimit⟩
  obtain ⟨htells, hdue⟩ := poll_delivers now b
  obtain ⟨hwaits, -⟩ := hdue.mp (htells.mpr hdelivers)
  obtain ⟨review, oldest, holdest⟩ := exists_isOldest hwaits
  refine ⟨review, oldest, holdest, fun hkept => ?_⟩
  obtain ⟨filled, -, -, heq, hdelivered⟩ := holdest.exists_filled hforward hlimit
  rw [heq hkept]
  exact (hdelivered now).mp hdelivers

/-- A batch has room for many votes, and votes wait for a tenth of a second. -/
def roomyBatches : ReviewSettings := { thumbsFlushMs := 100 }

/-- A reader votes on two reviews and turns the vote on the first. -/
def turnedFiller : List VoteEvent :=
  [⟨0, .record firstReview .up⟩, ⟨50, .record secondReview .up⟩, ⟨60, .record firstReview .down⟩]

/-- The vote that filled the buffer was replaced, not withdrawn, and the poll is in time for it. -/
theorem polls_wait_for_the_filler_turnedFiller :
    (turnedFiller.Pairwise fun earlier later => earlier.now ≤ later.now) ∧
      ¬FillerWithdrawn (.ofSettings roomyBatches) turnedFiller ∧
      ((empty.after (.ofSettings roomyBatches) turnedFiller).poll 100).delivered ≠ [] ∧
      ∃ review oldest, IsOldest (.ofSettings roomyBatches) turnedFiller review oldest ∧
        oldest + 100 ≤ 100 := by
  have hforward : turnedFiller.Pairwise fun earlier later => earlier.now ≤ later.now := by
    simp [turnedFiller]
  have hnone : ∀ m ∈ empty.run (.ofSettings roomyBatches) turnedFiller,
      m.step.result ≠ .outcome .cancelled := by decide
  have hkept : ¬FillerWithdrawn (.ofSettings roomyBatches) turnedFiller := by
    intro h
    obtain ⟨m, hm, hcancelled⟩ := h.exists_cancelled
    exact hnone m hm hcancelled
  have hdelivers :
      ((empty.after (.ofSettings roomyBatches) turnedFiller).poll 100).delivered ≠ [] := by decide
  obtain ⟨hpoll, -⟩ := polls_wait_for_the_filler roomyBatches turnedFiller hforward
  obtain ⟨review, oldest, holdest, hintime⟩ := hpoll 100 hdelivers
  exact ⟨hforward, hkept, hdelivers, review, oldest, holdest, hintime hkept⟩

/-- A reader votes on two reviews and takes the vote on the first back. -/
def withdrawnFiller : List VoteEvent :=
  [⟨0, .record firstReview .up⟩, ⟨50, .record secondReview .up⟩, ⟨50, .record firstReview .up⟩]

/-- **A poll can come early.** The vote that is left has waited for half of the allowed delay, and
is delivered at the deadline of the one that was withdrawn. -/
theorem withdrawn_filler_leaves_deadline :
    (withdrawnFiller.Pairwise fun earlier later => earlier.now ≤ later.now) ∧
      (∀ e ∈ withdrawnFiller, e.now ≤ 100) ∧
      FillerWithdrawn (.ofSettings roomyBatches) withdrawnFiller ∧
      IsOldest (.ofSettings roomyBatches) withdrawnFiller secondReview 50 ∧
      ((empty.after (.ofSettings roomyBatches) withdrawnFiller).poll 100).delivered =
        [VoteBatch.empty.insert secondReview .up] ∧
      ¬50 + roomyBatches.thumbsFlushMs.toNat ≤ 100 := by
  have hpending : (empty.after (.ofSettings roomyBatches) withdrawnFiller).pending =
      VoteBatch.empty.insert secondReview .up := by decide
  refine ⟨by simp [withdrawnFiller], by simp [withdrawnFiller], ?_, ?_, by decide, by decide⟩
  · have hfilling : Filling (.ofSettings roomyBatches) withdrawnFiller firstReview 0 _ :=
      .wait (.wait (@Filling.fill _ [] _ _ _ (by decide) (by decide)) (by decide)) (by decide)
    exact ⟨firstReview, 0, _, hfilling, _, List.mem_concat_self, ⟨.up, rfl⟩, by decide⟩
  · refine ⟨by decide, by decide, fun other began hother hbegan => ?_⟩
    rw [pendingVote, hpending, VoteBatch.get?_insert] at hother
    by_cases hsecond : other = secondReview
    · subst hsecond
      have hsince : waitingSince secondReview
          (empty.run (.ofSettings roomyBatches) withdrawnFiller) = some 50 := by decide
      exact Nat.le_of_eq (Option.some.inj (hsince.symm.trans hbegan))
    · simp [hsecond, VoteBatch.empty, VoteBatch.get?, VoteBatch.lookup] at hother

end VoteBuffer

end CampusBoard
