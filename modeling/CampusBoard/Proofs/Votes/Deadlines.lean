import CampusBoard.Proofs.Votes.Runs
import Mathlib.Tactic.Common

/-!
# The buffer of votes never holds a full batch and never forgets its deadline

Between two operations fewer votes wait than make a batch full, and as long as any wait there is a
deadline for them. It was set when the buffer last ceased to be empty, so no vote waits longer than
the allowed delay before it is due.

## Design

One equation says what any operation does to the deadline: it is kept while votes go on waiting, set
when the first one comes and given up when none is left (`VoteBuffer.Steady.deadline_run`). When
something began is read off a run as the moments at which a property of the buffer became true, and
the same few lemmas on such moments serve the whole buffer, the vote on one review, and one vote.

## Main definitions

* `CampusBoard.VoteBuffer.Steady`: the invariant of buffers between operations.
* `CampusBoard.VoteBuffer.risings`: the moments at which a property became true in a run.
* `CampusBoard.VoteBuffer.filledAt`, `CampusBoard.VoteBuffer.waitingSince`,
  `CampusBoard.VoteBuffer.castAt`: the last such moments of the buffer and of its votes.

## Main results

* `CampusBoard.VoteBuffer.Steady.run`: one operation keeps the invariant.
* `CampusBoard.VoteBuffer.deadline_after`: the deadline follows the moment at which the buffer was
  last filled.
* `CampusBoard.VoteBuffer.batches_are_bounded_and_due`: sizes, deadlines and deliveries in a run.
-/

set_option autoImplicit false

namespace CampusBoard

/-! ## Sizes -/

namespace VoteBuffer

/-- A vote adds one to the votes that wait if none waited on its review, and never more. -/
lemma size_pendingAfter (review : ReviewId) (vote : Vote) (pending : VoteBatch) :
    outcomeOf vote (pending.get? review) = .recorded ∧
        (pendingAfter review vote pending).size = pending.size + 1 ∨
      outcomeOf vote (pending.get? review) ≠ .recorded ∧
        (pendingAfter review vote pending).size ≤ pending.size := by
  unfold pendingAfter
  cases hwaits : pending.get? review with
  | none => exact .inl ⟨rfl, by simp [outcomeOf, VoteBatch.size_insert, hwaits]⟩
  | some waiting =>
    by_cases hsame : waiting = vote
    · have hcancelled : outcomeOf vote (some waiting) = .cancelled := if_pos hsame
      rw [hcancelled]
      exact .inr ⟨nofun, VoteBatch.size_erase_le _ _⟩
    · have hreplaced : outcomeOf vote (some waiting) = .replaced := if_neg hsame
      rw [hreplaced]
      refine .inr ⟨nofun, ?_⟩
      simp [VoteBatch.size_insert, hwaits]

end VoteBuffer

/-- An operation adds at most one vote to those that wait. -/
lemma VoteOperation.size_gather_le (op : VoteOperation) (pending : VoteBatch) :
    (op.gather pending).size ≤ pending.size + 1 := by
  cases op with
  | record review vote =>
    rcases VoteBuffer.size_pendingAfter review vote pending with ⟨-, hsize⟩ | ⟨-, hsize⟩
    · exact Nat.le_of_eq hsize
    · exact Nat.le_succ_of_le hsize
  | flush | poll | reset => exact Nat.le_succ _

/-! ## One operation -/

namespace VoteBuffer

/-- What is always true of a buffer between two operations. -/
structure Steady (rules : VoteRules) (b : VoteBuffer) : Prop where
  /-- The batch is not full. -/
  size_lt : b.pending.size < rules.limit
  /-- There is a deadline just when votes wait. -/
  isSome_deadline : b.deadline.isSome = !b.pending.isEmpty

/-- At first no vote waits. -/
lemma steady_empty {rules : VoteRules} (hlimit : 0 < rules.limit) : Steady rules empty :=
  ⟨hlimit, rfl⟩

section Step

variable {rules : VoteRules} {b : VoteBuffer} (h : b.Steady rules) (now : Nat)

include h

/-- Where votes wait, keeping the deadline and setting one where there is none come to the same. -/
lemma Steady.deadlineAfter_eq : deadlineAfter rules now b.deadline b.pending = b.deadline := by
  have hdeadline := h.isSome_deadline
  unfold deadlineAfter
  cases hempty : b.pending.isEmpty with
  | true =>
    have hnone : b.deadline = none := by simpa [hempty] using hdeadline
    simp [hnone]
  | false =>
    obtain ⟨due, hdue⟩ := Option.isSome_iff_exists.mp (by simpa [hempty] using hdeadline)
    simp [hdue]

/-- **What one operation does to the deadline.** It is kept while votes go on waiting, set when they
begin to wait, and given up when none is left. -/
theorem Steady.deadline_run (op : VoteOperation) :
    (op.run rules now b).buffer.deadline =
      deadlineAfter rules now b.deadline (op.run rules now b).buffer.pending := by
  cases op with
  | record review vote =>
    simp only [VoteOperation.run, VoteStep.map, record]
    split <;> rfl
  | flush => rfl
  | poll =>
    simp only [VoteOperation.run, VoteStep.map, poll]
    split
    · rfl
    · exact (h.deadlineAfter_eq now).symm
  | reset => rfl

/-- **One operation keeps the invariant.** -/
theorem Steady.run (op : VoteOperation) : (op.run rules now b).buffer.Steady rules where
  size_lt := by
    cases op with
    | record review vote =>
      simp only [VoteOperation.run, VoteStep.map, record]
      split
      · exact Nat.zero_lt_of_lt h.size_lt
      · rename_i hroom
        exact Nat.lt_of_not_le hroom
    | flush => exact Nat.zero_lt_of_lt h.size_lt
    | poll =>
      simp only [VoteOperation.run, VoteStep.map, poll]
      split
      · exact Nat.zero_lt_of_lt h.size_lt
      · exact h.size_lt
    | reset => exact Nat.zero_lt_of_lt h.size_lt
  isSome_deadline := by
    rw [h.deadline_run now op, deadlineAfter]
    cases (op.run rules now b).buffer.pending.isEmpty <;> rfl

/-- A batch that is delivered has at least one vote and is at most full. -/
lemma Steady.size_delivered (op : VoteOperation) :
    ∀ batch ∈ (op.run rules now b).delivered, 1 ≤ batch.size ∧ batch.size ≤ rules.limit := by
  intro batch hbatch
  obtain ⟨-, hdelivered, -⟩ | ⟨-, hdelivered, hfull, -⟩ | ⟨-, hdelivered, -⟩ :=
    op.run_kinds rules now b
  · simp [hdelivered] at hbatch
  · obtain rfl : batch = op.gather b.pending := by simpa [hdelivered] using hbatch
    have hsize := op.size_gather_le b.pending
    have hroom := h.size_lt
    exact ⟨VoteBatch.size_pos_iff.mpr hfull, by omega⟩
  · simp [hdelivered] at hbatch

/-- So has the batch that is delivered when the buffer is given up. -/
lemma Steady.size_drop : ∀ batch ∈ b.drop, 1 ≤ batch.size ∧ batch.size ≤ rules.limit :=
  h.size_delivered 0 .flush

/-- Only a vote on a review without one can make the batch full, and then just full. -/
lemma Steady.recorded_of_full {review : ReviewId} {vote : Vote}
    (hfull : rules.limit ≤ (pendingAfter review vote b.pending).size) :
    outcomeOf vote (b.pending.get? review) = .recorded ∧
      (pendingAfter review vote b.pending).size = rules.limit := by
  have hroom := h.size_lt
  rcases size_pendingAfter review vote b.pending with ⟨hrecorded, hsize⟩ | ⟨-, hsize⟩
  · exact ⟨hrecorded, by omega⟩
  · omega

/-- **A vote makes a delivery just when it is recorded as the last one that a full batch needs.**
The batch is then full, and the vote is in it. -/
theorem Steady.record_delivers (review : ReviewId) (vote : Vote) :
    ((b.record rules now review vote).delivered ≠ [] ↔
      (b.record rules now review vote).result = .recorded ∧
        (pendingAfter review vote b.pending).size = rules.limit) ∧
    ∀ batch ∈ (b.record rules now review vote).delivered,
      batch = pendingAfter review vote b.pending ∧ batch.size = rules.limit ∧
        batch.get? review = some vote := by
  rw [result_record, pendingVote]
  by_cases hfull : rules.limit ≤ (pendingAfter review vote b.pending).size
  · obtain ⟨hrecorded, hsize⟩ := h.recorded_of_full hfull
    have hsome : (pendingAfter review vote b.pending).isEmpty = false :=
      VoteBatch.size_pos_iff.mp (Nat.zero_lt_of_lt (hsize ▸ h.size_lt))
    have hdelivered : (b.record rules now review vote).delivered =
        [pendingAfter review vote b.pending] := by
      simp [record, hfull, flush, hsome]
    have hnone : b.pending.get? review ≠ some vote := by
      intro hwaits
      simp [hwaits, outcomeOf] at hrecorded
    rw [hdelivered]
    refine ⟨iff_of_true (List.cons_ne_nil _ _) ⟨hrecorded, hsize⟩, ?_⟩
    intro batch hbatch
    obtain rfl := List.mem_singleton.mp hbatch
    refine ⟨rfl, hsize, ?_⟩
    rw [get?_pendingAfter, if_pos rfl, if_neg hnone]
  · have hdelivered : (b.record rules now review vote).delivered = [] := by simp [record, hfull]
    rw [hdelivered]
    exact ⟨iff_of_false (by simp) fun hboth => hfull (Nat.le_of_eq hboth.2.symm), by simp⟩

omit h in
/-- **A poll delivers just when votes wait and are due**, and tells. -/
theorem poll_delivers (b : VoteBuffer) :
    ((b.poll now).result = true ↔ (b.poll now).delivered ≠ []) ∧
      ((b.poll now).result = true ↔
        b.pending.isEmpty = false ∧ ∃ due, b.deadline = some due ∧ due ≤ now) := by
  have hdue : b.isDue now = true ↔
      b.pending.isEmpty = false ∧ ∃ due, b.deadline = some due ∧ due ≤ now := by
    unfold isDue
    cases b.deadline <;> simp [and_comm]
  rw [← hdue]
  unfold poll
  split
  · rename_i hnow
    have hfull := isEmpty_of_isDue hnow
    simp [hnow, flush, hfull]
  · rename_i hnow
    simp [hnow]

end Step

/-! ## When something began -/

/-- The moments at which a property of the buffer became true along a run that starts from `b`. -/
def risings (P : VoteBuffer → Bool) (b : VoteBuffer) : List VoteMoment → List Nat
  | [] => []
  | m :: rest =>
    (if !P b && P m.step.buffer then [m.event.now] else []) ++ risings P m.step.buffer rest

section Risings

variable (rules : VoteRules) (P Q : VoteBuffer → Bool)

/-- One more event is a rising if the property became true with it. -/
lemma risings_concat (b : VoteBuffer) (events : List VoteEvent) (e : VoteEvent) :
    risings P b (b.run rules (events ++ [e])) =
      risings P b (b.run rules events) ++
        if !P (b.after rules events) && P (b.after rules (events ++ [e])) then [e.now] else [] := by
  rw [after_concat]
  induction events generalizing b with
  | nil => simp [run, risings, after]
  | cons first events ih =>
    have hrest := ih (first.operation.run rules first.now b).buffer
    simp only [List.cons_append, run, risings, hrest, List.append_assoc]
    rfl

variable {rules P Q} {events : List VoteEvent}

/-- What was true already did not become true with the last event. -/
lemma getLast?_risings_of_before {e : VoteEvent} (hbefore : P (empty.after rules events) = true) :
    (risings P empty (empty.run rules (events ++ [e]))).getLast? =
      (risings P empty (empty.run rules events)).getLast? := by
  simp [risings_concat, hbefore]

/-- What became true with the last event last did so then. -/
lemma getLast?_risings_of_rises {e : VoteEvent} (hbefore : P (empty.after rules events) = false)
    (hafter : P (empty.after rules (events ++ [e])) = true) :
    (risings P empty (empty.run rules (events ++ [e]))).getLast? = some e.now := by
  simp [risings_concat, hbefore, hafter]

/-- Whatever became true became true at the moment of an event. -/
lemma exists_event_of_mem_risings {b : VoteBuffer} {moment : Nat}
    (h : moment ∈ risings P b (b.run rules events)) : ∃ e ∈ events, e.now = moment := by
  induction events using List.reverseRecOn with
  | nil => cases h
  | append_singleton events e ih =>
    rw [risings_concat, List.mem_append] at h
    rcases h with h | h
    · obtain ⟨e', he', hnow⟩ := ih h
      exact ⟨e', List.mem_append_left _ he', hnow⟩
    · refine ⟨e, by simp, ?_⟩
      split at h
      · exact (List.mem_singleton.mp h).symm
      · cases h

/-- What is true now and was not at first became true at some moment. -/
lemma exists_getLast?_risings (hstart : P empty = false)
    (hnow : P (empty.after rules events) = true) :
    ∃ moment, (risings P empty (empty.run rules events)).getLast? = some moment := by
  induction events using List.reverseRecOn with
  | nil =>
    change P empty = true at hnow
    rw [hstart] at hnow
    cases hnow
  | append_singleton events e ih =>
    cases hbefore : P (empty.after rules events) with
    | true =>
      rw [getLast?_risings_of_before hbefore]
      exact ih hbefore
    | false => exact ⟨e.now, getLast?_risings_of_rises hbefore hnow⟩

/-- **What cannot be true without another began no earlier than the other**, if time moves forward.

**Proof sketch.** Induction on the run from its end. If the first becomes true with the last event,
the other one became true then or before. Otherwise both were true before. -/
theorem getLast?_risings_le (himp : ∀ b, P b = true → Q b = true)
    (hforward : events.Pairwise fun earlier later => earlier.now ≤ later.now)
    (hnow : P (empty.after rules events) = true) {began other : Nat}
    (hbegan : (risings P empty (empty.run rules events)).getLast? = some began)
    (hother : (risings Q empty (empty.run rules events)).getLast? = some other) :
    other ≤ began := by
  induction events using List.reverseRecOn generalizing began other with
  | nil => cases hbegan
  | append_singleton events e ih =>
    obtain ⟨hevents, -, hlast⟩ := List.pairwise_append.mp hforward
    cases hbefore : P (empty.after rules events) with
    | true =>
      have hQbefore := himp _ hbefore
      rw [getLast?_risings_of_before hbefore] at hbegan
      rw [getLast?_risings_of_before hQbefore] at hother
      exact ih hevents hbefore hbegan hother
    | false =>
      rw [getLast?_risings_of_rises hbefore hnow] at hbegan
      obtain rfl : e.now = began := Option.some.inj hbegan
      obtain ⟨e', he', rfl⟩ := exists_event_of_mem_risings (List.mem_of_getLast? hother)
      rcases List.mem_append.mp he' with he' | he'
      · exact hlast e' he' e (List.mem_singleton_self e)
      · obtain rfl := List.mem_singleton.mp he'
        exact Nat.le_refl _

end Risings

/-- No vote waits in an empty buffer. -/
lemma not_isEmpty_of_isSome_pendingVote {b : VoteBuffer} {review : ReviewId}
    (h : (b.pendingVote review).isSome = true) : (!b.pending.isEmpty) = true := by
  by_contra hempty
  have hnone := (VoteBatch.isEmpty_iff_get? b.pending).mp (by simpa using hempty) review
  rw [pendingVote, hnone] at h
  cases h

/-- The moment at which the buffer last went from empty to not empty. -/
def filledAt (past : List VoteMoment) : Option Nat :=
  (risings (fun b => !b.pending.isEmpty) empty past).getLast?

/-- A buffer that is not empty has been filled at some moment. -/
lemma exists_filledAt {rules : VoteRules} {events : List VoteEvent}
    (hnow : (!(empty.after rules events).pending.isEmpty) = true) :
    ∃ filled, filledAt (empty.run rules events) = some filled :=
  exists_getLast?_risings rfl hnow

/-- The moment at which a vote on a review last began to wait, whether or not it was replaced
since. -/
def waitingSince (review : ReviewId) (past : List VoteMoment) : Option Nat :=
  (risings (fun b => (b.pendingVote review).isSome) empty past).getLast?

/-- The moment at which this vote on a review last began to wait. -/
def castAt (review : ReviewId) (vote : Vote) (past : List VoteMoment) : Option Nat :=
  (risings (fun b => b.pendingVote review = some vote) empty past).getLast?

/-! ## Runs -/

section Runs

variable {rules : VoteRules} (hlimit : 0 < rules.limit) (events : List VoteEvent)

include hlimit

/-- The invariant holds along every run. -/
lemma steady_after : (empty.after rules events).Steady rules := by
  induction events using List.reverseRecOn with
  | nil => exact steady_empty hlimit
  | append_singleton events e ih =>
    rw [after_concat]
    exact ih.run e.now e.operation

/-- **The deadline follows the moment at which the buffer was last filled.**

**Proof sketch.** Induction on the run from its end. With votes waiting before the last event the
deadline is kept and no other filling counts; without any the last event has filled the buffer, and
the deadline is set from its moment. -/
theorem deadline_after :
    (empty.after rules events).deadline =
      if (empty.after rules events).pending.isEmpty then none
      else (filledAt (empty.run rules events)).map (· + rules.delay) := by
  induction events using List.reverseRecOn with
  | nil => rfl
  | append_singleton events e ih =>
    have hsteady := steady_after hlimit events
    have hafter := after_concat rules empty events e
    rw [hafter, hsteady.deadline_run e.now e.operation, ← hafter, deadlineAfter]
    split
    · rfl
    · rename_i hwaits
      rw [Bool.not_eq_true] at hwaits
      rw [ih]
      cases hbefore : (empty.after rules events).pending.isEmpty with
      | true =>
        have hfilled : filledAt (empty.run rules (events ++ [e])) = some e.now :=
          getLast?_risings_of_rises (by simp [hbefore]) (by simp [hwaits])
        rw [hfilled]
        rfl
      | false =>
        have hsame : filledAt (empty.run rules (events ++ [e])) =
            filledAt (empty.run rules events) := getLast?_risings_of_before (by simp [hbefore])
        obtain ⟨filled, hfilled⟩ := exists_filledAt (by simpa using hbefore)
        rw [hsame, hfilled]
        rfl

/-- **What cannot be true of an empty buffer** began, when it is true, at most the allowed delay
before the deadline. -/
lemma exists_deadline_le
    (hforward : events.Pairwise fun earlier later => earlier.now ≤ later.now)
    {P : VoteBuffer → Bool} (himp : ∀ b, P b = true → (!b.pending.isEmpty) = true)
    (hnow : P (empty.after rules events) = true) :
    ∃ due began, (empty.after rules events).deadline = some due ∧
      (risings P empty (empty.run rules events)).getLast? = some began ∧
      due ≤ began + rules.delay := by
  have hempty : P empty = false := by
    by_contra htrue
    exact absurd (himp empty (by simpa using htrue)) (by decide)
  have hwaits := himp _ hnow
  obtain ⟨filled, hfilled⟩ := exists_filledAt hwaits
  obtain ⟨began, hbegan⟩ := exists_getLast?_risings hempty hnow
  have hle : filled ≤ began := getLast?_risings_le himp hforward hnow hbegan hfilled
  refine ⟨filled + rules.delay, began, ?_, hbegan, by omega⟩
  rw [deadline_after hlimit events, if_neg (by simpa using hwaits), hfilled]
  rfl

end Runs

/-- **Batches are bounded, and votes that wait are due in time.** After any run, whatever the limit
and the delay, and zero counting as a limit of one:

* fewer votes wait than make a batch full;
* there is a deadline just when votes wait, and it lies the allowed delay after the moment at which
  the buffer last ceased to be empty; so it comes no later than that delay after any of the votes
  that wait was cast, and after a vote on its review began to wait;
* every batch that is delivered next, or when the buffer is given up, has at least one vote and is
  at most full;
* a vote makes a delivery just when it is recorded and makes the batch full, and then the batch is
  full and has that vote;
* a poll makes a delivery just when it says so, which is when votes wait and are due.

**Proof sketch.** The invariant `Steady` holds along the run, and says what the next operation can
do. The deadline is the one of `deadline_after`, and a vote cannot wait in an empty buffer, so it
began to wait no earlier than the buffer was filled (`getLast?_risings_le`). -/
theorem batches_are_bounded_and_due (settings : ReviewSettings) (events : List VoteEvent)
    (hforward : events.Pairwise fun earlier later => earlier.now ≤ later.now) :
    let rules := VoteRules.ofSettings settings
    let limit := max 1 settings.maxThumbs.toNat
    let delay := settings.thumbsFlushMs.toNat
    let b := empty.after rules events
    let past := empty.run rules events
    b.pending.size < limit ∧
    (b.deadline ≠ none ↔ b.pending.isEmpty = false) ∧
    (b.pending.isEmpty = false →
      ∃ filled, filledAt past = some filled ∧ b.deadline = some (filled + delay)) ∧
    (∀ review vote, b.pendingVote review = some vote →
      ∃ due waiting cast, b.deadline = some due ∧
        waitingSince review past = some waiting ∧ castAt review vote past = some cast ∧
        due ≤ waiting + delay ∧ due ≤ cast + delay) ∧
    (∀ (now : Nat) (op : VoteOperation), ∀ batch ∈ (op.run rules now b).delivered,
      1 ≤ batch.size ∧ batch.size ≤ limit) ∧
    (∀ batch ∈ b.drop, 1 ≤ batch.size ∧ batch.size ≤ limit) ∧
    (∀ (now : Nat) (review : ReviewId) (vote : Vote),
      ((b.record rules now review vote).delivered ≠ [] ↔
        (b.record rules now review vote).result = .recorded ∧
          (pendingAfter review vote b.pending).size = limit) ∧
      ∀ batch ∈ (b.record rules now review vote).delivered,
        batch = pendingAfter review vote b.pending ∧ batch.size = limit ∧
          batch.get? review = some vote) ∧
    ∀ now : Nat,
      ((b.poll now).result = true ↔ (b.poll now).delivered ≠ []) ∧
      ((b.poll now).result = true ↔
        b.pending.isEmpty = false ∧ ∃ due, b.deadline = some due ∧ due ≤ now) := by
  intro rules limit delay b past
  have hlimit : 0 < rules.limit := Nat.lt_of_lt_of_le Nat.one_pos (Nat.le_max_left _ _)
  have hsteady : b.Steady rules := steady_after hlimit events
  have hfilling : b.pending.isEmpty = false →
      ∃ filled, filledAt past = some filled ∧ b.deadline = some (filled + delay) := by
    intro hwaits
    obtain ⟨filled, hfilled⟩ := exists_filledAt (by simpa using hwaits)
    refine ⟨filled, hfilled, ?_⟩
    have hdeadline := deadline_after hlimit events
    rw [if_neg (by simpa using hwaits), hfilled] at hdeadline
    exact hdeadline
  refine ⟨hsteady.size_lt, ?_, hfilling, ?_, fun now op => hsteady.size_delivered now op,
    hsteady.size_drop, fun now review vote => hsteady.record_delivers now review vote,
    fun now => poll_delivers now b⟩
  · rw [← Option.isSome_iff_ne_none, hsteady.isSome_deadline]
    simp
  · intro review vote hvote
    have hcast : ∀ b : VoteBuffer, decide (b.pendingVote review = some vote) = true →
        (!b.pending.isEmpty) = true := by
      intro b hb
      have hsome : (b.pendingVote review).isSome = true :=
        Option.isSome_of_eq_some (of_decide_eq_true hb)
      exact not_isEmpty_of_isSome_pendingVote hsome
    obtain ⟨due, waiting, hdue, hwaiting, hle⟩ := exists_deadline_le hlimit events hforward
      (fun _ => not_isEmpty_of_isSome_pendingVote) (Option.isSome_of_eq_some hvote)
    obtain ⟨due', cast, hdue', hcastAt, hle'⟩ :=
      exists_deadline_le hlimit events hforward hcast (decide_eq_true hvote)
    obtain rfl : due = due' := Option.some.inj (hdue.symm.trans hdue')
    exact ⟨due, waiting, cast, hdue, hwaiting, hcastAt, hle, hle'⟩

/-- A batch is full with two votes, and votes wait for a tenth of a second. -/
def quickBatches : ReviewSettings := { maxThumbs := 2, thumbsFlushMs := 100 }

/-- The review that a reader votes on first. -/
def firstReview : ReviewId := ⟨"first", by decide, by decide, by decide⟩

/-- The review that the reader votes on after that. -/
def secondReview : ReviewId := ⟨"second", by decide, by decide, by decide⟩

/-- A reader takes a vote back, votes on another review, and then turns that vote. -/
def turningVotes : List VoteEvent :=
  [⟨0, .record firstReview .up⟩, ⟨10, .record firstReview .up⟩, ⟨20, .record secondReview .up⟩,
    ⟨30, .record secondReview .down⟩]

/-- The vote that is left was cast later than the buffer was filled, and the filling counts. -/
theorem batches_are_bounded_and_due_turningVotes :
    (turningVotes.Pairwise fun earlier later => earlier.now ≤ later.now) ∧
      filledAt (empty.run (.ofSettings quickBatches) turningVotes) = some 20 ∧
      (empty.after (.ofSettings quickBatches) turningVotes).deadline = some 120 ∧
      ∃ due waiting cast,
        (empty.after (.ofSettings quickBatches) turningVotes).deadline = some due ∧
        waitingSince secondReview (empty.run (.ofSettings quickBatches) turningVotes) =
          some waiting ∧
        castAt secondReview .down (empty.run (.ofSettings quickBatches) turningVotes) = some cast ∧
        due ≤ waiting + 100 ∧ due ≤ cast + 100 := by
  have hforward : turningVotes.Pairwise fun earlier later => earlier.now ≤ later.now := by
    simp [turningVotes]
  obtain ⟨-, -, -, hdue, -⟩ := batches_are_bounded_and_due quickBatches turningVotes hforward
  exact ⟨hforward, by rfl, by rfl, hdue secondReview .down (by rfl)⟩

end VoteBuffer

end CampusBoard
