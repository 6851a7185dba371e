import CampusBoard.Votes.Buffer
import Mathlib.Data.List.Induction
import Mathlib.Tactic.Lemma

/-!
# Runs of the buffer of votes

## Design

A run is a list of events, each an operation at a moment, and gives a list of what each of them did.
Nothing here asks for the moments to be in order. What one operation does to the votes falls into
three kinds, whatever the operation and whatever made it act: it keeps the votes that wait, it
delivers them all, or it forgets them.

## Main definitions

* `CampusBoard.VoteEvent`, `CampusBoard.VoteMoment`: an operation at a moment, and what it did.
* `CampusBoard.VoteBuffer.run`, `CampusBoard.VoteBuffer.after`: what a run does, and where it ends.
* `CampusBoard.VoteOperation.gather`: the votes that wait once an operation has taken its own.

## Main results

* `CampusBoard.VoteOperation.run_kinds`: an operation keeps, delivers or forgets.
* `CampusBoard.VoteBuffer.run_split`: each moment of a run starts from the buffer of those before.
-/

set_option autoImplicit false

namespace CampusBoard

/-- An operation on the buffer at a moment. -/
structure VoteEvent where
  /-- The moment in milliseconds. -/
  now : Nat
  /-- The operation. -/
  operation : VoteOperation
  deriving DecidableEq, Repr

/-- What an operation did at a moment. -/
structure VoteMoment where
  /-- The operation with its moment. -/
  event : VoteEvent
  /-- The buffer afterwards, what was delivered and what was answered. -/
  step : VoteStep VoteAnswer

/-! ## One operation -/

/-- The votes that wait once an operation has taken its own. -/
def VoteOperation.gather : VoteOperation → VoteBatch → VoteBatch
  | .record review vote, pending => VoteBuffer.pendingAfter review vote pending
  | .flush, pending => pending
  | .poll, pending => pending
  | .reset, pending => pending

namespace VoteBuffer

/-- A vote takes back the same vote, replaces the other one, and leaves other reviews alone. -/
lemma get?_pendingAfter (review other : ReviewId) (vote : Vote) (pending : VoteBatch) :
    (pendingAfter review vote pending).get? other =
      if other = review then if pending.get? review = some vote then none else some vote
      else pending.get? other := by
  unfold pendingAfter outcomeOf
  cases h : pending.get? review with
  | none => simp [VoteBatch.get?_insert]
  | some waiting =>
    by_cases hw : waiting = vote <;> simp [hw, VoteBatch.get?_insert, VoteBatch.get?_erase]

/-- A vote answers what it did to the one that waited, whether or not it made the batch full. -/
lemma result_record (rules : VoteRules) (now : Nat) (review : ReviewId) (vote : Vote)
    (b : VoteBuffer) :
    (b.record rules now review vote).result = outcomeOf vote (b.pendingVote review) := by
  simp only [record]
  split <;> rfl

/-- Giving up what waits leaves nothing, and delivers it if there was anything. -/
lemma flush_kinds (b : VoteBuffer) :
    b.flush.buffer.pending = .empty ∧
      (b.flush.delivered = [] ∧ b.pending = .empty ∨
        b.flush.delivered = [b.pending] ∧ b.pending.isEmpty = false) := by
  refine ⟨rfl, ?_⟩
  cases h : b.pending.isEmpty
  · exact .inr ⟨by simp [flush, h], rfl⟩
  · exact .inl ⟨by simp [flush, h], VoteBatch.eq_empty_of_isEmpty h⟩

/-- Only votes that wait are ever due. -/
lemma isEmpty_of_isDue {now : Nat} {b : VoteBuffer} (h : b.isDue now = true) :
    b.pending.isEmpty = false := by
  unfold isDue at h
  split at h
  · simp only [Bool.and_eq_true, Bool.not_eq_true'] at h
    exact h.2
  · cases h

end VoteBuffer

/-- **What one operation does to the votes.** It keeps all of them, its own included, and delivers
nothing; or it delivers all of them as one batch and leaves none; or it is a reset, which leaves
none and delivers nothing. -/
theorem VoteOperation.run_kinds (rules : VoteRules) (now : Nat) (op : VoteOperation)
    (b : VoteBuffer) :
    (op ≠ .reset ∧ (op.run rules now b).delivered = [] ∧
      (op.run rules now b).buffer.pending = op.gather b.pending) ∨
    (op ≠ .reset ∧ (op.run rules now b).delivered = [op.gather b.pending] ∧
      (op.gather b.pending).isEmpty = false ∧ (op.run rules now b).buffer.pending = .empty) ∨
    (op = .reset ∧ (op.run rules now b).delivered = [] ∧
      (op.run rules now b).buffer.pending = .empty) := by
  cases op with
  | record review vote =>
    simp only [run, VoteStep.map, gather, VoteBuffer.record]
    split
    · obtain ⟨hbuffer, ⟨hdelivered, hempty⟩ | ⟨hdelivered, hfull⟩⟩ :=
        VoteBuffer.flush_kinds ⟨VoteBuffer.pendingAfter review vote b.pending,
          VoteBuffer.deadlineAfter rules now b.deadline
            (VoteBuffer.pendingAfter review vote b.pending)⟩
      · exact .inl ⟨nofun, hdelivered, hbuffer.trans hempty.symm⟩
      · exact .inr (.inl ⟨nofun, hdelivered, hfull, hbuffer⟩)
    · exact .inl ⟨nofun, rfl, rfl⟩
  | flush =>
    obtain ⟨hbuffer, ⟨hdelivered, hempty⟩ | ⟨hdelivered, hfull⟩⟩ := VoteBuffer.flush_kinds b
    · exact .inl ⟨nofun, hdelivered, hbuffer.trans hempty.symm⟩
    · exact .inr (.inl ⟨nofun, hdelivered, hfull, hbuffer⟩)
  | poll =>
    simp only [run, VoteStep.map, gather, VoteBuffer.poll]
    split
    · rename_i hdue
      have hfull := VoteBuffer.isEmpty_of_isDue hdue
      exact .inr (.inl ⟨nofun, by simp [VoteBuffer.flush, hfull], hfull, rfl⟩)
    · exact .inl ⟨nofun, rfl, rfl⟩
  | reset => exact .inr (.inr ⟨rfl, rfl, rfl⟩)

/-! ## Runs -/

namespace VoteBuffer

variable (rules : VoteRules)

/-- What the events of a run do, one after another. -/
def run (b : VoteBuffer) : List VoteEvent → List VoteMoment
  | [] => []
  | e :: rest =>
    let step := e.operation.run rules e.now b
    ⟨e, step⟩ :: run step.buffer rest

/-- The buffer after the events of a run. -/
def after (b : VoteBuffer) (events : List VoteEvent) : VoteBuffer :=
  events.foldl (fun b e => (e.operation.run rules e.now b).buffer) b

/-- The buffer after one more event. -/
lemma after_concat (b : VoteBuffer) (events : List VoteEvent) (e : VoteEvent) :
    b.after rules (events ++ [e]) =
      (e.operation.run rules e.now (b.after rules events)).buffer := by
  simp [after, List.foldl_append]

/-- A run goes on from the buffer that it has reached. -/
lemma run_append (b : VoteBuffer) (first second : List VoteEvent) :
    b.run rules (first ++ second) =
      b.run rules first ++ (b.after rules first).run rules second := by
  induction first generalizing b with
  | nil => rfl
  | cons e rest ih => exact congrArg (List.cons _) (ih _)

/-- One more event adds what it does to the buffer reached before. -/
lemma run_concat (b : VoteBuffer) (events : List VoteEvent) (e : VoteEvent) :
    b.run rules (events ++ [e]) =
      b.run rules events ++ [⟨e, e.operation.run rules e.now (b.after rules events)⟩] := by
  rw [run_append]
  rfl

/-- **Each moment of a run starts from the buffer of those before.** -/
theorem run_split {b : VoteBuffer} {events : List VoteEvent} {past future : List VoteMoment}
    {m : VoteMoment} (h : b.run rules events = past ++ m :: future) :
    ∃ earlier later, events = earlier ++ m.event :: later ∧ past = b.run rules earlier ∧
      m.step = m.event.operation.run rules m.event.now (b.after rules earlier) := by
  induction events generalizing b past with
  | nil => simp [run] at h
  | cons e rest ih =>
    cases past with
    | nil =>
      obtain ⟨rfl, -⟩ := List.cons.inj h
      exact ⟨[], rest, rfl, rfl, rfl⟩
    | cons m' past =>
      obtain ⟨rfl, hrest⟩ := List.cons.inj h
      obtain ⟨earlier, later, rfl, rfl, hstep⟩ := ih hrest
      exact ⟨e :: earlier, later, rfl, rfl, hstep⟩

end VoteBuffer

end CampusBoard
