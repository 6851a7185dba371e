import CampusBoard.Settings.Basic
import CampusBoard.Votes.Batch

/-!
# The buffer of votes

Votes wait in a buffer until they are delivered as a batch: when the batch is full, when the first
of them has waited long enough, on request, and when the buffer is given up. Voting the same way
again withdraws a waiting vote, voting the other way replaces it.

## Main definitions

* `CampusBoard.VoteRules`: when a batch is full and how long a vote may wait.
* `CampusBoard.VoteBuffer`: the votes that wait.
* `CampusBoard.VoteBuffer.record`, `CampusBoard.VoteBuffer.flush`, `CampusBoard.VoteBuffer.poll`,
  `CampusBoard.VoteBuffer.reset`: the operations.
* `CampusBoard.VoteOperation`, `CampusBoard.VoteOperation.run`: the operations as data.

## Design

Moments are counted in milliseconds and are an argument of the operations. A step gives the buffer
afterwards together with the batches that it delivered.
-/

set_option autoImplicit false

namespace CampusBoard

/-- When a batch is full and how long a vote may wait. -/
structure VoteRules where
  /-- The number of votes of a full batch. -/
  limit : Nat
  /-- The milliseconds that a vote may wait. -/
  delay : Nat
  deriving DecidableEq, Repr

/-- The rules of given settings; a batch has at least one vote. -/
def VoteRules.ofSettings (r : ReviewSettings) : VoteRules :=
  ⟨max 1 r.maxThumbs.toNat, r.thumbsFlushMs.toNat⟩

/-- What a vote did to the one that waited. -/
inductive VoteOutcome
  /-- None waited. -/
  | recorded
  /-- It was the same, and was withdrawn. -/
  | cancelled
  /-- It was the opposite, and was replaced. -/
  | replaced
  deriving DecidableEq, Repr

/-- The votes that wait. -/
structure VoteBuffer where
  /-- The votes. -/
  pending : VoteBatch
  /-- The moment from which they are to be delivered. -/
  deadline : Option Nat
  deriving DecidableEq, Repr

/-- What an operation on the buffer did. -/
structure VoteStep (α : Type) where
  /-- The buffer afterwards. -/
  buffer : VoteBuffer
  /-- The batches that were delivered. -/
  delivered : List VoteBatch
  /-- The answer of the operation. -/
  result : α

namespace VoteBuffer

/-- A buffer in which no vote waits. -/
def empty : VoteBuffer :=
  ⟨.empty, none⟩

/-- The vote on a review that waits. -/
def pendingVote (b : VoteBuffer) (review : ReviewId) : Option Vote :=
  b.pending.get? review

/-- What a vote does to the one that waits. -/
def outcomeOf (vote : Vote) : Option Vote → VoteOutcome
  | none => .recorded
  | some waiting => if waiting = vote then .cancelled else .replaced

/-- The votes that wait after a vote. -/
def pendingAfter (review : ReviewId) (vote : Vote) (pending : VoteBatch) : VoteBatch :=
  match outcomeOf vote (pending.get? review) with
  | .cancelled => pending.erase review
  | .recorded | .replaced => pending.insert review vote

/-- The deadline after a vote at `now`: none while nothing waits, else the one that was set
before, or one that lies the allowed delay ahead. -/
def deadlineAfter (rules : VoteRules) (now : Nat) (deadline : Option Nat) (pending : VoteBatch) :
    Option Nat :=
  if pending.isEmpty then none else some (deadline.getD (now + rules.delay))

/-- Delivers the votes that wait, if there are any. -/
def flush (b : VoteBuffer) : VoteStep Unit :=
  ⟨empty, if b.pending.isEmpty then [] else [b.pending], ()⟩

/-- Takes a vote, and delivers the batch if that makes it full. -/
def record (rules : VoteRules) (now : Nat) (review : ReviewId) (vote : Vote) (b : VoteBuffer) :
    VoteStep VoteOutcome :=
  let outcome := outcomeOf vote (b.pendingVote review)
  let pending := pendingAfter review vote b.pending
  let next : VoteBuffer := ⟨pending, deadlineAfter rules now b.deadline pending⟩
  if rules.limit ≤ pending.size then
    let flushed := next.flush
    ⟨flushed.buffer, flushed.delivered, outcome⟩
  else ⟨next, [], outcome⟩

/-- Whether the votes that wait are to be delivered at `now`. -/
def isDue (now : Nat) (b : VoteBuffer) : Bool :=
  match b.deadline with
  | some moment => decide (moment ≤ now) && !b.pending.isEmpty
  | none => false

/-- Delivers the votes that wait if they are due, and tells whether it did. -/
def poll (now : Nat) (b : VoteBuffer) : VoteStep Bool :=
  if b.isDue now then
    let flushed := b.flush
    ⟨flushed.buffer, flushed.delivered, true⟩
  else ⟨b, [], false⟩

/-- Forgets the votes that wait. -/
def reset (_ : VoteBuffer) : VoteStep Unit :=
  ⟨empty, [], ()⟩

/-- Gives up the buffer, which delivers the votes that wait. -/
def drop (b : VoteBuffer) : List VoteBatch :=
  b.flush.delivered

end VoteBuffer

/-! ## Operations -/

/-- An operation on the buffer. -/
inductive VoteOperation
  /-- Takes a vote. -/
  | record (review : ReviewId) (vote : Vote)
  /-- Delivers the votes that wait. -/
  | flush
  /-- Delivers the votes that wait if they are due. -/
  | poll
  /-- Forgets the votes that wait. -/
  | reset
  deriving DecidableEq, Repr

/-- What an operation answers. -/
inductive VoteAnswer
  /-- What a vote did. -/
  | outcome (outcome : VoteOutcome)
  /-- Whether votes were due. -/
  | polled (delivered : Bool)
  /-- Nothing. -/
  | done
  deriving DecidableEq, Repr

/-- The same step with another answer. -/
def VoteStep.map {α β : Type} (f : α → β) (s : VoteStep α) : VoteStep β :=
  ⟨s.buffer, s.delivered, f s.result⟩

/-- What an operation does at `now`. -/
def VoteOperation.run (rules : VoteRules) (now : Nat) (b : VoteBuffer) :
    VoteOperation → VoteStep VoteAnswer
  | .record review vote => (b.record rules now review vote).map .outcome
  | .flush => b.flush.map fun _ => .done
  | .poll => (b.poll now).map .polled
  | .reset => b.reset.map fun _ => .done

end CampusBoard
