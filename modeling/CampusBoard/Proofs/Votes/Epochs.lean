import CampusBoard.Proofs.Votes.Runs
import Mathlib.Algebra.Ring.Parity
import Mathlib.Data.List.DropRight

/-!
# What waits in the buffer follows from the votes of an epoch

An epoch is the time since votes were last delivered or forgotten. The vote on a review that waits
is the last one of the epoch if the epoch's votes on that review end in an odd number of votes
alike, and no vote waits otherwise. Every batch that is delivered is just what waits at that moment.

## Design

A vote takes back the same vote that waits and replaces the other one, so among votes alike only
whether their number is odd matters. The run of votes alike at the end of a list grows by one with
the same vote and starts anew with the other one, which is how the vote that waits changes. Epochs
are cut out of a run by what the run itself has delivered.

## Main definitions

* `CampusBoard.VoteBuffer.epoch`: the votes since the last delivery or reset.
* `CampusBoard.VoteBuffer.EndsInOddRun`: a list of votes ends in an odd number of votes alike.
* `CampusBoard.VoteBuffer.IsTally`: the votes on each review that a list of votes leaves.

## Main results

* `CampusBoard.VoteBuffer.isTally_after`: what waits is the tally of the epoch.
* `CampusBoard.VoteBuffer.deliveries_are_tallies`: so is every batch that is delivered.
-/

set_option autoImplicit false

namespace CampusBoard

/-! ## Votes alike -/

namespace VoteBuffer

/-- The votes end in an odd number of votes `vote`, before which comes no such vote. -/
def EndsInOddRun (vote : Vote) (votes : List Vote) : Prop :=
  ∃ before n, votes = before ++ List.replicate n vote ∧ before.getLast? ≠ some vote ∧ Odd n

/-- The number of votes `vote` at the end. -/
def tailRun (vote : Vote) (votes : List Vote) : Nat :=
  (votes.rtakeWhile (· = vote)).length

/-- The run at the end grows with the same vote, and the other one ends it. -/
lemma tailRun_concat (vote last : Vote) (votes : List Vote) :
    tailRun vote (votes ++ [last]) = if last = vote then tailRun vote votes + 1 else 0 := by
  unfold tailRun
  rw [List.rtakeWhile_concat]
  by_cases h : last = vote <;> simp [h]

/-- What comes before the run at the end does not belong to it. -/
lemma tailRun_append_replicate {vote : Vote} {before : List Vote}
    (hbefore : before.getLast? ≠ some vote) (n : Nat) :
    tailRun vote (before ++ List.replicate n vote) = n := by
  induction n with
  | zero =>
    have hnil : before.rtakeWhile (· = vote) = [] := by
      rw [List.rtakeWhile_eq_nil_iff]
      intro hne hlast
      exact hbefore (by simpa [List.getLast?_eq_some_getLast hne] using hlast)
    simp [tailRun, hnil]
  | succ n ih =>
    rw [List.replicate_succ', ← List.append_assoc, tailRun_concat, if_pos rfl, ih]

/-- Votes end in an odd run just when the run at their end has an odd length. -/
lemma endsInOddRun_iff_odd (vote : Vote) (votes : List Vote) :
    EndsInOddRun vote votes ↔ Odd (tailRun vote votes) := by
  constructor
  · rintro ⟨before, n, rfl, hbefore, hn⟩
    rwa [tailRun_append_replicate hbefore]
  · intro hodd
    refine ⟨votes.rdropWhile (· = vote), tailRun vote votes, ?_, ?_, hodd⟩
    · have hrun : votes.rtakeWhile (· = vote) = List.replicate (tailRun vote votes) vote :=
        List.eq_replicate_of_mem fun v hv => by simpa using List.mem_rtakeWhile_imp hv
      rw [← hrun, List.rdropWhile_append_rtakeWhile]
    · intro hlast
      have hne : votes.rdropWhile (· = vote) ≠ [] := by
        intro hnil
        simp [hnil] at hlast
      have hnot := List.rdropWhile_last_not (· = vote) votes hne
      rw [List.getLast?_eq_some_getLast hne] at hlast
      exact hnot (by simpa using hlast)

/-- **One more vote** ends an odd run just when there was no odd run of the same vote before. -/
lemma endsInOddRun_concat (vote last : Vote) (votes : List Vote) :
    EndsInOddRun vote (votes ++ [last]) ↔ last = vote ∧ ¬EndsInOddRun vote votes := by
  rw [endsInOddRun_iff_odd, endsInOddRun_iff_odd, tailRun_concat]
  by_cases h : last = vote
  · rw [if_pos h, Nat.odd_add_one]
    exact (and_iff_right h).symm
  · rw [if_neg h]
    simp [h]

/-- No votes end in no run. -/
lemma not_endsInOddRun_nil (vote : Vote) : ¬EndsInOddRun vote [] := by
  simp [endsInOddRun_iff_odd, tailRun]

/-! ## Tallies -/

/-- The votes on one review, in their order. -/
def votesOn (review : ReviewId) (votes : List (ReviewId × Vote)) : List Vote :=
  (votes.filter fun v => v.1 = review).map Prod.snd

/-- `lookup` gives for each review the vote that an odd run of votes on that review ends in, and
nothing where there is no such run. -/
def IsTally (lookup : ReviewId → Option Vote) (votes : List (ReviewId × Vote)) : Prop :=
  ∀ review vote, lookup review = some vote ↔ EndsInOddRun vote (votesOn review votes)

/-- Nothing is the tally of no votes. -/
lemma isTally_nil {lookup : ReviewId → Option Vote} (h : ∀ review, lookup review = none) :
    IsTally lookup [] := by
  intro review vote
  simp [h review, votesOn, not_endsInOddRun_nil]

/-- **A vote changes what waits as it changes the tally**: it takes back the same vote, replaces the
other one, and leaves the votes on other reviews alone. -/
lemma IsTally.pendingAfter {pending : VoteBatch} {votes : List (ReviewId × Vote)}
    (h : IsTally pending.get? votes) (review : ReviewId) (vote : Vote) :
    IsTally (VoteBuffer.pendingAfter review vote pending).get? (votes ++ [(review, vote)]) := by
  intro other vote'
  rw [get?_pendingAfter]
  by_cases hother : other = review
  · subst hother
    have hvotes : votesOn other (votes ++ [(other, vote)]) = votesOn other votes ++ [vote] := by
      simp [votesOn]
    rw [hvotes, endsInOddRun_concat, ← h other vote', if_pos rfl]
    by_cases hvote : vote = vote'
    · subst hvote
      by_cases hwaits : pending.get? other = some vote <;> simp [hwaits]
    · split <;> simp [hvote]
  · have hvotes : votesOn other (votes ++ [(review, vote)]) = votesOn other votes := by
      simp [votesOn, Ne.symm hother]
    rw [hvotes, ← h other vote', if_neg hother]

end VoteBuffer

/-! ## Epochs -/

/-- The votes that an operation takes. -/
def VoteOperation.votes : VoteOperation → List (ReviewId × Vote)
  | .record review vote => [(review, vote)]
  | .flush => []
  | .poll => []
  | .reset => []

/-- An epoch ends when votes are delivered or forgotten. -/
def VoteMoment.endsEpoch (m : VoteMoment) : Bool :=
  decide (m.event.operation = .reset) || !m.step.delivered.isEmpty

namespace VoteBuffer

/-- The votes since the last delivery or reset. -/
def epoch (moments : List VoteMoment) : List (ReviewId × Vote) :=
  (moments.rtakeWhile fun m => !m.endsEpoch).flatMap fun m => m.event.operation.votes

/-- An epoch goes on with the votes of the next moment, unless it ends there. -/
lemma epoch_concat (moments : List VoteMoment) (m : VoteMoment) :
    epoch (moments ++ [m]) =
      if m.endsEpoch then [] else epoch moments ++ m.event.operation.votes := by
  unfold epoch
  rw [List.rtakeWhile_concat]
  cases m.endsEpoch <;> simp

/-- The votes that wait once an operation has taken its own are the tally with its own. -/
lemma IsTally.gather {b : VoteBuffer} {votes : List (ReviewId × Vote)}
    (h : IsTally b.pendingVote votes) (op : VoteOperation) :
    IsTally (op.gather b.pending).get? (votes ++ op.votes) := by
  cases op with
  | record review vote => exact IsTally.pendingAfter h review vote
  | _ =>
    rw [VoteOperation.votes, List.append_nil]
    exact h

/-- **One moment keeps the tally.** What waits afterwards is the tally of the epoch with the moment,
and what is delivered is at most one batch, the tally of the epoch with the votes of the moment. -/
theorem IsTally.moment {rules : VoteRules} {b : VoteBuffer} {past : List VoteMoment}
    {m : VoteMoment} (h : IsTally b.pendingVote (epoch past))
    (hm : m.step = m.event.operation.run rules m.event.now b) :
    IsTally m.step.buffer.pendingVote (epoch (past ++ [m])) ∧
      m.step.delivered.length ≤ 1 ∧
      ∀ batch ∈ m.step.delivered,
        IsTally batch.get? (epoch past ++ m.event.operation.votes) := by
  have hgather := h.gather m.event.operation
  rw [epoch_concat]
  obtain ⟨hop, hdelivered, hpending⟩ | ⟨hop, hdelivered, hfull, hpending⟩ |
      ⟨hop, hdelivered, hpending⟩ := m.event.operation.run_kinds rules m.event.now b
  · -- kept: the epoch goes on
    have hends : m.endsEpoch = false := by simp [VoteMoment.endsEpoch, hop, hm, hdelivered]
    rw [hm, hends, hdelivered]
    refine ⟨?_, by simp, by simp⟩
    change IsTally (VoteBatch.get? _) _
    rw [hpending]
    exact hgather
  · -- delivered: a new epoch, in which nothing waits yet
    have hends : m.endsEpoch = true := by simp [VoteMoment.endsEpoch, hm, hdelivered]
    rw [hm, hends, hdelivered]
    refine ⟨?_, by simp, by simpa using hgather⟩
    change IsTally (VoteBatch.get? _) _
    rw [hpending]
    exact isTally_nil VoteBatch.get?_empty
  · -- forgotten: a new epoch as well
    have hends : m.endsEpoch = true := by simp [VoteMoment.endsEpoch, hop]
    rw [hm, hends, hdelivered]
    refine ⟨?_, by simp, by simp⟩
    change IsTally (VoteBatch.get? _) _
    rw [hpending]
    exact isTally_nil VoteBatch.get?_empty

variable (rules : VoteRules)

/-- **What waits is the tally of the epoch**, after any run.

**Proof sketch.** Induction on the run from its end; one more moment keeps the tally. -/
theorem isTally_after (events : List VoteEvent) :
    IsTally (empty.after rules events).pendingVote (epoch (empty.run rules events)) := by
  induction events using List.reverseRecOn with
  | nil => exact isTally_nil VoteBatch.get?_empty
  | append_singleton events e ih =>
    rw [after_concat, run_concat]
    exact (IsTally.moment (m := ⟨e, _⟩) ih rfl).1

/-- **Every delivered batch is what waits, and what waits follows from the epoch.** At each moment
of a run, whether or not time moves forward, the vote on a review that waits is the one that an odd
maximal run of votes on that review ends the epoch with, and no vote waits where there is no such
run. At most one batch is delivered, and it is just that tally, the votes of the moment included.
A flush leaves nothing behind. Giving up the buffer delivers the tally of the last epoch, if
anything waits.

**Proof sketch.** Each moment starts from the buffer of those before (`run_split`), whose tally is
known (`isTally_after`), and keeps the tally (`IsTally.moment`). -/
theorem deliveries_are_tallies (events : List VoteEvent) :
    (∀ past m future, empty.run rules events = past ++ m :: future →
      IsTally m.step.buffer.pendingVote (epoch (past ++ [m])) ∧
        m.step.delivered.length ≤ 1 ∧
        (∀ batch ∈ m.step.delivered,
          IsTally batch.get? (epoch past ++ m.event.operation.votes)) ∧
        (m.event.operation = .flush → ∀ review, m.step.buffer.pendingVote review = none)) ∧
      IsTally (empty.after rules events).pendingVote (epoch (empty.run rules events)) ∧
      (empty.after rules events).drop.length ≤ 1 ∧
      (∀ batch ∈ (empty.after rules events).drop,
        IsTally batch.get? (epoch (empty.run rules events))) ∧
      ((empty.after rules events).drop = [] ↔
        ∀ review, (empty.after rules events).pendingVote review = none) := by
  have hafter := isTally_after rules events
  refine ⟨fun past m future hsplit => ?_, hafter, ?_⟩
  · obtain ⟨earlier, later, -, rfl, hm⟩ := run_split rules hsplit
    obtain ⟨hwaits, hone, hbatch⟩ := (isTally_after rules earlier).moment hm
    refine ⟨hwaits, hone, hbatch, fun hflush review => ?_⟩
    rw [hm, hflush]
    rfl
  · obtain ⟨-, ⟨hdelivered, hempty⟩ | ⟨hdelivered, hfull⟩⟩ :=
      flush_kinds (empty.after rules events)
    · rw [drop, hdelivered]
      refine ⟨by simp, by simp, fun _ review => ?_, fun _ => rfl⟩
      rw [pendingVote, hempty, VoteBatch.get?_empty]
    · rw [drop, hdelivered]
      refine ⟨by simp, fun batch hbatch => ?_, by simp, fun hnone => ?_⟩
      · rw [List.mem_singleton.1 hbatch]
        exact hafter
      · rw [(VoteBatch.isEmpty_iff_get? _).2 hnone] at hfull
        cases hfull

end VoteBuffer

end CampusBoard
