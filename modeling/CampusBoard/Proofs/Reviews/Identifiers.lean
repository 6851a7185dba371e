import CampusBoard.Decode.Scalar
import CampusBoard.Proofs.Text.Cores
import CampusBoard.Proofs.Votes.Epochs

/-!
# Which texts stand for the same review

A text stands for the identifier that is left of it once it is trimmed. So texts stand for the same
review if and only if they differ only in the blanks at their ends, and a vote that is cast under
one of them acts on what waits under any other.

## Main definitions

* `CampusBoard.VoteBuffer.recordRaw`: a vote on the review that a text stands for.
* `CampusBoard.VoteBuffer.turn`: what a vote makes of the one that waits.
* `CampusBoard.VoteBuffer.CastUnder`: the texts under which votes were cast.

## Main results

* `CampusBoard.ReviewId.ofText_eq_ok_iff`: the identifier that a text stands for.
* `CampusBoard.VoteBuffer.entry_record`: on which entry a vote acts.
* `CampusBoard.VoteBuffer.votesOn_of_castUnder`: which votes of an epoch are on one review.
* `CampusBoard.ReviewId.identifiers_are_trimmed_texts`: all of this together.
-/

set_option autoImplicit false

namespace CampusBoard

/-! ## Texts and identifiers -/

namespace ReviewId

variable {s t : String} {id a b : ReviewId}

/-- **A text stands for the identifier that is left of it once it is trimmed.** -/
theorem ofText_eq_ok_iff : ofText s = .ok id ↔ id.text = Text.trim s := by
  refine ⟨text_of_ofText, fun h => ?_⟩
  rw [ofText, dif_neg (h ▸ id.text_ne_empty), dif_pos (h ▸ id.length_le)]
  exact congrArg Except.ok (ext_text h.symm)

/-- Why a text stands for no identifier. -/
lemma ofText_eq_error_iff (reason : ReviewIdError) :
    ofText s = .error reason ↔
      reason = .empty ∧ (Text.trim s).length = 0 ∨
        reason = .tooLong ∧ 64 < (Text.trim s).length := by
  unfold ofText
  split
  · rename_i hempty
    simp [hempty, eq_comm]
  · rename_i hsome
    split
    · rename_i hshort
      simp [hsome, hshort]
    · rename_i hlong
      simp [hsome, Nat.lt_of_not_le hlong, eq_comm (a := reason)]

/-- Which texts stand for an identifier. -/
lemma exists_ofText_iff :
    (∃ id, ofText s = .ok id) ↔ 1 ≤ (Text.trim s).length ∧ (Text.trim s).length ≤ 64 := by
  cases h : ofText s with
  | ok id =>
    have hlength := String.length_eq_zero_iff.not.mpr id.text_ne_empty
    rw [← ofText_eq_ok_iff.mp h]
    exact iff_of_true ⟨id, rfl⟩ ⟨Nat.one_le_iff_ne_zero.mpr hlength, id.length_le⟩
  | error reason =>
    have hlength := (ofText_eq_error_iff reason).mp h
    exact iff_of_false (by simp) (by omega)

/-- An identifier begins and ends with a character that is not blank. -/
lemma exists_ends (id : ReviewId) :
    (∃ c, id.text.toList.head? = some c ∧ Text.isBlank c = false) ∧
      ∃ c, id.text.toList.getLast? = some c ∧ Text.isBlank c = false := by
  obtain ⟨-, hhead, hlast⟩ := Text.isWrapped_and_isBare_iff_trim.mpr id.trim_text
  have hne : id.text.toList ≠ [] := by
    simpa using id.text_ne_empty
  exact ⟨⟨_, List.head?_eq_some_head hne, hhead _ (List.head?_eq_some_head hne)⟩,
    ⟨_, List.getLast?_eq_some_getLast hne, hlast _ (List.getLast?_eq_some_getLast hne)⟩⟩

/-- **Two texts stand for the same identifier if trimming makes them equal**, and only then. -/
theorem eq_iff_of_ofText (ha : ofText s = .ok a) (hb : ofText t = .ok b) :
    a = b ↔ Text.trim s = Text.trim t := by
  rw [← ofText_eq_ok_iff.mp ha, ← ofText_eq_ok_iff.mp hb]
  exact ⟨congrArg text, ext_text⟩

/-- Texts that differ only in the blanks at their ends stand for the same, or are refused for the
same reason. -/
lemma ofText_congr (h : Text.EqualInside s.toList t.toList) : ofText s = ofText t := by
  rw [Text.equalInside_iff_trim] at h
  cases hs : ofText s with
  | ok id => exact (ofText_eq_ok_iff.mpr ((ofText_eq_ok_iff.mp hs).trans h)).symm
  | error reason =>
    rw [ofText_eq_error_iff, h, ← ofText_eq_error_iff] at hs
    exact hs.symm

/-- A text is read from JSON as what it stands for. -/
lemma reviewId_text_eq_ok_iff : Decode.reviewId (.text s) = .ok id ↔ ofText s = .ok id := by
  change (ofText s).mapError DecodeError.refusedId = .ok id ↔ _
  cases ofText s <;> simp [Except.mapError]

/-- A text is refused in JSON for the reason for which it stands for nothing. -/
lemma reviewId_text_eq_error_iff {fault : DecodeError} :
    Decode.reviewId (.text s) = .error fault ↔
      ∃ reason, ofText s = .error reason ∧ fault = .refusedId reason := by
  change (ofText s).mapError DecodeError.refusedId = .error fault ↔ _
  cases ofText s <;> simp [Except.mapError, eq_comm]

end ReviewId

/-! ## Votes -/

namespace VoteBuffer

/-- Takes a vote on the review that a text stands for. A text that stands for none is refused. -/
def recordRaw (rules : VoteRules) (now : Nat) (raw : String) (vote : Vote) (b : VoteBuffer) :
    Except ReviewIdError (VoteStep VoteOutcome) :=
  (ReviewId.ofText raw).map fun review => b.record rules now review vote

/-- What a vote makes of the one that waits on its review: it takes back the same vote, and waits
itself otherwise. -/
def turn (vote : Vote) (waiting : Option Vote) : Option Vote :=
  if waiting = some vote then none else some vote

/-- **A vote acts on the entry of its own review and on no other**, whether what waits then goes on
waiting or is delivered. -/
lemma entry_record (rules : VoteRules) (now : Nat) (review other : ReviewId) (vote : Vote)
    (b : VoteBuffer) :
    let step := b.record rules now review vote
    let entry := if review = other then turn vote (b.pendingVote other) else b.pendingVote other
    (step.delivered = [] → step.buffer.pendingVote other = entry) ∧
      ∀ batch ∈ step.delivered, batch.get? other = entry := by
  intro step entry
  have hentry : (pendingAfter review vote b.pending).get? other = entry := by
    rw [get?_pendingAfter]
    by_cases h : review = other
    · rw [if_pos h.symm, h]
      exact (if_pos h).symm
    · rw [if_neg (Ne.symm h)]
      exact (if_neg h).symm
  obtain ⟨-, hdelivered, hpending⟩ | ⟨-, hdelivered, -⟩ | ⟨hreset, -⟩ :=
    VoteOperation.run_kinds rules now (.record review vote) b
  · refine ⟨fun _ => ?_, fun batch hbatch => ?_⟩
    · rw [← hentry, pendingVote]
      exact congrArg (VoteBatch.get? · other) hpending
    · rw [show step.delivered = [] from hdelivered] at hbatch
      cases hbatch
  · rw [show step.delivered = [pendingAfter review vote b.pending] from hdelivered]
    refine ⟨fun hnone => ?_, fun batch hbatch => ?_⟩
    · cases hnone
    · rw [List.mem_singleton.mp hbatch, hentry]
  · cases hreset

/-- The votes were cast under these texts, one after another. -/
def CastUnder (raws : List (String × Vote)) (votes : List (ReviewId × Vote)) : Prop :=
  List.Forall₂ (fun raw v => ReviewId.ofText raw.1 = .ok v.1 ∧ raw.2 = v.2) raws votes

/-- **The votes on a review are those that were cast under one of its texts.** -/
lemma votesOn_of_castUnder {raws : List (String × Vote)} {votes : List (ReviewId × Vote)}
    {s : String} {id : ReviewId} (hcast : CastUnder raws votes) (hid : ReviewId.ofText s = .ok id) :
    votesOn id votes = (raws.filter fun raw => Text.trim raw.1 = Text.trim s).map Prod.snd := by
  induction hcast with
  | nil => rfl
  | @cons raw v raws votes hraw _ ih =>
    obtain ⟨hreview, hvote⟩ := hraw
    have hsame := ReviewId.eq_iff_of_ofText hreview hid
    unfold votesOn at ih ⊢
    by_cases h : v.1 = id
    · simp [h, hsame.mp h, ih, hvote]
    · simp [h, mt hsame.mpr h, ih]

end VoteBuffer

/-! ## All of this together -/

namespace ReviewId

open VoteBuffer (recordRaw turn CastUnder EndsInOddRun epoch)

/-- **Identifiers are trimmed texts.**

* Trimming leaves of a text the only part that has no blank at its ends and nothing but blanks
  around it. The text stands for an identifier if and only if that part has from one to sixty-four
  characters, and the identifier is just that part: it begins and ends with a character that is not
  blank, and stands for itself. In JSON the same texts are read as the same identifiers, and the
  others are refused for the reasons for which they stand for none.
* Trimming makes two texts equal if and only if they differ only in the blanks at their ends. A vote
  under one of two such texts does, in any buffer and at any moment, what it would do under the
  other. Two texts stand for the same identifier if and only if trimming makes them equal, and just
  then a vote under the one acts on the entry of the other; else it leaves that entry alone.
* So over a whole run, what waits on the review of a text follows from the votes of the epoch that
  were cast under texts which differ from it only in blanks at their ends.

**Proof sketch.** All of it follows from `ofText_eq_ok_iff`, the first part with what trimming
leaves (`Text.isWrapped_and_isBare_iff`), and the last with the tally of the epoch
(`VoteBuffer.isTally_after`). -/
theorem identifiers_are_trimmed_texts :
    (∀ s : String,
      (∀ core : String, Text.IsWrapped core.toList s.toList ∧ Text.IsBare core.toList ↔
        Text.trim s = core) ∧
      ((∃ id, ofText s = .ok id) ↔ 1 ≤ (Text.trim s).length ∧ (Text.trim s).length ≤ 64) ∧
      (∀ id, ofText s = .ok id →
        id.text = Text.trim s ∧
        (∃ c, id.text.toList.head? = some c ∧ Text.isBlank c = false) ∧
        (∃ c, id.text.toList.getLast? = some c ∧ Text.isBlank c = false) ∧
        ofText id.text = .ok id) ∧
      (∀ id, Decode.reviewId (.text s) = .ok id ↔ ofText s = .ok id) ∧
      ∀ fault, Decode.reviewId (.text s) = .error fault ↔
        ∃ reason, ofText s = .error reason ∧ fault = .refusedId reason) ∧
    (∀ s t : String,
      (Text.EqualInside s.toList t.toList ↔ Text.trim s = Text.trim t) ∧
      (Text.EqualInside s.toList t.toList → ∀ rules now vote (b : VoteBuffer),
        b.recordRaw rules now s vote = b.recordRaw rules now t vote) ∧
      ∀ a b, ofText s = .ok a → ofText t = .ok b →
        (a = b ↔ Text.trim s = Text.trim t) ∧
        ∀ rules now vote (buffer : VoteBuffer),
          let step := buffer.record rules now a vote
          let entry := if Text.trim s = Text.trim t then turn vote (buffer.pendingVote b)
            else buffer.pendingVote b
          (step.delivered = [] → step.buffer.pendingVote b = entry) ∧
            ∀ batch ∈ step.delivered, batch.get? b = entry) ∧
    ∀ (rules : VoteRules) (events : List VoteEvent) (raws : List (String × Vote)),
      CastUnder raws (epoch (VoteBuffer.empty.run rules events)) →
      ∀ s id, ofText s = .ok id → ∀ vote,
        (VoteBuffer.empty.after rules events).pendingVote id = some vote ↔
          EndsInOddRun vote
            ((raws.filter fun raw => Text.trim raw.1 = Text.trim s).map Prod.snd) := by
  refine ⟨fun s => ?_, fun s t => ?_, fun rules events raws hcast s id hid vote => ?_⟩
  · refine ⟨fun core => Text.isWrapped_and_isBare_iff_trim, exists_ofText_iff, fun id hid => ?_,
      fun id => reviewId_text_eq_ok_iff, fun fault => reviewId_text_eq_error_iff⟩
    obtain ⟨hhead, hlast⟩ := id.exists_ends
    exact ⟨ofText_eq_ok_iff.mp hid, hhead, hlast, id.ofText_text⟩
  · refine ⟨Text.equalInside_iff_trim, fun hinside rules now vote b => ?_, fun a b ha hb => ?_⟩
    · rw [recordRaw, recordRaw, ofText_congr hinside]
    · have hsame := eq_iff_of_ofText ha hb
      refine ⟨hsame, fun rules now vote buffer => ?_⟩
      simp only [← hsame]
      exact VoteBuffer.entry_record rules now a b vote buffer
  · rw [← VoteBuffer.votesOn_of_castUnder hcast hid]
    exact VoteBuffer.isTally_after rules events id vote

/-- A review that readers name with blanks around it. -/
def paddedReview : ReviewId := ⟨"r1", by decide, by decide, by decide⟩

/-- A reader votes on it twice, and means the same both times. -/
def votedTwice : List VoteEvent :=
  [⟨0, .record paddedReview .up⟩, ⟨5, .record paddedReview .up⟩]

/-- The second text has another kind of blank at its other end, and the vote under it takes back the
first one. -/
theorem identifiers_are_trimmed_texts_votedTwice :
    Text.EqualInside " r1".toList "r1\u3000".toList ∧
      ofText " r1" = .ok paddedReview ∧ ofText "r1\u3000" = .ok paddedReview ∧
      (VoteBuffer.empty.record ⟨2, 100⟩ 0 paddedReview .up).buffer.pendingVote paddedReview =
        some .up ∧
      CastUnder [(" r1", .up), ("r1\u3000", .up)]
        (epoch (VoteBuffer.empty.run ⟨2, 100⟩ votedTwice)) ∧
      (VoteBuffer.empty.after ⟨2, 100⟩ votedTwice).pendingVote paddedReview = none := by
  obtain ⟨-, hpairs, hruns⟩ := identifiers_are_trimmed_texts
  have hfirst : ofText " r1" = .ok paddedReview := by rfl
  have hsecond : ofText "r1\u3000" = .ok paddedReview := by rfl
  obtain ⟨hinside, -, hvotes⟩ := hpairs " r1" "r1\u3000"
  obtain ⟨hsame, hentry⟩ := hvotes paddedReview paddedReview hfirst hsecond
  have htrim := hsame.mp rfl
  obtain ⟨hkept, -⟩ := hentry ⟨2, 100⟩ 0 .up VoteBuffer.empty
  have hcast : CastUnder [(" r1", .up), ("r1\u3000", .up)]
      (epoch (VoteBuffer.empty.run ⟨2, 100⟩ votedTwice)) :=
    .cons ⟨hfirst, rfl⟩ (.cons ⟨hsecond, rfl⟩ .nil)
  refine ⟨hinside.mpr htrim, hfirst, hsecond, ?_, hcast, ?_⟩
  · rw [hkept (by decide), if_pos htrim]
    rfl
  · refine Option.eq_none_iff_forall_ne_some.mpr fun vote hwaits => ?_
    have hodd := (hruns ⟨2, 100⟩ votedTwice _ hcast " r1" paddedReview hfirst vote).mp hwaits
    rw [VoteBuffer.endsInOddRun_iff_odd] at hodd
    cases vote <;> exact absurd hodd (by decide)

end ReviewId

end CampusBoard
