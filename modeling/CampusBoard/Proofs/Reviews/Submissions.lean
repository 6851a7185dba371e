import CampusBoard.Proofs.Account.Gates
import CampusBoard.Proofs.Decode.Written
import CampusBoard.Reviews.Desk

/-!
# Every submission ends at exactly one gate

A draft that is submitted can be held back by the cool-down of the desk, be refused for what is
missing of it, or be posted. It always ends at exactly one of these gates, and each gate says all of
what the desk answers, what it sends and what becomes of it.

## Design

`ReviewDraft.checks` lists what a draft has to fulfil, in the order of the form and apart from the
function that completes a draft. The gates are stated over this list, and over what it means that a
payload carries the choices of a draft: each under its own name, so that none can stand in for
another.

## Main definitions

* `CampusBoard.ReviewDraft.checks`: what a draft has to fulfil, in the order of the form.
* `CampusBoard.ReviewDraft.IsComplete`: the drafts that can be posted.
* `CampusBoard.ReviewDraft.CarriedBy`: a payload has just what was chosen in a draft.
* `CampusBoard.DeskGate`, `CampusBoard.DeskGate.Reached`, `CampusBoard.DeskGate.Leaves`: where a
  submission ends, when it ends there, and what it leaves.

## Main results

* `CampusBoard.ReviewDraft.complete_eq_ok_iff`, `CampusBoard.ReviewDraft.complete_eq_error_iff`:
  when completing a draft gives a payload, and when it gives a reason.
* `CampusBoard.DeskGate.reached_iff`: a submission reaches the gate that it comes to.
* `CampusBoard.Desk.submission_ends_at_one_gate`: it does what that gate says.
-/

set_option autoImplicit false

namespace CampusBoard

/-! ## Ratings that are chosen -/

namespace Ratings

variable {α : Type}

/-- Complete ratings have in each category the value that was chosen there. -/
lemma get_of_complete {r : Ratings (Option α)} {full : Ratings α} (h : r.complete = some full)
    (category : RatingCategory) : r.get category = some (full.get category) := by
  simp only [complete, Option.bind_eq_bind, Option.bind_eq_some_iff] at h
  obtain ⟨_, hliving, _, hlocation, _, hamenities, _, hvalue, _, hcommunity, hfull⟩ := h
  obtain rfl := Option.some.inj hfull
  cases category <;> assumption

/-- Ratings are complete as soon as there is a value in every category. -/
lemma isSome_complete (r : Ratings (Option α)) :
    r.complete.isSome = r.entries.all fun entry => entry.2.isSome := by
  obtain ⟨livingConditions, location, amenities, value, community⟩ := r
  cases livingConditions <;> cases location <;> cases amenities <;> cases value <;>
    cases community <;> rfl

/-- Ratings with the same values are the same. -/
lemma ext_get {r r' : Ratings α} (h : ∀ category, r.get category = r'.get category) : r = r' := by
  obtain ⟨livingConditions, location, amenities, value, community⟩ := r
  obtain rfl : livingConditions = r'.livingConditions := h .livingConditions
  obtain rfl : location = r'.location := h .location
  obtain rfl : amenities = r'.amenities := h .amenities
  obtain rfl : value = r'.value := h .value
  obtain rfl : community = r'.community := h .community
  rfl

end Ratings

/-! ## What a draft has to fulfil -/

namespace ReviewDraft

/-- What a draft has to fulfil, in the order of the form. -/
def checks (reviews : ReviewSettings) (d : ReviewDraft) : List Forms.Check :=
  [Forms.accept d.housing.isSome .invalidHousing,
    Forms.accept d.overallRating.isSome .invalidOverallRating,
    Forms.accept (d.ratings.entries.all fun entry => entry.2.isSome) .invalidSubRating,
    Forms.accept
      (decide (reviews.minChars.toNat ≤ d.description.length ∧
        d.description.length ≤ reviews.maxChars.toNat))
      (.invalidDescription reviews.minChars.toNat reviews.maxChars.toNat)]

/-- A draft that can be posted: everything is chosen and its text has an allowed length. -/
structure IsComplete (reviews : ReviewSettings) (d : ReviewDraft) : Prop where
  /-- The residence is chosen. -/
  housing : d.housing ≠ none
  /-- The rating of the whole is chosen. -/
  overallRating : d.overallRating ≠ none
  /-- The rating in each category is chosen. -/
  ratings : ∀ category, d.ratings.get category ≠ none
  /-- The text is not too short. -/
  minChars_le : reviews.minChars.toNat ≤ d.description.length
  /-- The text is not too long. -/
  le_maxChars : d.description.length ≤ reviews.maxChars.toNat

/-- A payload has just what was chosen in a draft. -/
structure CarriedBy (d : ReviewDraft) (p : ReviewPayload) : Prop where
  /-- The residence is the one that was chosen. -/
  housing : d.housing = some p.housing
  /-- The rating of the whole is the one that was chosen. -/
  overallRating : d.overallRating = some p.overallRating
  /-- The rating in each category is the one that was chosen there. -/
  ratings : ∀ category, d.ratings.get category = some (p.ratings.get category)
  /-- The text is that of the draft. -/
  description : p.description = d.description

variable {reviews : ReviewSettings} {d : ReviewDraft} {p p' : ReviewPayload}

/-- No two payloads have just what was chosen in a draft. -/
lemma CarriedBy.unique (h : d.CarriedBy p) (h' : d.CarriedBy p') : p = p' := by
  obtain ⟨housing, overallRating, ratings, description⟩ := p
  obtain rfl : housing = p'.housing := Option.some.inj (h.housing.symm.trans h'.housing)
  obtain rfl : overallRating = p'.overallRating :=
    Option.some.inj (h.overallRating.symm.trans h'.overallRating)
  obtain rfl : ratings = p'.ratings := Ratings.ext_get fun category =>
    Option.some.inj ((h.ratings category).symm.trans (h'.ratings category))
  obtain rfl : description = p'.description := h.description.trans h'.description.symm
  rfl

/-- A draft passes its checks exactly if it can be posted. -/
lemma checks_iff :
    (∀ check ∈ d.checks reviews, check = .ok ()) ↔ d.IsComplete reviews := by
  have hcategories : (d.ratings.entries.all fun entry => entry.2.isSome) = true ↔
      ∀ category, d.ratings.get category ≠ none := by
    simp [Ratings.entries, Option.isSome_iff_ne_none, Labelled.mem_all]
  simp only [checks, List.forall_mem_cons, Forms.accept_eq_ok_iff, hcategories, decide_eq_true_eq,
    Option.isSome_iff_ne_none]
  constructor
  · rintro ⟨hhousing, hoverall, hratings, ⟨hmin, hmax⟩, -⟩
    exact ⟨hhousing, hoverall, hratings, hmin, hmax⟩
  · rintro ⟨hhousing, hoverall, hratings, hmin, hmax⟩
    exact ⟨hhousing, hoverall, hratings, ⟨hmin, hmax⟩, by simp⟩

/-- Completing a draft comes to the same outcome as its checks in order. -/
lemma map_complete (reviews : ReviewSettings) (d : ReviewDraft) :
    (d.complete reviews).map (fun _ => ()) = Forms.inOrder (d.checks reviews) := by
  obtain ⟨housing, overallRating, ratings, text⟩ := d
  have htext : Forms.accept
      (decide (reviews.minChars.toNat ≤ text.length ∧ text.length ≤ reviews.maxChars.toNat))
      (.invalidDescription reviews.minChars.toNat reviews.maxChars.toNat) =
        Forms.description reviews text := by
    rw [Forms.description, Bool.decide_and]
  simp only [complete, checks, ← Ratings.isSome_complete, htext]
  cases housing with
  | none => rfl
  | some housing =>
    cases overallRating with
    | none => rfl
    | some overallRating =>
      cases ratings.complete with
      | none => rfl
      | some full => cases Forms.description reviews text <;> rfl

/-- What was chosen is what there was to choose from. -/
lemma eq_some_of_chosen {α : Type} {value : Option α} {otherwise : ValidationError} {a : α}
    (h : chosen value otherwise = .ok a) : value = some a := by
  cases value with
  | none => cases h
  | some other => rw [Except.ok.inj h]

/-- The payload of a draft has just what was chosen in it. -/
lemma carriedBy_of_complete (h : d.complete reviews = .ok p) : d.CarriedBy p := by
  obtain ⟨housing, hhousing, h⟩ := Decode.exists_of_bind_eq_ok h
  obtain ⟨overallRating, hoverall, h⟩ := Decode.exists_of_bind_eq_ok h
  obtain ⟨ratings, hratings, h⟩ := Decode.exists_of_bind_eq_ok h
  obtain ⟨_, _, h⟩ := Decode.exists_of_bind_eq_ok h
  obtain rfl := Except.ok.inj h
  exact ⟨eq_some_of_chosen hhousing, eq_some_of_chosen hoverall,
    Ratings.get_of_complete (eq_some_of_chosen hratings), rfl⟩

/-- **A draft is refused for the first check that it fails.** -/
theorem complete_eq_error_iff {reason : ValidationError} :
    d.complete reviews = .error reason ↔ Forms.FirstFailure (d.checks reviews) reason := by
  rw [← Forms.inOrder_eq_error_iff, ← map_complete]
  cases d.complete reviews <;> simp [Except.map]

/-- A draft has a payload exactly if it can be posted. -/
lemma exists_complete_iff :
    (∃ payload, d.complete reviews = .ok payload) ↔ d.IsComplete reviews := by
  rw [← checks_iff, ← Forms.inOrder_eq_ok_iff, ← map_complete]
  cases d.complete reviews <;> simp [Except.map]

/-- **A draft that can be posted has the payload that carries what was chosen in it**, and no other
draft has one. -/
theorem complete_eq_ok_iff :
    d.complete reviews = .ok p ↔ d.IsComplete reviews ∧ d.CarriedBy p := by
  constructor
  · intro h
    exact ⟨exists_complete_iff.mp ⟨p, h⟩, carriedBy_of_complete h⟩
  · rintro ⟨hcomplete, hcarried⟩
    obtain ⟨payload, hpayload⟩ := exists_complete_iff.mpr hcomplete
    rw [hpayload, (carriedBy_of_complete hpayload).unique hcarried]

end ReviewDraft

/-! ## The gates -/

/-- Where a submission ends. -/
inductive DeskGate
  /-- At the cool-down. -/
  | cooldown
  /-- At the draft, for a reason. -/
  | form (reason : ValidationError)
  /-- At the call that posts a payload. -/
  | call (payload : ReviewPayload)

/-- A submission comes too soon: the cool-down lifts later. -/
def Desk.HeldBack (now : Nat) (d : Desk) : Prop :=
  ∃ moment, d.cooldown.lifts = some moment ∧ now < moment

namespace DeskGate

/-- When a submission gets as far as a gate and no further. -/
def Reached (rules : DeskRules) (now : Nat) (draft : ReviewDraft) (d : Desk) : DeskGate → Prop
  | .cooldown => d.HeldBack now
  | .form reason => ¬d.HeldBack now ∧ Forms.FirstFailure (draft.checks rules.reviews) reason
  | .call payload =>
    ¬d.HeldBack now ∧ draft.IsComplete rules.reviews ∧ draft.CarriedBy payload

/-- The gate that a submission comes to. -/
def comesTo (rules : DeskRules) (now : Nat) (draft : ReviewDraft) (d : Desk) : DeskGate :=
  if d.cooldown.isActive now then .cooldown
  else
    match draft.complete rules.reviews with
    | .error reason => .form reason
    | .ok payload => .call payload

/-- What a submission that made its call leaves once the reply is there. -/
def Settled (rules : DeskRules) (payload : ReviewPayload) (submission : Submission) :
    Except TransportError Unit → Prop
  | .ok _ => submission.result = .ok payload ∧ submission.desk.postError = ""
  | .error e =>
    submission.result = .error (.transport e) ∧
      submission.desk.postError = e.userMessage rules.errorMaxChars

/-- What a submission that ends at a gate answers, sends and leaves of the desk. -/
def Leaves (rules : DeskRules) (service : Service) (now : Nat) (d : Desk)
    (submission : Submission) : DeskGate → Prop
  | .cooldown =>
    submission.result = .error .limited ∧ submission.sent = [] ∧ submission.desk = d
  | .form reason =>
    submission.result = .error (.validation reason) ∧ submission.sent = [] ∧
      submission.desk = { d with postError := reason.message }
  | .call payload =>
    let call : Call := ⟨.post, "/review", some payload.toJson⟩
    submission.sent = [call] ∧
      submission.desk.cooldown.lifts = some (now + rules.cooldown) ∧
      submission.desk.housing = d.housing ∧ Settled rules payload submission (service call)

section Submit

variable {rules : DeskRules} {now : Nat} {draft : ReviewDraft} {d : Desk}

/-- A submission does what the gate that it reaches says. -/
lemma leaves_of_reached (service : Service) {gate : DeskGate}
    (hreached : gate.Reached rules now draft d) :
    gate.Leaves rules service now d (d.submit rules service now draft) := by
  cases gate with
  | cooldown =>
    have hheld := (d.cooldown.isActive_eq_true_iff now).mpr hreached
    rw [Desk.submit, if_pos hheld]
    exact ⟨rfl, rfl, rfl⟩
  | form reason =>
    obtain ⟨hheld, hfailure⟩ := hreached
    rw [Desk.HeldBack, ← Cooldown.isActive_eq_true_iff] at hheld
    rw [Desk.submit, if_neg hheld, ReviewDraft.complete_eq_error_iff.mpr hfailure]
    exact ⟨rfl, rfl, rfl⟩
  | call payload =>
    obtain ⟨hheld, hcomplete⟩ := hreached
    rw [Desk.HeldBack, ← Cooldown.isActive_eq_true_iff] at hheld
    rw [Desk.submit, if_neg hheld, ReviewDraft.complete_eq_ok_iff.mpr hcomplete]
    dsimp only [Leaves, Desk.call, Call.postJson]
    cases service ⟨.post, "/review", some payload.toJson⟩ with
    | ok _ => exact ⟨rfl, rfl, rfl, rfl, rfl⟩
    | error e => exact ⟨rfl, rfl, rfl, rfl, rfl⟩

/-- **A submission reaches one gate**, the one that it comes to by the cool-down and the outcome of
completing its draft, and no other. -/
theorem reached_iff {gate : DeskGate} :
    gate.Reached rules now draft d ↔ gate = comesTo rules now draft d := by
  by_cases hheld : d.HeldBack now
  · have hactive := (d.cooldown.isActive_eq_true_iff now).mpr hheld
    rw [comesTo, if_pos hactive]
    cases gate <;> simp [Reached, hheld]
  · have hlifted := hheld
    rw [Desk.HeldBack, ← Cooldown.isActive_eq_true_iff] at hlifted
    rw [comesTo, if_neg hlifted]
    cases gate with
    | cooldown => cases draft.complete rules.reviews <;> simp [Reached, hheld]
    | form reason =>
      rw [Reached, ← ReviewDraft.complete_eq_error_iff]
      cases draft.complete rules.reviews <;> simp [hheld, eq_comm]
    | call payload =>
      rw [Reached, ← ReviewDraft.complete_eq_ok_iff]
      cases draft.complete rules.reviews <;> simp [hheld, eq_comm]

end Submit

end DeskGate

/-- **Every submission ends at exactly one gate, and does what that gate says.** Whatever the desk,
the settings, the draft, the moment and the replies of the service: a submission that comes too soon
changes nothing at all; one whose draft fails a check reports the first that fails and changes the
error only; any other posts the choices of the draft in one call, starts the cool-down, and clears
the error on success and reports the failure otherwise. A draft is accepted exactly if everything is
chosen in it and its text has an allowed length.

**Proof sketch.** The gate that a submission reaches is the one that it comes to
(`CampusBoard.DeskGate.reached_iff`), and it decides the branch of `Desk.submit`. -/
theorem Desk.submission_ends_at_one_gate (rules : DeskRules) (service : Service) (now : Nat)
    (draft : ReviewDraft) (d : Desk) :
    (∃! gate : DeskGate, gate.Reached rules now draft d ∧
      gate.Leaves rules service now d (d.submit rules service now draft)) ∧
    ((∃ payload, draft.complete rules.reviews = .ok payload) ↔
      draft.IsComplete rules.reviews) := by
  have hreached := DeskGate.reached_iff.mpr (rfl : _ = DeskGate.comesTo rules now draft d)
  refine ⟨⟨_, ⟨hreached, DeskGate.leaves_of_reached service hreached⟩, ?_⟩,
    ReviewDraft.exists_complete_iff⟩
  rintro other ⟨hother, -⟩
  exact DeskGate.reached_iff.mp hother

/-- Of a draft in which nothing is chosen the residence is missed first. -/
example :
    (Desk.fresh.submit (.ofSettings {}) (fun _ => .ok ()) 0 (.blank none)).desk =
      { Desk.fresh with postError := "Invalid housing" } := by
  rfl

end CampusBoard
