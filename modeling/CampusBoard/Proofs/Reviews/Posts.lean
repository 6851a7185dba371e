import CampusBoard.Proofs.Decode.RoundTrips
import CampusBoard.Proofs.Reviews.Submissions

/-!
# What is posted can be read

A desk writes the reviews that it posts in a form of its own, and the site reads reviews in the form
in which an index holds them. The first form is a special case of the second.

## Design

What is written for a payload is what would be written for a review that has no identifier, no day
and no votes yet (`CampusBoard.ReviewPayload.toJson_eq`), so that it is read back as any review is.

## Main definitions

* `CampusBoard.ReviewPayload.asReview`: the review that a payload is to be.
* `CampusBoard.Review.Repeats`: a review says what a draft says, and no more.
* `CampusBoard.Json.HasStoredRatings`: the ratings of a body are numbers of stored ratings.

## Main results

* `CampusBoard.Desk.posted_review_is_read`: what a desk posts is read as a review that repeats the
  draft.
-/

set_option autoImplicit false

namespace CampusBoard

/-! ## Payloads as reviews -/

namespace ReviewPayload

/-- The review that a payload is to be, before an index gives it more. -/
def asReview (p : ReviewPayload) : Review where
  id := none
  housingId := p.housing
  overallRating := p.overallRating
  ratings := p.ratings
  date := none
  description := p.description
  thumbsUp := none
  thumbsDown := none

/-- A payload is written as that review is. -/
lemma toJson_eq (p : ReviewPayload) : p.toJson = p.asReview.toJson := rfl

/-- A payload is read back as that review. -/
theorem readsBack (p : ReviewPayload) :
    Decode.ReadsBack Review.read p.toJson p.asReview p.asReview := by
  rw [toJson_eq]
  exact p.asReview.readsBack

end ReviewPayload

/-- A review says what a draft says, and no more. -/
structure Review.Repeats (r : Review) (d : ReviewDraft) : Prop where
  /-- The residence is the one that was chosen. -/
  housing : d.housing = some r.housingId
  /-- The rating of the whole is the one that was chosen. -/
  overallRating : d.overallRating = some r.overallRating
  /-- The rating in each category is the one that was chosen there. -/
  ratings : ∀ category, d.ratings.get category = some (r.ratings.get category)
  /-- The text is that of the draft. -/
  description : r.description = d.description
  /-- There is no identifier. -/
  id : r.id = none
  /-- There is no day. -/
  date : r.date = none
  /-- No reader has found it helpful. -/
  thumbsUp : r.thumbsUp = none
  /-- No reader has found it unhelpful. -/
  thumbsDown : r.thumbsDown = none

/-- What is carried by a payload is repeated by its review. -/
lemma ReviewDraft.CarriedBy.repeats {d : ReviewDraft} {p : ReviewPayload} (h : d.CarriedBy p) :
    p.asReview.Repeats d where
  housing := h.housing
  overallRating := h.overallRating
  ratings := h.ratings
  description := h.description
  id := rfl
  date := rfl
  thumbsUp := rfl
  thumbsDown := rfl

/-! ## Ratings in a body -/

/-- The value is a number under which a rating is stored. -/
def Json.IsStoredRating (v : Json) : Prop :=
  ∃ n ∈ ([100, 200, 300, 400, 500] : List Int), v = .integer n

/-- The rating of the whole and the rating in each category are numbers of stored ratings. -/
structure Json.HasStoredRatings (body : Json) : Prop where
  /-- The rating of the whole is there and is such a number. -/
  overall : ∃ v, body.get? "overall_rating" = some v ∧ v.IsStoredRating
  /-- The rating in each category is there and is such a number. -/
  categories : ∀ category : RatingCategory, ∃ ratings v, body.get? "ratings" = some ratings ∧
    ratings.get? (Labelled.label category) = some v ∧ v.IsStoredRating

/-- A rating is written as a number under which ratings are stored. -/
lemma isStoredRating_ofStarRating (r : StarRating) : (Decode.ofStarRating r).IsStoredRating := by
  cases r with
  | one => exact ⟨100, by simp, rfl⟩
  | two => exact ⟨200, by simp, rfl⟩
  | three => exact ⟨300, by simp, rfl⟩
  | four => exact ⟨400, by simp, rfl⟩
  | five => exact ⟨500, by simp, rfl⟩

/-- The members of written ratings are found under the labels of their categories. -/
lemma Ratings.get?_toJson {α : Type} (r : Ratings α) (write : α → Json)
    (category : RatingCategory) :
    (r.toJson write).get? (Labelled.label category) = some (write (r.get category)) := by
  cases category <;> rfl

/-- The ratings of a written payload are numbers of stored ratings. -/
lemma ReviewPayload.hasStoredRatings (p : ReviewPayload) : p.toJson.HasStoredRatings where
  overall := ⟨_, rfl, isStoredRating_ofStarRating p.overallRating⟩
  categories category :=
    ⟨_, _, rfl, p.ratings.get?_toJson _ category, isStoredRating_ofStarRating _⟩

/-! ## Posts -/

/-- **What is posted can be read.** A desk that is not held back posts each draft that it accepts,
under any settings, in one call, and the body of that call is read as a review, with its members in
any order, that says what the draft says and has neither an identifier nor a day nor votes. All
ratings in the body are numbers under which ratings are stored.

**Proof sketch.** The payload is written as the review `CampusBoard.ReviewPayload.asReview`, which
is read back. -/
theorem Desk.posted_review_is_read {rules : DeskRules} {now : Nat} {draft : ReviewDraft} {d : Desk}
    (service : Service) (hlifted : ¬d.HeldBack now)
    (haccepted : ∃ payload, draft.complete rules.reviews = .ok payload) :
    ∃ body review, (d.submit rules service now draft).sent = [⟨.post, "/review", some body⟩] ∧
      Review.read body = .ok review ∧ Review.read body.normal = .ok review ∧
      review.Repeats draft ∧ body.HasStoredRatings := by
  obtain ⟨payload, hpayload⟩ := haccepted
  have hcomplete := ReviewDraft.complete_eq_ok_iff.mp hpayload
  have hreached : DeskGate.Reached rules now draft d (.call payload) := ⟨hlifted, hcomplete⟩
  obtain ⟨hsent, -⟩ := DeskGate.leaves_of_reached service hreached
  exact ⟨payload.toJson, payload.asReview, hsent, payload.readsBack.plain,
    payload.readsBack.normal, hcomplete.2.repeats, payload.hasStoredRatings⟩

/-- A draft with a text of the least length, which is counted in characters. -/
def calmDraft : ReviewDraft :=
  ⟨some .hawkins, some .four, ⟨some .three, some .five, some .two, some .four, some .one⟩,
    "Très calme"⟩

/-- That draft is posted with the first request of a desk, even if the service cannot be reached,
and what was posted is read. -/
theorem posted_review_is_read_calm :
    ¬Desk.fresh.HeldBack 0 ∧
      (∃ payload, calmDraft.complete (DeskRules.ofSettings {}).reviews = .ok payload) ∧
      ∃ body review,
        (Desk.fresh.submit (.ofSettings {}) (fun _ => .error (.client "no connection")) 0
          calmDraft).sent = [⟨.post, "/review", some body⟩] ∧
        Review.read body = .ok review ∧ Review.read body.normal = .ok review ∧
        review.Repeats calmDraft ∧ body.HasStoredRatings := by
  have hlifted : ¬Desk.fresh.HeldBack 0 := by
    rintro ⟨moment, hlifts, -⟩
    cases hlifts
  have haccepted : ∃ payload, calmDraft.complete (DeskRules.ofSettings {}).reviews = .ok payload :=
    ⟨_, rfl⟩
  exact ⟨hlifted, haccepted, Desk.posted_review_is_read _ hlifted haccepted⟩

end CampusBoard
