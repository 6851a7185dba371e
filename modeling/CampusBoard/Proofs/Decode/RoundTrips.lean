import CampusBoard.Housing.Listing
import CampusBoard.Market.Item
import CampusBoard.Proofs.Decode.Written
import CampusBoard.Proofs.Settings.Sections
import CampusBoard.Reviews.Review
import CampusBoard.Traffic.Bar

/-!
# Round trips of records

Every record is read back from what is written for it.

## Design

For each record there is one chain of steps, one per field and in the order of its shape, so a field
that is added to a record adds a line here. What all records have in common is said once of
`CampusBoard.RecordFormat`. Written objects are read both as they are and in normal form, since a
value that has gone through a table of members has them sorted; the two readings differ in the
marked copies of an item alone, whose members are arbitrary.

## Main definitions

* `CampusBoard.Item.normal`: an item with its marked copies in normal form.
* `CampusBoard.RecordFormat`: the records that are read and written.
* `CampusBoard.RecordFormat.rewrite`: reading a record and writing it again.

## Main results

* `CampusBoard.RecordFormat.readsBack`: what is written for a record is read as that record, and in
  normal form as the record in normal form.
* `CampusBoard.RecordFormat.normal_of_read`: a record that is read from a value in normal form is in
  normal form.
* `CampusBoard.RecordFormat.reading_undoes_writing`: reading undoes writing, and rewriting twice is
  rewriting once.
-/

set_option autoImplicit false

namespace CampusBoard

/-! ## Single values -/

namespace Decode

/-- A text is read back. -/
lemma readsBack_text (s : String) : ReadsBack text (.text s) s s :=
  .of_isNormal rfl (text_text s)

/-- A member of a vocabulary is read back from its label. -/
lemma readsBack_label {α : Type} [Labelled α] (a : α) : ReadsBack label (ofLabel a) a a :=
  .of_isNormal rfl (label_ofLabel a)

/-- A number within its width is read back as what is made of it. -/
lemma readsBack_unsigned {α : Type} {width : Width} {n : Nat} {make : Nat → α} {a : α}
    (hbound : n < width.bound) (hmake : make n = a) :
    ReadsBack (fun found => (unsigned width found).map make) (ofNat n) a a := by
  refine .of_isNormal rfl ?_
  rw [unsigned_ofNat hbound, Except.map, hmake]

/-- A number of eight bits is read back. -/
lemma readsBack_uint8 (n : UInt8) : ReadsBack uint8 (ofNat n.toNat) n n :=
  readsBack_unsigned n.toNat_lt_size UInt8.ofNat_toNat

/-- A number of sixteen bits is read back. -/
lemma readsBack_uint16 (n : UInt16) : ReadsBack uint16 (ofNat n.toNat) n n :=
  readsBack_unsigned n.toNat_lt_size UInt16.ofNat_toNat

/-- A number of thirty-two bits is read back. -/
lemma readsBack_uint32 (n : UInt32) : ReadsBack uint32 (ofNat n.toNat) n n :=
  readsBack_unsigned n.toNat_lt_size UInt32.ofNat_toNat

/-- A number of sixty-four bits is read back. -/
lemma readsBack_uint64 (n : UInt64) : ReadsBack uint64 (ofNat n.toNat) n n :=
  readsBack_unsigned n.toNat_lt_size UInt64.ofNat_toNat

/-- A star rating is read back from the number under which it is stored. -/
lemma readsBack_starRating (r : StarRating) : ReadsBack starRating (ofStarRating r) r r := by
  have hbound : r.hundreds.toNat < Width.bound .w16 := r.hundreds.toNat_lt_size
  refine .of_isNormal rfl ?_
  change starRating (ofNat r.hundreds.toNat) = .ok r
  rw [starRating, unsigned_ofNat hbound]
  change (StarRating.ofHundreds r.hundreds.toNat).mapError DecodeError.refused = .ok r
  rw [StarRating.ofHundreds_hundreds, Except.mapError]

/-- The identifier of a review is read back: trimming its text leaves it as it is. -/
lemma readsBack_reviewId (id : ReviewId) : ReadsBack reviewId (.text id.text) id id := by
  refine .of_isNormal rfl ?_
  change (ReviewId.ofText id.text).mapError DecodeError.refusedId = .ok id
  rw [ReviewId.ofText_text, Except.mapError]

/-- A number is not null. -/
@[simp]
lemma ofNat_ne_null (n : Nat) : ofNat n ≠ .null := by
  simp [ofNat]

/-- An object with arbitrary members is read back, and its normal form as that. -/
lemma readsBack_anyObject (members : Json.Members) :
    ReadsBack anyObject (.object members) members (Json.normalMembers [] members) :=
  ⟨rfl, rfl⟩

/-- Members that are read from a value in normal form are in normal form. -/
lemma normal_of_optional_anyObject {v : Json} {members? : Option Json.Members} (hv : v.IsNormal)
    (h : optional anyObject v = .ok members?) :
    members?.map (Json.normalMembers []) = members? := by
  cases v with
  | null =>
    cases h
    rfl
  | object members =>
    cases h
    exact congrArg some (Json.object.inj hv)
  | _ => cases h

end Decode

open Decode

/-! ## Ratings, listings, reviews and bars -/

/-- Ratings are read back if their values are. -/
theorem Ratings.readsBack {α : Type} {read : Reader α} {write : α → Json}
    (h : ∀ a, ReadsBack read (write a) a a) (r : Ratings α) :
    ReadsBack (Ratings.readOf read) (r.toJson write) r r :=
  Shape.Writes.readsBack <|
    Shape.writes_ofConstructor "Ratings" Ratings.mk
      |>.present "living_conditions" (by simp) (h r.livingConditions) none
      |>.present "location" (by simp) (h r.location) none
      |>.present "amenities" (by simp) (h r.amenities) none
      |>.present "value" (by simp) (h r.value) none
      |>.present "community" (by simp) (h r.community) none

/-- A listing is read back. -/
theorem Listing.readsBack (l : Listing) : ReadsBack Listing.read l.toJson l l :=
  Shape.Writes.readsBack <|
    Shape.writes_ofConstructor "Housing" Listing.mk
      |>.present "id" (by decide) (readsBack_label l.id) none
      |>.present "overall_rating" (by decide) (readsBack_uint16 l.overallRating) none
      |>.present "ratings" (by decide) (l.ratings.readsBack readsBack_uint16) none
      |>.present "review_count" (by decide) (readsBack_uint32 l.reviewCount) none
      |>.present "housing_type" (by decide) (readsBack_label l.housingType) none
      |>.present "campus_type" (by decide) (readsBack_label l.campusType) none
      |>.present "walk_time_mins" (by decide) (readsBack_uint16 l.walkTimeMins) none
      |>.present "cost_min" (by decide) (readsBack_uint8 l.costMin) none
      |>.present "cost_max" (by decide) (readsBack_uint8 l.costMax) none
      |>.present "cost_symbol" (by decide) (readsBack_label l.costSymbol) none
      |>.present "address" (by decide) (readsBack_text l.address) none

/-- A bar is read back. -/
theorem TrafficBar.readsBack (b : TrafficBar) : ReadsBack TrafficBar.read b.toJson b b :=
  Shape.Writes.readsBack <|
    Shape.writes_ofConstructor "ChartData" TrafficBar.mk
      |>.present "website" (by decide) (readsBack_label b.website) none
      |>.present "visitors" (by decide) (readsBack_uint64 b.visitors) none
      |>.present "color" (by decide) (readsBack_text b.color) none

/-- A review is read back. -/
theorem Review.readsBack (r : Review) : ReadsBack Review.read r.toJson r r := by
  have h : Review.shape.Writes _ r r :=
    Shape.writes_ofConstructor "Review" Review.mk
      |>.member? "id" (by decide) readsBack_reviewId (by simp) r.id
      |>.present "housing_id" (by decide) (readsBack_label r.housingId) none
      |>.present "overall_rating" (by decide) (readsBack_starRating r.overallRating) none
      |>.present "ratings" (by decide) (r.ratings.readsBack readsBack_starRating) none
      |>.member? "date" (by decide) readsBack_text (by simp) r.date
      |>.present "description" (by decide) (readsBack_text r.description) none
      |>.member? "thumbs_up" (by decide) readsBack_uint64 (by simp) r.thumbsUp
      |>.member? "thumbs_down" (by decide) readsBack_uint64 (by simp) r.thumbsDown
  simpa [Review.read, Review.toJson] using h.readsBack

/-! ## Items -/

/-- The item with its marked copies in normal form. -/
def Item.normal (i : Item) : Item :=
  { i with formatted := i.formatted.map (Json.normalMembers []) }

/-- An item is read back, and in normal form with its marked copies in normal form. -/
theorem Item.readsBack (i : Item) : ReadsBack Item.read i.toJson i i.normal := by
  obtain ⟨itemId, itemType, title, condition, location, description, emoji, expirationDate,
    formatted⟩ := i
  have hothers := Shape.writes_ofConstructor "Item" Item.mk
    |>.member? "item_id" (by decide) readsBack_text (by simp) itemId
    |>.present "item_type" (by decide) (readsBack_label itemType) none
    |>.present "title" (by decide) (readsBack_text title) none
    |>.present "condition" (by decide) (readsBack_label condition) none
    |>.present "location" (by decide) (readsBack_label location) none
    |>.present "description" (by decide) (readsBack_text description) none
    |>.present "emoji" (by decide) (readsBack_label emoji) none
    |>.member? "expiration_date" (by decide) readsBack_text (by simp) expirationDate
  cases formatted with
  | none =>
    have h : Item.shape.Writes _ _ _ := hothers.absent Item.formattedKey (by decide) none
    simpa [Item.read, Item.toJson, Item.normal, member?] using h.readsBack
  | some marked =>
    have hmarked := (readsBack_anyObject marked).optional (by simp)
    have h : Item.shape.Writes _ _ _ :=
      hothers.present Item.formattedKey (by decide) hmarked (some none)
    simpa [Item.read, Item.toJson, Item.normal, member?] using h.readsBack

/-- The marked copies of an item that is read from a value in normal form are in normal form. -/
theorem Item.normal_of_read {v : Json} {i : Item} (hv : v.IsNormal) (h : Item.read v = .ok i) :
    i.normal = i := by
  have hmarked : Item.shape.Yields Json.IsNormal fun i : Item => i.normal = i := by
    refine Shape.Yields.field (?_ : Shape.Yields _ _ fun construct : Option Json.Members → Item =>
      ∀ marked, (construct marked).formatted = marked) ?_
    · -- The other fields play no part.
      exact .anyField <| .anyField <| .anyField <| .anyField <| .anyField <| .anyField <|
        .anyField <| .anyField <|
          Shape.yields_ofConstructor fun _ _ _ _ _ _ _ _ _ => rfl
    · intro construct marked hconstruct horigin
      have hnormal : marked.map (Json.normalMembers []) = marked := by
        rcases horigin with hdefault | ⟨v, hv, hread⟩
        · cases hdefault
          rfl
        · exact normal_of_optional_anyObject hv hread
      have hformatted : (construct marked).formatted.map (Json.normalMembers []) =
          (construct marked).formatted := by
        rw [hconstruct marked, hnormal]
      rw [Item.normal, hformatted]
  exact hmarked.read (fun part hpart => hv.of_mem_parts hpart) h

/-! ## Settings -/

/-- The search section is read back. -/
theorem SearchSettings.readsBack (s : SearchSettings) :
    ReadsBack SearchSettings.shape.read s.toJson s s :=
  ((SearchSettings.reads s).writes (by simp [ofNat])).readsBack

/-- The account section is read back. -/
theorem AccountSettings.readsBack (s : AccountSettings) :
    ReadsBack AccountSettings.shape.read s.toJson s s :=
  ((AccountSettings.reads s).writes (by simp [ofNat])).readsBack

/-- The review section is read back. -/
theorem ReviewSettings.readsBack (s : ReviewSettings) :
    ReadsBack ReviewSettings.shape.read s.toJson s s :=
  ((ReviewSettings.reads s).writes (by simp [ofNat])).readsBack

/-- The section of pauses is read back. -/
theorem LimitSettings.readsBack (s : LimitSettings) :
    ReadsBack LimitSettings.shape.read s.toJson s s :=
  ((LimitSettings.reads s).writes (by simp [ofNat])).readsBack

/-- The members of the section of addresses, whatever value is read as its key. -/
lemma EndpointSettings.writes (s : EndpointSettings) {key : Json}
    (hkey : ReadsBack (optional text) key s.indexKey s.indexKey) :
    EndpointSettings.shape.Writes
      [("meili_url", .text s.indexUrl), ("meili_key", key), ("swap_backend", .text s.swapBackend),
        ("housing_backend", .text s.housingBackend), ("home_backend", .text s.homeBackend)] s s :=
  Shape.writes_ofConstructor "EndpointsConfig" EndpointSettings.mk
    |>.present "meili_url" (by decide) (readsBack_text s.indexUrl) _
    |>.present "meili_key" (by decide) hkey _
    |>.present "swap_backend" (by decide) (readsBack_text s.swapBackend) _
    |>.present "housing_backend" (by decide) (readsBack_text s.housingBackend) _
    |>.present "home_backend" (by decide) (readsBack_text s.homeBackend) _

/-- The section of addresses is read back; a missing key is read from null. -/
theorem EndpointSettings.readsBack (s : EndpointSettings) :
    ReadsBack EndpointSettings.shape.read s.toJson s s := by
  obtain ⟨indexUrl, indexKey, swapBackend, housingBackend, homeBackend⟩ := s
  cases indexKey with
  | none => exact (EndpointSettings.writes _ ⟨rfl, rfl⟩).readsBack
  | some key => exact (EndpointSettings.writes _ ⟨rfl, rfl⟩).readsBack

/-- All settings are read back. -/
theorem Settings.readsBack (s : Settings) : ReadsBack Settings.read s.toJson s s :=
  Shape.Writes.readsBack <|
    Shape.writes_ofConstructor "AppConfig" Settings.mk
      |>.present "search" (by decide) s.search.readsBack _
      |>.present "account" (by decide) s.account.readsBack _
      |>.present "reviews" (by decide) s.reviews.readsBack _
      |>.present "limits" (by decide) s.limits.readsBack _
      |>.present "endpoints" (by decide) s.endpoints.readsBack _

/-! ## All records -/

/-- The records that are read and written. -/
inductive RecordFormat
  /-- Items for sale. -/
  | item
  /-- Listings of residences. -/
  | listing
  /-- Reviews. -/
  | review
  /-- Bars of the traffic chart. -/
  | trafficBar
  /-- Mean ratings by category. -/
  | ratings
  /-- The search section of the settings. -/
  | searchSettings
  /-- The account section. -/
  | accountSettings
  /-- The review section. -/
  | reviewSettings
  /-- The section of pauses. -/
  | limitSettings
  /-- The section of addresses. -/
  | endpointSettings
  /-- All settings. -/
  | settings
  deriving DecidableEq, Repr

namespace RecordFormat

/-- The records of a format. -/
def Value : RecordFormat → Type
  | item => Item
  | listing => Listing
  | review => Review
  | trafficBar => TrafficBar
  | ratings => Ratings UInt16
  | searchSettings => SearchSettings
  | accountSettings => AccountSettings
  | reviewSettings => ReviewSettings
  | limitSettings => LimitSettings
  | endpointSettings => EndpointSettings
  | settings => Settings

/-- The reader of a format. -/
def read : (f : RecordFormat) → Reader f.Value
  | item => Item.read
  | listing => Listing.read
  | review => Review.read
  | trafficBar => TrafficBar.read
  | ratings => Ratings.readOf uint16
  | searchSettings => SearchSettings.shape.read
  | accountSettings => AccountSettings.shape.read
  | reviewSettings => ReviewSettings.shape.read
  | limitSettings => LimitSettings.shape.read
  | endpointSettings => EndpointSettings.shape.read
  | settings => Settings.read

/-- The writer of a format. -/
def write : (f : RecordFormat) → f.Value → Json
  | item => Item.toJson
  | listing => Listing.toJson
  | review => Review.toJson
  | trafficBar => TrafficBar.toJson
  | ratings => Ratings.toJson fun n => Decode.ofNat n.toNat
  | searchSettings => SearchSettings.toJson
  | accountSettings => AccountSettings.toJson
  | reviewSettings => ReviewSettings.toJson
  | limitSettings => LimitSettings.toJson
  | endpointSettings => EndpointSettings.toJson
  | settings => Settings.toJson

/-- A record with the arbitrary objects that it holds in normal form. Items alone hold any. -/
def normal : (f : RecordFormat) → f.Value → f.Value
  | item => Item.normal
  | _ => id

/-- Reads a record and writes it again. -/
def rewrite (f : RecordFormat) (v : Json) : Except DecodeError Json :=
  (f.read v).map f.write

/-- **What is written for a record is read as that record**, and its normal form as the record in
normal form. -/
theorem readsBack (f : RecordFormat) (x : f.Value) :
    ReadsBack f.read (f.write x) x (f.normal x) := by
  cases f with
  | item => exact Item.readsBack x
  | listing => exact Listing.readsBack x
  | review => exact Review.readsBack x
  | trafficBar => exact TrafficBar.readsBack x
  | ratings => exact Ratings.readsBack readsBack_uint16 x
  | searchSettings => exact SearchSettings.readsBack x
  | accountSettings => exact AccountSettings.readsBack x
  | reviewSettings => exact ReviewSettings.readsBack x
  | limitSettings => exact LimitSettings.readsBack x
  | endpointSettings => exact EndpointSettings.readsBack x
  | settings => exact Settings.readsBack x

/-- **A record that is read from a value in normal form is in normal form.** -/
theorem normal_of_read {f : RecordFormat} {v : Json} {x : f.Value} (hv : v.IsNormal)
    (h : f.read v = .ok x) : f.normal x = x := by
  cases f with
  | item => exact Item.normal_of_read hv h
  | _ => rfl

/-- **Reading undoes writing.** Each record is read back from what is written for it, and also from
the normal form of that. This holds of what was read from any value at all, so that reading and
writing again changes nothing when it is done a second time.

**Proof sketch.** What is written is read back by `CampusBoard.RecordFormat.readsBack`. The record
that its normal form is read as is the same one if the record came from a value in normal form, by
`CampusBoard.RecordFormat.normal_of_read`. -/
theorem reading_undoes_writing (f : RecordFormat) :
    (∀ x : f.Value, f.read (f.write x) = .ok x ∧ f.read (f.write x).normal = .ok (f.normal x)) ∧
    (∀ (v : Json) (x : f.Value), f.read v = .ok x →
      f.read (f.write x) = .ok x ∧ (v.IsNormal → f.read (f.write x).normal = .ok x)) ∧
    (∀ v w : Json, f.rewrite v = .ok w →
      f.rewrite w = .ok w ∧ (v.IsNormal → f.rewrite w.normal = .ok w)) := by
  have hread : ∀ (v : Json) (x : f.Value), f.read v = .ok x →
      f.read (f.write x) = .ok x ∧ (v.IsNormal → f.read (f.write x).normal = .ok x) := by
    intro v x h
    refine ⟨(f.readsBack x).plain, fun hv => ?_⟩
    rw [(f.readsBack x).normal, normal_of_read hv h]
  refine ⟨fun x => ⟨(f.readsBack x).plain, (f.readsBack x).normal⟩, hread, ?_⟩
  intro v w h
  obtain ⟨x, hx, rfl⟩ := exists_of_map_eq_ok h
  obtain ⟨hplain, hnormal⟩ := hread v x hx
  refine ⟨?_, fun hv => ?_⟩
  · rw [rewrite, hplain, Except.map]
  · rw [rewrite, hnormal hv, Except.map]

/-- A review from a list that ends early, with blanks around the identifier and null for the day. -/
example :
    rewrite review (.list [.text " r1 ", .text "hawkins", .integer 300,
      .list [.integer 100, .integer 200, .integer 300, .integer 400, .integer 500], .null,
      .text "Quiet."]) =
    .ok (.object [("id", .text "r1"), ("housing_id", .text "hawkins"),
      ("overall_rating", .integer 300),
      ("ratings", .object [("living_conditions", .integer 100), ("location", .integer 200),
        ("amenities", .integer 300), ("value", .integer 400), ("community", .integer 500)]),
      ("description", .text "Quiet.")]) := by
  rfl

end RecordFormat

end CampusBoard
