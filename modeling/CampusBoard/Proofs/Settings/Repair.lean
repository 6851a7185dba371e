import CampusBoard.Settings.Repair
import Mathlib.Tactic.Common
import Mathlib.Tactic.Lemma

/-!
# Repairing what the settings are reported for

Repaired settings are reported for nothing, and settings that are reported for nothing are left as
they are.

## Design

A repair does not go by single values: the two ends of a range stand and fall together. So the
settings are taken apart into parts, each of which is replaced or kept as a whole, and whether a
part is usable depends on that part alone (`CampusBoard.Settings.Part.unusable_congr`). What a
repair does to one part can therefore make no other part unusable, however the parts are combined,
and all there is to say about a repair follows from what becomes of each part
(`CampusBoard.Settings.Part.agrees_repaired`).

## Main definitions

* `CampusBoard.Settings.Part`, `CampusBoard.Settings.Part.Agrees`: the parts, and when two
  settings have the same values in one.
* `CampusBoard.Settings.Part.Unusable`: when a part has to be replaced.
* `CampusBoard.Settings.Complaint.part`: the part that a complaint is about.

## Main results

* `CampusBoard.Settings.Part.unusable_iff`: the complaints are about the unusable parts.
* `CampusBoard.Settings.Part.agrees_repaired`: a repair replaces the unusable parts by the defaults.
* `CampusBoard.Settings.repair_replaces_unusable_parts`: what a repair does to all settings.
-/

set_option autoImplicit false

namespace CampusBoard.Settings

/-! ## Parts -/

/-- A part of the settings that a repair replaces or keeps as a whole. -/
inductive Part
  /-- The least length of a password and the greatest length of an entry. -/
  | passwordLengths
  /-- The number of digits of a verification code. -/
  | codeLength
  /-- The least and the greatest length of a description. -/
  | descriptionLengths
  /-- The number of votes that makes a batch full. -/
  | batchSize
  /-- All that is never wrong. -/
  | others
  deriving DecidableEq, Repr

namespace Part

/-- Two settings have the same values in a part. -/
def Agrees : Part → Settings → Settings → Prop
  | passwordLengths, s, s' =>
    s.account.minPasswordLength = s'.account.minPasswordLength ∧
      s.account.maxChars = s'.account.maxChars
  | codeLength, s, s' => s.account.codeLength = s'.account.codeLength
  | descriptionLengths, s, s' =>
    s.reviews.minChars = s'.reviews.minChars ∧ s.reviews.maxChars = s'.reviews.maxChars
  | batchSize, s, s' => s.reviews.maxThumbs = s'.reviews.maxThumbs
  | others, s, s' =>
    s.search = s'.search ∧ s.limits = s'.limits ∧ s.endpoints = s'.endpoints ∧
      s.account.emailDomain = s'.account.emailDomain ∧
      s.account.errorMaxChars = s'.account.errorMaxChars ∧
      s.reviews.thumbsFlushMs = s'.reviews.thumbsFlushMs

/-- When a part has to be replaced. -/
def Unusable : Part → Settings → Prop
  | passwordLengths, s =>
    s.account.minPasswordLength = 0 ∨ s.account.maxChars < s.account.minPasswordLength
  | codeLength, s => s.account.codeLength = 0
  | descriptionLengths, s => s.reviews.maxChars < s.reviews.minChars
  | batchSize, s => s.reviews.maxThumbs = 0
  | others, _ => False

instance (part : Part) (s : Settings) : Decidable (part.Unusable s) :=
  match part with
  | passwordLengths => inferInstanceAs (Decidable (_ ∨ _))
  | codeLength => inferInstanceAs (Decidable (_ = _))
  | descriptionLengths => inferInstanceAs (Decidable (_ < _))
  | batchSize => inferInstanceAs (Decidable (_ = _))
  | others => inferInstanceAs (Decidable False)

/-- Settings that agree in all parts are the same. -/
lemma eq_of_agrees {s s' : Settings} (h : ∀ part : Part, part.Agrees s s') : s = s' := by
  obtain ⟨search, ⟨maxChars, minPassword, code, domain, errorChars⟩,
    ⟨minChars, maxDescription, thumbs, flush⟩, limits, endpoints⟩ := s
  obtain ⟨rfl, rfl⟩ := h passwordLengths
  obtain rfl := h codeLength
  obtain ⟨rfl, rfl⟩ := h descriptionLengths
  obtain rfl := h batchSize
  obtain ⟨rfl, rfl, rfl, rfl, rfl, rfl⟩ := h others
  rfl

/-- Whether a part is usable depends on that part alone. -/
lemma unusable_congr {part : Part} {s s' : Settings} (h : part.Agrees s s') :
    part.Unusable s ↔ part.Unusable s' := by
  cases part with
  | passwordLengths | descriptionLengths =>
    obtain ⟨hmin, hmax⟩ := h
    simp only [Unusable, hmin, hmax]
  | codeLength | batchSize =>
    simp only [Agrees] at h
    simp only [Unusable, h]
  | others => rfl

/-- All parts of the defaults are usable. -/
lemma not_unusable_default (part : Part) : ¬part.Unusable {} := by
  cases part <;> decide

end Part

/-! ## Complaints -/

/-- The part that a complaint is about. -/
def Complaint.part : Complaint → Part
  | .minPasswordZero | .minPasswordAboveMax => .passwordLengths
  | .codeLengthZero => .codeLength
  | .reviewMinAboveMax => .descriptionLengths
  | .maxThumbsZero => .batchSize

/-- A complaint is made exactly if it applies. -/
lemma mem_complaints_iff (s : Settings) (complaint : Complaint) :
    complaint ∈ s.complaints ↔ complaint.applies s = true := by
  have hall : complaint ∈ Complaint.all := by cases complaint <;> decide
  simp [complaints, hall]

/-- **The complaints are about the unusable parts**, and each of these has one. -/
theorem Part.unusable_iff (part : Part) (s : Settings) :
    part.Unusable s ↔ ∃ complaint ∈ s.complaints, complaint.part = part := by
  simp only [mem_complaints_iff]
  constructor
  · intro h
    cases part with
    | passwordLengths =>
      rcases h with hzero | habove
      · exact ⟨.minPasswordZero, beq_iff_eq.mpr hzero, rfl⟩
      · exact ⟨.minPasswordAboveMax, decide_eq_true habove, rfl⟩
    | codeLength => exact ⟨.codeLengthZero, beq_iff_eq.mpr h, rfl⟩
    | descriptionLengths => exact ⟨.reviewMinAboveMax, decide_eq_true h, rfl⟩
    | batchSize => exact ⟨.maxThumbsZero, beq_iff_eq.mpr h, rfl⟩
    | others => exact h.elim
  · rintro ⟨complaint, happlies, rfl⟩
    cases complaint <;> simp_all [Complaint.applies, Complaint.part, Part.Unusable]

/-- Settings are reported for nothing exactly if all their parts are usable. -/
lemma complaints_eq_nil_iff (s : Settings) :
    s.complaints = [] ↔ ∀ part : Part, ¬part.Unusable s := by
  simp only [Part.unusable_iff, not_exists, not_and, List.eq_nil_iff_forall_not_mem]
  constructor
  · intro hnone part complaint hcomplaint _
    exact hnone complaint hcomplaint
  · intro hnone complaint hcomplaint
    exact hnone complaint.part complaint hcomplaint rfl

/-! ## Repairing -/

/-- **A repair replaces the unusable parts by the defaults** and keeps the others. -/
theorem Part.agrees_repaired (part : Part) (s : Settings) :
    part.Agrees s.repaired (if part.Unusable s then {} else s) := by
  cases part with
  | passwordLengths =>
    by_cases h : s.account.minPasswordLength = 0 ∨
        s.account.maxChars < s.account.minPasswordLength <;>
      simp [Agrees, Unusable, repaired, repairedAccount, h]
  | codeLength =>
    by_cases h : s.account.codeLength = 0 <;>
      simp [Agrees, Unusable, repaired, repairedAccount, h]
  | descriptionLengths =>
    by_cases h : s.reviews.maxChars < s.reviews.minChars <;>
      simp [Agrees, Unusable, repaired, repairedReviews, h]
  | batchSize =>
    by_cases h : s.reviews.maxThumbs = 0 <;>
      simp [Agrees, Unusable, repaired, repairedReviews, h]
  | others => exact ⟨rfl, rfl, rfl, rfl, rfl, rfl⟩

/-- All parts of repaired settings are usable. -/
lemma Part.not_unusable_repaired (part : Part) (s : Settings) : ¬part.Unusable s.repaired := by
  rw [unusable_congr (part.agrees_repaired s)]
  split
  · exact part.not_unusable_default
  · assumption

/-- Repaired settings are reported for nothing. -/
lemma complaints_repaired (s : Settings) : s.repaired.complaints = [] :=
  (complaints_eq_nil_iff _).mpr fun part => part.not_unusable_repaired s

/-- A repair changes nothing exactly if the settings are reported for nothing. -/
lemma repaired_eq_self_iff (s : Settings) : s.repaired = s ↔ s.complaints = [] := by
  constructor
  · intro h
    rw [← h]
    exact complaints_repaired s
  · intro h
    refine Part.eq_of_agrees fun part => ?_
    have hagrees := part.agrees_repaired s
    rwa [if_neg ((complaints_eq_nil_iff s).mp h part)] at hagrees

/-- **A repair replaces the unusable parts.** Whatever the settings: once repaired they are reported
for nothing, they are left as they are exactly if they were reported for nothing, and a second
repair changes nothing. Each part that is unusable is replaced by its default, the two ends of a
range together, and each other part is kept; the unusable parts are those that a complaint is about.

**Proof sketch.** A part of repaired settings is one of the defaults or a usable one
(`CampusBoard.Settings.Part.agrees_repaired`), so it is usable, which depends on the part alone. -/
theorem repair_replaces_unusable_parts (s : Settings) :
    s.repaired.complaints = [] ∧
    (s.repaired = s ↔ s.complaints = []) ∧
    s.repaired.repaired = s.repaired ∧
    ∀ part : Part,
      part.Agrees s.repaired (if part.Unusable s then {} else s) ∧
      (part.Unusable s ↔ ∃ complaint ∈ s.complaints, complaint.part = part) := by
  refine ⟨complaints_repaired s, repaired_eq_self_iff s, ?_, ?_⟩
  · exact (repaired_eq_self_iff s.repaired).mpr (complaints_repaired s)
  · intro part
    exact ⟨part.agrees_repaired s, part.unusable_iff s⟩

/-- Both ends of a range are replaced where one would do, and what is usable stays. -/
example :
    Settings.repaired
      { account := { minPasswordLength := 0, maxChars := 5, codeLength := 4 }
        reviews := { minChars := 3, maxThumbs := 0 } } =
      { account := { codeLength := 4 }, reviews := { minChars := 3 } } := by
  decide

end CampusBoard.Settings
