import CampusBoard.Proofs.Decode.Overlays
import CampusBoard.Settings.Json

/-!
# Settings over their defaults

Settings that are given in a table stand over the defaults one by one: each is what the table says
of it, or its default where the table says nothing, whatever becomes of the others.

## Design

`Setting` lists the settings with the section and the key of each, the kind of its values and its
default, apart from the sections and their readers. A default counts in two ways, since a section
may be missing as a whole or only lack the key; that both come to the same is what
`Decode.Shape.Overlays.given_read_iff` asks of the default of a section.

## Main definitions

* `CampusBoard.SettingKind`, `CampusBoard.Setting`: the settings and the kinds of their values.
* `CampusBoard.Setting.given?`: what a table says of a setting.
* `CampusBoard.Settings.IsTable`: tables whose sections are tables.

## Main results

* `CampusBoard.SearchSettings.overlays` and its likes: the sections.
* `CampusBoard.Settings.read_eq_ok_iff`: a table is read as settings if these are what it says.
* `CampusBoard.Settings.exists_read_iff`: it is read if what it says is of the right kinds.
-/

set_option autoImplicit false

namespace CampusBoard

/-! ## The settings -/

/-- The kinds of values that settings have. -/
inductive SettingKind
  /-- A page size, which is at least one. -/
  | pageSize
  /-- A number of sixty-four bits without a sign. -/
  | number
  /-- A text. -/
  | text
  /-- A text that may be missing. -/
  | optionalText
  deriving DecidableEq, Repr

namespace SettingKind

/-- The values of a kind. -/
def Value : SettingKind → Type
  | pageSize => PageSize
  | number => UInt64
  | text => String
  | optionalText => Option String

/-- The JSON value that a value is given as. -/
def toJson : (kind : SettingKind) → kind.Value → Json
  | pageSize, p => .integer p.val.toNat
  | number, n => .integer (UInt64.toNat n)
  | text, s => .text s
  | optionalText, some s => .text s
  | optionalText, none => .null

end SettingKind

/-- The settings. -/
inductive Setting
  /-- The number of hits on a page. -/
  | pageSize
  /-- What stands before a match. -/
  | preTag
  /-- What stands after a match. -/
  | postTag
  /-- The greatest length of an email or a password. -/
  | maxEntryChars
  /-- The least length of a password. -/
  | minPasswordLength
  /-- The number of digits of a verification code. -/
  | codeLength
  /-- What an email must have after its at sign. -/
  | emailDomain
  /-- The greatest length of an error that is shown. -/
  | errorMaxChars
  /-- The least length of a description. -/
  | minReviewChars
  /-- The greatest length of a description. -/
  | maxReviewChars
  /-- The number of pending votes that makes a batch full. -/
  | maxThumbs
  /-- The milliseconds that a vote may wait for its batch. -/
  | thumbsFlushMs
  /-- The milliseconds between two calls for an account. -/
  | authCooldownMs
  /-- The milliseconds between two posts of a review. -/
  | postCooldownMs
  /-- The address of the search index. -/
  | indexUrl
  /-- The key for the search index. -/
  | indexKey
  /-- The address of the marketplace service. -/
  | swapBackend
  /-- The address of the housing service. -/
  | housingBackend
  /-- The address of the home page service. -/
  | homeBackend
  deriving DecidableEq, Repr

namespace Setting

/-- All settings. -/
def all : List Setting :=
  [pageSize, preTag, postTag, maxEntryChars, minPasswordLength, codeLength, emailDomain,
    errorMaxChars, minReviewChars, maxReviewChars, maxThumbs, thumbsFlushMs, authCooldownMs,
    postCooldownMs, indexUrl, indexKey, swapBackend, housingBackend, homeBackend]

/-- The section of a setting. -/
def sectionName : Setting → String
  | pageSize | preTag | postTag => "search"
  | maxEntryChars | minPasswordLength | codeLength | emailDomain | errorMaxChars => "account"
  | minReviewChars | maxReviewChars | maxThumbs | thumbsFlushMs => "reviews"
  | authCooldownMs | postCooldownMs => "limits"
  | indexUrl | indexKey | swapBackend | housingBackend | homeBackend => "endpoints"

/-- The key of a setting in its section. -/
def key : Setting → String
  | pageSize => "page_size"
  | preTag => "highlight_pre_tag"
  | postTag => "highlight_post_tag"
  | maxEntryChars => "max_chars"
  | minPasswordLength => "min_password_length"
  | codeLength => "code_length"
  | emailDomain => "email_domain"
  | errorMaxChars => "error_max_chars"
  | minReviewChars => "min_chars"
  | maxReviewChars => "max_chars"
  | maxThumbs => "max_thumbs"
  | thumbsFlushMs => "thumbs_flush_ms"
  | authCooldownMs => "auth_cooldown_ms"
  | postCooldownMs => "post_cooldown_ms"
  | indexUrl => "meili_url"
  | indexKey => "meili_key"
  | swapBackend => "swap_backend"
  | housingBackend => "housing_backend"
  | homeBackend => "home_backend"

/-- The kind of the values of a setting. -/
def kind : Setting → SettingKind
  | pageSize => .pageSize
  | maxEntryChars | minPasswordLength | codeLength | errorMaxChars => .number
  | minReviewChars | maxReviewChars | maxThumbs | thumbsFlushMs => .number
  | authCooldownMs | postCooldownMs => .number
  | preTag | postTag | emailDomain | indexUrl | swapBackend | housingBackend | homeBackend => .text
  | indexKey => .optionalText

/-- The default of a setting. -/
def default : (x : Setting) → x.kind.Value
  | pageSize => PageSize.standard
  | preTag => "<mark>"
  | postTag => "</mark>"
  | maxEntryChars => (100 : UInt64)
  | minPasswordLength => (10 : UInt64)
  | codeLength => (6 : UInt64)
  | emailDomain => "purdue.edu"
  | errorMaxChars => (50 : UInt64)
  | minReviewChars => (10 : UInt64)
  | maxReviewChars => (350 : UInt64)
  | maxThumbs => (20 : UInt64)
  | thumbsFlushMs => (30000 : UInt64)
  | authCooldownMs => (500 : UInt64)
  | postCooldownMs => (1000 : UInt64)
  | indexUrl => "http://localhost:7700"
  | indexKey => (none : Option String)
  | swapBackend => "http://localhost:8080/swap"
  | housingBackend => "http://localhost:8080/housing"
  | homeBackend => "http://localhost:8080/home"

/-- The value of a setting. -/
def get (s : Settings) : (x : Setting) → x.kind.Value
  | pageSize => s.search.pageSize
  | preTag => s.search.preTag
  | postTag => s.search.postTag
  | maxEntryChars => s.account.maxChars
  | minPasswordLength => s.account.minPasswordLength
  | codeLength => s.account.codeLength
  | emailDomain => s.account.emailDomain
  | errorMaxChars => s.account.errorMaxChars
  | minReviewChars => s.reviews.minChars
  | maxReviewChars => s.reviews.maxChars
  | maxThumbs => s.reviews.maxThumbs
  | thumbsFlushMs => s.reviews.thumbsFlushMs
  | authCooldownMs => s.limits.authCooldownMs
  | postCooldownMs => s.limits.postCooldownMs
  | indexUrl => s.endpoints.indexUrl
  | indexKey => s.endpoints.indexKey
  | swapBackend => s.endpoints.swapBackend
  | housingBackend => s.endpoints.housingBackend
  | homeBackend => s.endpoints.homeBackend

/-- The settings with given values, each chosen without regard to the others. -/
def together (value : (x : Setting) → x.kind.Value) : Settings where
  search := ⟨value pageSize, value preTag, value postTag⟩
  account := ⟨value maxEntryChars, value minPasswordLength, value codeLength, value emailDomain,
    value errorMaxChars⟩
  reviews := ⟨value minReviewChars, value maxReviewChars, value maxThumbs, value thumbsFlushMs⟩
  limits := ⟨value authCooldownMs, value postCooldownMs⟩
  endpoints := ⟨value indexUrl, value indexKey, value swapBackend, value housingBackend,
    value homeBackend⟩

/-- Each setting holds the value it was given. -/
@[simp]
lemma get_together (value : (x : Setting) → x.kind.Value) (x : Setting) :
    x.get (together value) = value x := by
  cases x <;> rfl

/-- Settings with the same values are the same. -/
lemma ext_get {s s' : Settings} (h : ∀ x : Setting, x.get s = x.get s') : s = s' := by
  have htogether (s : Settings) : together (get s) = s := rfl
  rw [← htogether s, ← htogether s', funext h]

end Setting

/-! ## What a table says -/

/-- What a section says under a key; a section that is missing says nothing. -/
def inSection (section? : Option Json) (key : String) : Option Json :=
  match section? with
  | some (.object members) => Json.Members.lookup key members
  | _ => none

namespace Setting

/-- What a table says of a setting. -/
def given? (members : Json.Members) (x : Setting) : Option Json :=
  inSection (members.lookup x.sectionName) x.key

/-- The value of a setting is what is said of it, or its default where nothing is said. -/
def Stands (x : Setting) (a : x.kind.Value) : Option Json → Prop
  | some v => v = x.kind.toJson a
  | none => a = x.default

/-- A setting with a reader of its kind holds what is said of it. -/
lemma given_iff_stands (x : Setting) {read : Decode.Reader x.kind.Value}
    (hread : ∀ {v a}, read v = .ok a ↔ v = x.kind.toJson a) {v? : Option Json} {a : x.kind.Value} :
    Decode.Given read (some x.default) v? a ↔ x.Stands a v? := by
  cases v? with
  | some v => exact hread
  | none => exact Option.some_inj.trans eq_comm

end Setting

/-! ## Sections -/

namespace Decode.Shape

variable {ρ : Type}

/-- One more setting of a section. -/
lemma Overlays.setting (x : Setting) {s : Shape (x.kind.Value → ρ)}
    {holds : (String → Option Json) → (x.kind.Value → ρ) → Prop} (h : s.Overlays holds)
    (hnew : x.key ∉ s.fields) {read : Reader x.kind.Value}
    (hread : ∀ {v a}, read v = .ok a ↔ v = x.kind.toJson a) :
    (s.field x.key read (some x.default)).Overlays fun lookup r =>
      ∃ construct a, holds lookup construct ∧ x.Stands a (lookup x.key) ∧ r = construct a :=
  (h.field x.key hnew read (some x.default)).congr fun lookup r => by
    simp only [x.given_iff_stands hread]

end Decode.Shape

open Decode

/-- A text that may be missing is null or a text. -/
lemma optionalText_eq_ok_iff {v : Json} {a : SettingKind.optionalText.Value} :
    Decode.optional text v = .ok a ↔ v = SettingKind.optionalText.toJson a := by
  cases v <;> cases a <;> simp [Decode.optional, text, SettingKind.toJson, Except.map]

/-- The settings of searches. -/
lemma SearchSettings.overlays :
    SearchSettings.shape.Overlays fun lookup s =>
      Setting.pageSize.Stands s.pageSize (lookup "page_size") ∧
      Setting.preTag.Stands s.preTag (lookup "highlight_pre_tag") ∧
      Setting.postTag.Stands s.postTag (lookup "highlight_post_tag") :=
  Shape.overlays_ofConstructor "SearchSettings" SearchSettings.mk
    |>.setting .pageSize (by decide) pageSize_eq_ok_iff
    |>.setting .preTag (by decide) text_eq_ok_iff
    |>.setting .postTag (by decide) text_eq_ok_iff
    |>.congr fun lookup s => by
      constructor
      · rintro ⟨_, _, ⟨_, _, ⟨_, _, rfl, hsize, rfl⟩, hpre, rfl⟩, hpost, rfl⟩
        exact ⟨hsize, hpre, hpost⟩
      · rintro ⟨hsize, hpre, hpost⟩
        exact ⟨_, _, ⟨_, _, ⟨_, _, rfl, hsize, rfl⟩, hpre, rfl⟩, hpost, rfl⟩

/-- The settings of accounts. -/
lemma AccountSettings.overlays :
    AccountSettings.shape.Overlays fun lookup s =>
      Setting.maxEntryChars.Stands s.maxChars (lookup "max_chars") ∧
      Setting.minPasswordLength.Stands s.minPasswordLength (lookup "min_password_length") ∧
      Setting.codeLength.Stands s.codeLength (lookup "code_length") ∧
      Setting.emailDomain.Stands s.emailDomain (lookup "email_domain") ∧
      Setting.errorMaxChars.Stands s.errorMaxChars (lookup "error_max_chars") :=
  Shape.overlays_ofConstructor "AccountConfig" AccountSettings.mk
    |>.setting .maxEntryChars (by decide) count_eq_ok_iff
    |>.setting .minPasswordLength (by decide) count_eq_ok_iff
    |>.setting .codeLength (by decide) count_eq_ok_iff
    |>.setting .emailDomain (by decide) text_eq_ok_iff
    |>.setting .errorMaxChars (by decide) count_eq_ok_iff
    |>.congr fun lookup s => by
      constructor
      · rintro ⟨_, _, ⟨_, _, ⟨_, _, ⟨_, _, ⟨_, _, rfl, hmax, rfl⟩, hmin, rfl⟩, hcode, rfl⟩, hdomain,
          rfl⟩, herror, rfl⟩
        exact ⟨hmax, hmin, hcode, hdomain, herror⟩
      · rintro ⟨hmax, hmin, hcode, hdomain, herror⟩
        exact ⟨_, _, ⟨_, _, ⟨_, _, ⟨_, _, ⟨_, _, rfl, hmax, rfl⟩, hmin, rfl⟩, hcode, rfl⟩, hdomain,
          rfl⟩, herror, rfl⟩

/-- The settings of reviews and votes. -/
lemma ReviewSettings.overlays :
    ReviewSettings.shape.Overlays fun lookup s =>
      Setting.minReviewChars.Stands s.minChars (lookup "min_chars") ∧
      Setting.maxReviewChars.Stands s.maxChars (lookup "max_chars") ∧
      Setting.maxThumbs.Stands s.maxThumbs (lookup "max_thumbs") ∧
      Setting.thumbsFlushMs.Stands s.thumbsFlushMs (lookup "thumbs_flush_ms") :=
  Shape.overlays_ofConstructor "ReviewsConfig" ReviewSettings.mk
    |>.setting .minReviewChars (by decide) count_eq_ok_iff
    |>.setting .maxReviewChars (by decide) count_eq_ok_iff
    |>.setting .maxThumbs (by decide) count_eq_ok_iff
    |>.setting .thumbsFlushMs (by decide) uint64_eq_ok_iff
    |>.congr fun lookup s => by
      constructor
      · rintro ⟨_, _, ⟨_, _, ⟨_, _, ⟨_, _, rfl, hmin, rfl⟩, hmax, rfl⟩, hthumbs, rfl⟩, hflush, rfl⟩
        exact ⟨hmin, hmax, hthumbs, hflush⟩
      · rintro ⟨hmin, hmax, hthumbs, hflush⟩
        exact ⟨_, _, ⟨_, _, ⟨_, _, ⟨_, _, rfl, hmin, rfl⟩, hmax, rfl⟩, hthumbs, rfl⟩, hflush, rfl⟩

/-- The settings of pauses. -/
lemma LimitSettings.overlays :
    LimitSettings.shape.Overlays fun lookup s =>
      Setting.authCooldownMs.Stands s.authCooldownMs (lookup "auth_cooldown_ms") ∧
      Setting.postCooldownMs.Stands s.postCooldownMs (lookup "post_cooldown_ms") :=
  Shape.overlays_ofConstructor "LimitsConfig" LimitSettings.mk
    |>.setting .authCooldownMs (by decide) uint64_eq_ok_iff
    |>.setting .postCooldownMs (by decide) uint64_eq_ok_iff
    |>.congr fun lookup s => by
      constructor
      · rintro ⟨_, _, ⟨_, _, rfl, hauth, rfl⟩, hpost, rfl⟩
        exact ⟨hauth, hpost⟩
      · rintro ⟨hauth, hpost⟩
        exact ⟨_, _, ⟨_, _, rfl, hauth, rfl⟩, hpost, rfl⟩

/-- The settings of addresses. -/
lemma EndpointSettings.overlays :
    EndpointSettings.shape.Overlays fun lookup s =>
      Setting.indexUrl.Stands s.indexUrl (lookup "meili_url") ∧
      Setting.indexKey.Stands s.indexKey (lookup "meili_key") ∧
      Setting.swapBackend.Stands s.swapBackend (lookup "swap_backend") ∧
      Setting.housingBackend.Stands s.housingBackend (lookup "housing_backend") ∧
      Setting.homeBackend.Stands s.homeBackend (lookup "home_backend") :=
  Shape.overlays_ofConstructor "EndpointsConfig" EndpointSettings.mk
    |>.setting .indexUrl (by decide) text_eq_ok_iff
    |>.setting .indexKey (by decide) optionalText_eq_ok_iff
    |>.setting .swapBackend (by decide) text_eq_ok_iff
    |>.setting .housingBackend (by decide) text_eq_ok_iff
    |>.setting .homeBackend (by decide) text_eq_ok_iff
    |>.congr fun lookup s => by
      constructor
      · rintro ⟨_, _, ⟨_, _, ⟨_, _, ⟨_, _, ⟨_, _, rfl, hurl, rfl⟩, hkey, rfl⟩, hswap, rfl⟩,
          hhousing, rfl⟩, hhome, rfl⟩
        exact ⟨hurl, hkey, hswap, hhousing, hhome⟩
      · rintro ⟨hurl, hkey, hswap, hhousing, hhome⟩
        exact ⟨_, _, ⟨_, _, ⟨_, _, ⟨_, _, ⟨_, _, rfl, hurl, rfl⟩, hkey, rfl⟩, hswap, rfl⟩, hhousing,
          rfl⟩, hhome, rfl⟩

/-! ## Tables -/

namespace Decode.Shape

variable {ρ : Type}

/-- **A section over its default** holds what is said in it, if the default is what is built from
nothing. -/
lemma Overlays.given_read_iff {s : Shape ρ} {holds : (String → Option Json) → ρ → Prop}
    (h : s.Overlays holds) {default : ρ} (hdefault : s.build (fun _ => none) = .ok default)
    {section? : Option Json}
    (hsection : ∀ v, section? = some v → ∃ inner : Json.Members, v = .object inner ∧
      inner.AtMostOnce s.fields) {r : ρ} :
    Given s.read (some default) section? r ↔ holds (inSection section?) r := by
  cases section? with
  | none =>
    have hbuilt : s.build (fun _ => none) = .ok r ↔ default = r := by rw [hdefault, Except.ok.injEq]
    rw [given_none, Option.some_inj]
    exact hbuilt.symm.trans (h.builds _ r)
  | some v =>
    obtain ⟨inner, rfl, honce⟩ := hsection v rfl
    rw [given_some]
    exact h.ofMembers_eq_ok_iff.trans (and_iff_right honce)

end Decode.Shape

namespace Settings

/-- The settings section by section. -/
lemma overlays :
    shape.Overlays fun lookup s =>
      Given SearchSettings.shape.read (some {}) (lookup "search") s.search ∧
      Given AccountSettings.shape.read (some {}) (lookup "account") s.account ∧
      Given ReviewSettings.shape.read (some {}) (lookup "reviews") s.reviews ∧
      Given LimitSettings.shape.read (some {}) (lookup "limits") s.limits ∧
      Given EndpointSettings.shape.read (some {}) (lookup "endpoints") s.endpoints :=
  Shape.overlays_ofConstructor "AppConfig" Settings.mk
    |>.field "search" (by decide) _ _
    |>.field "account" (by decide) _ _
    |>.field "reviews" (by decide) _ _
    |>.field "limits" (by decide) _ _
    |>.field "endpoints" (by decide) _ _
    |>.congr fun lookup s => by
      constructor
      · rintro ⟨_, _, ⟨_, _, ⟨_, _, ⟨_, _, ⟨_, _, rfl, hsearch, rfl⟩, haccount, rfl⟩, hreviews,
          rfl⟩, hlimits, rfl⟩, hendpoints, rfl⟩
        exact ⟨hsearch, haccount, hreviews, hlimits, hendpoints⟩
      · rintro ⟨hsearch, haccount, hreviews, hlimits, hendpoints⟩
        exact ⟨_, _, ⟨_, _, ⟨_, _, ⟨_, _, ⟨_, _, rfl, hsearch, rfl⟩, haccount, rfl⟩, hreviews,
          rfl⟩, hlimits, rfl⟩, hendpoints, rfl⟩

/-- The names of the sections. -/
def sectionNames : List String :=
  ["search", "account", "reviews", "limits", "endpoints"]

/-- The keys that are known in a section. -/
def keysIn (name : String) : List String :=
  (Setting.all.filter fun x => x.sectionName = name).map Setting.key

/-- A table whose sections are tables. No section and no key of a section stands in it twice. -/
structure IsTable (members : Json.Members) : Prop where
  /-- No section stands twice. -/
  once : members.AtMostOnce sectionNames
  /-- The sections are tables in which no key stands twice. -/
  sections : ∀ name ∈ sectionNames, ∀ v, members.lookup name = some v →
    ∃ inner : Json.Members, v = .object inner ∧ inner.AtMostOnce (keysIn name)

/-- **A table is read as settings** if each of these is what the table says of it, or its default
where the table says nothing. -/
theorem read_eq_ok_iff {members : Json.Members} (h : IsTable members) {s : Settings} :
    read (.object members) = .ok s ↔ ∀ x : Setting, x.Stands (x.get s) (x.given? members) := by
  have hsearch : Given _ (some {}) (members.lookup "search") s.search ↔ _ :=
    SearchSettings.overlays.given_read_iff rfl (h.sections "search" (by decide))
  have haccount : Given _ (some {}) (members.lookup "account") s.account ↔ _ :=
    AccountSettings.overlays.given_read_iff rfl (h.sections "account" (by decide))
  have hreviews : Given _ (some {}) (members.lookup "reviews") s.reviews ↔ _ :=
    ReviewSettings.overlays.given_read_iff rfl (h.sections "reviews" (by decide))
  have hlimits : Given _ (some {}) (members.lookup "limits") s.limits ↔ _ :=
    LimitSettings.overlays.given_read_iff rfl (h.sections "limits" (by decide))
  have hendpoints : Given _ (some {}) (members.lookup "endpoints") s.endpoints ↔ _ :=
    EndpointSettings.overlays.given_read_iff rfl (h.sections "endpoints" (by decide))
  refine overlays.ofMembers_eq_ok_iff.trans ((and_iff_right h.once).trans ?_)
  rw [hsearch, haccount, hreviews, hlimits, hendpoints]
  constructor
  · rintro ⟨⟨h₁, h₂, h₃⟩, ⟨h₄, h₅, h₆, h₇, h₈⟩, ⟨h₉, h₁₀, h₁₁, h₁₂⟩, ⟨h₁₃, h₁₄⟩, h₁₅, h₁₆, h₁₇, h₁₈,
      h₁₉⟩ x
    cases x <;> assumption
  · intro hall
    exact ⟨⟨hall .pageSize, hall .preTag, hall .postTag⟩,
      ⟨hall .maxEntryChars, hall .minPasswordLength, hall .codeLength, hall .emailDomain,
        hall .errorMaxChars⟩,
      ⟨hall .minReviewChars, hall .maxReviewChars, hall .maxThumbs, hall .thumbsFlushMs⟩,
      ⟨hall .authCooldownMs, hall .postCooldownMs⟩, hall .indexUrl, hall .indexKey,
      hall .swapBackend, hall .housingBackend, hall .homeBackend⟩

/-- **A table is read** if whatever it says of a setting is a value of its kind.

**Proof sketch.** No setting hangs on another, so values that each stand for what the table says can
be put together. -/
theorem exists_read_iff {members : Json.Members} (h : IsTable members) :
    (∃ s, read (.object members) = .ok s) ↔
      ∀ (x : Setting) (v : Json), x.given? members = some v → ∃ a, v = x.kind.toJson a := by
  simp only [read_eq_ok_iff h]
  constructor
  · rintro ⟨s, hall⟩ x v hv
    have hstands := hall x
    rw [hv] at hstands
    exact ⟨x.get s, hstands⟩
  · intro hkinds
    have hvalue (x : Setting) : ∃ a, x.Stands a (x.given? members) := by
      cases hgiven : x.given? members with
      | none => exact ⟨x.default, rfl⟩
      | some v => exact hkinds x v hgiven
    choose value hstands using hvalue
    refine ⟨Setting.together value, fun x => ?_⟩
    rw [Setting.get_together]
    exact hstands x

/-- **Nothing else matters**: tables that say the same of each setting are read as the same. -/
theorem read_congr {members members' : Json.Members} (h : IsTable members) (h' : IsTable members')
    (hgiven : ∀ x : Setting, x.given? members' = x.given? members) (s : Settings) :
    read (.object members') = .ok s ↔ read (.object members) = .ok s := by
  simp only [read_eq_ok_iff h, read_eq_ok_iff h', hgiven]

end Settings

end CampusBoard
