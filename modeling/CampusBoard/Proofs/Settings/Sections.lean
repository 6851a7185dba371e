import CampusBoard.Proofs.Decode.Records
import CampusBoard.Proofs.Decode.Scalars
import CampusBoard.Settings.Json
import Mathlib.Tactic.Common
import Mathlib.Tactic.Lemma

/-!
# Sections from their members

Each section of the settings is read from an object with its values.

## Main results

* `CampusBoard.SearchSettings.reads`, `CampusBoard.AccountSettings.reads`,
  `CampusBoard.ReviewSettings.reads`, `CampusBoard.LimitSettings.reads`,
  `CampusBoard.EndpointSettings.reads`: the members of each section.
* `CampusBoard.Settings.reads`: the sections of all settings.
-/

set_option autoImplicit false

namespace CampusBoard

open Decode

/-! ## Sections -/

/-- The members of the search section. -/
theorem SearchSettings.reads (s : SearchSettings) :
    SearchSettings.shape.Reads
      [("page_size", ofNat s.pageSize.val.toNat), ("highlight_pre_tag", .text s.preTag),
        ("highlight_post_tag", .text s.postTag)] s :=
  Shape.reads_ofConstructor "SearchSettings" SearchSettings.mk
    |>.present (by decide) (pageSize_eq_ok_iff.mpr rfl) _
    |>.present (by decide) (text_text s.preTag) _
    |>.present (by decide) (text_text s.postTag) _

/-- The members of the account section. -/
theorem AccountSettings.reads (s : AccountSettings) :
    AccountSettings.shape.Reads
      [("max_chars", ofNat s.maxChars.toNat),
        ("min_password_length", ofNat s.minPasswordLength.toNat),
        ("code_length", ofNat s.codeLength.toNat), ("email_domain", .text s.emailDomain),
        ("error_max_chars", ofNat s.errorMaxChars.toNat)] s :=
  Shape.reads_ofConstructor "AccountConfig" AccountSettings.mk
    |>.present (by decide) (count_eq_ok_iff.mpr rfl) _
    |>.present (by decide) (count_eq_ok_iff.mpr rfl) _
    |>.present (by decide) (count_eq_ok_iff.mpr rfl) _
    |>.present (by decide) (text_text s.emailDomain) _
    |>.present (by decide) (count_eq_ok_iff.mpr rfl) _

/-- The members of the review section. -/
theorem ReviewSettings.reads (s : ReviewSettings) :
    ReviewSettings.shape.Reads
      [("min_chars", ofNat s.minChars.toNat), ("max_chars", ofNat s.maxChars.toNat),
        ("max_thumbs", ofNat s.maxThumbs.toNat),
        ("thumbs_flush_ms", ofNat s.thumbsFlushMs.toNat)] s :=
  Shape.reads_ofConstructor "ReviewsConfig" ReviewSettings.mk
    |>.present (by decide) (count_eq_ok_iff.mpr rfl) _
    |>.present (by decide) (count_eq_ok_iff.mpr rfl) _
    |>.present (by decide) (count_eq_ok_iff.mpr rfl) _
    |>.present (by decide) (uint64_eq_ok_iff.mpr rfl) _

/-- The members of the section of pauses. -/
theorem LimitSettings.reads (s : LimitSettings) :
    LimitSettings.shape.Reads
      [("auth_cooldown_ms", ofNat s.authCooldownMs.toNat),
        ("post_cooldown_ms", ofNat s.postCooldownMs.toNat)] s :=
  Shape.reads_ofConstructor "LimitsConfig" LimitSettings.mk
    |>.present (by decide) (uint64_eq_ok_iff.mpr rfl) _
    |>.present (by decide) (uint64_eq_ok_iff.mpr rfl) _

/-- The members of the section of addresses; a missing key has none. -/
theorem EndpointSettings.reads (s : EndpointSettings) :
    EndpointSettings.shape.Reads
      ([("meili_url", .text s.indexUrl)] ++ member? "meili_key" Json.text s.indexKey ++
        [("swap_backend", .text s.swapBackend), ("housing_backend", .text s.housingBackend),
          ("home_backend", .text s.homeBackend)]) s := by
  obtain ⟨indexUrl, indexKey, swapBackend, housingBackend, homeBackend⟩ := s
  have hurl : (Shape.withDefault _ "meili_url" text _).Reads [("meili_url", .text indexUrl)]
      (EndpointSettings.mk indexUrl) :=
    Shape.reads_ofConstructor "EndpointsConfig" EndpointSettings.mk
      |>.present (by decide) (text_text indexUrl) (some ({} : EndpointSettings).indexUrl)
  cases indexKey with
  | none =>
    exact hurl.absent (by decide) none
      |>.present (by decide) (text_text swapBackend) _
      |>.present (by decide) (text_text housingBackend) _
      |>.present (by decide) (text_text homeBackend) _
  | some key =>
    have hkey : optional text (.text key) = .ok (some key) := rfl
    exact hurl.present (by decide) hkey _
      |>.present (by decide) (text_text swapBackend) _
      |>.present (by decide) (text_text housingBackend) _
      |>.present (by decide) (text_text homeBackend) _

/-! ## All settings -/

/-- The members of all settings are their sections. -/
theorem Settings.reads {s : Settings} {search account reviews limits endpoints : Json.Members}
    (hsearch : SearchSettings.shape.Reads search s.search)
    (haccount : AccountSettings.shape.Reads account s.account)
    (hreviews : ReviewSettings.shape.Reads reviews s.reviews)
    (hlimits : LimitSettings.shape.Reads limits s.limits)
    (hendpoints : EndpointSettings.shape.Reads endpoints s.endpoints) :
    Settings.shape.Reads
      [("search", .object search), ("account", .object account), ("reviews", .object reviews),
        ("limits", .object limits), ("endpoints", .object endpoints)] s :=
  Shape.reads_ofConstructor "AppConfig" Settings.mk
    |>.present (by decide) hsearch.read _
    |>.present (by decide) haccount.read _
    |>.present (by decide) hreviews.read _
    |>.present (by decide) hlimits.read _
    |>.present (by decide) hendpoints.read _

end CampusBoard
