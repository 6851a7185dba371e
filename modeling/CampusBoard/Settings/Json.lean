import CampusBoard.Decode.Record
import CampusBoard.Settings.Basic

/-!
# Settings as JSON

Each section and the whole can be read from an object that says only what differs from the
defaults.

## Main definitions

* `CampusBoard.Settings.shape`: the sections, and with it the way to read all settings.
* `CampusBoard.Settings.read`, `CampusBoard.Settings.toJson`: the reader and the writer.
-/

set_option autoImplicit false

namespace CampusBoard

/-- The fields of the search section. -/
def SearchSettings.shape : Decode.Shape SearchSettings :=
  let standard : SearchSettings := {}
  Decode.Shape.ofConstructor "SearchSettings" SearchSettings.mk
    |>.withDefault "page_size" Decode.pageSize standard.pageSize
    |>.withDefault "highlight_pre_tag" Decode.text standard.preTag
    |>.withDefault "highlight_post_tag" Decode.text standard.postTag

/-- The fields of the account section. -/
def AccountSettings.shape : Decode.Shape AccountSettings :=
  let standard : AccountSettings := {}
  Decode.Shape.ofConstructor "AccountConfig" AccountSettings.mk
    |>.withDefault "max_chars" Decode.count standard.maxChars
    |>.withDefault "min_password_length" Decode.count standard.minPasswordLength
    |>.withDefault "code_length" Decode.count standard.codeLength
    |>.withDefault "email_domain" Decode.text standard.emailDomain
    |>.withDefault "error_max_chars" Decode.count standard.errorMaxChars

/-- The fields of the review section. -/
def ReviewSettings.shape : Decode.Shape ReviewSettings :=
  let standard : ReviewSettings := {}
  Decode.Shape.ofConstructor "ReviewsConfig" ReviewSettings.mk
    |>.withDefault "min_chars" Decode.count standard.minChars
    |>.withDefault "max_chars" Decode.count standard.maxChars
    |>.withDefault "max_thumbs" Decode.count standard.maxThumbs
    |>.withDefault "thumbs_flush_ms" Decode.uint64 standard.thumbsFlushMs

/-- The fields of the section of pauses. -/
def LimitSettings.shape : Decode.Shape LimitSettings :=
  let standard : LimitSettings := {}
  Decode.Shape.ofConstructor "LimitsConfig" LimitSettings.mk
    |>.withDefault "auth_cooldown_ms" Decode.uint64 standard.authCooldownMs
    |>.withDefault "post_cooldown_ms" Decode.uint64 standard.postCooldownMs

/-- The fields of the section of addresses. -/
def EndpointSettings.shape : Decode.Shape EndpointSettings :=
  let standard : EndpointSettings := {}
  Decode.Shape.ofConstructor "EndpointsConfig" EndpointSettings.mk
    |>.withDefault "meili_url" Decode.text standard.indexUrl
    |>.optional "meili_key" Decode.text
    |>.withDefault "swap_backend" Decode.text standard.swapBackend
    |>.withDefault "housing_backend" Decode.text standard.housingBackend
    |>.withDefault "home_backend" Decode.text standard.homeBackend

/-- The search section as a JSON value. -/
def SearchSettings.toJson (s : SearchSettings) : Json :=
  .object [("page_size", Decode.ofNat s.pageSize.get), ("highlight_pre_tag", .text s.preTag),
    ("highlight_post_tag", .text s.postTag)]

/-- The account section as a JSON value. -/
def AccountSettings.toJson (s : AccountSettings) : Json :=
  .object [("max_chars", Decode.ofNat s.maxChars.toNat),
    ("min_password_length", Decode.ofNat s.minPasswordLength.toNat),
    ("code_length", Decode.ofNat s.codeLength.toNat), ("email_domain", .text s.emailDomain),
    ("error_max_chars", Decode.ofNat s.errorMaxChars.toNat)]

/-- The review section as a JSON value. -/
def ReviewSettings.toJson (s : ReviewSettings) : Json :=
  .object [("min_chars", Decode.ofNat s.minChars.toNat),
    ("max_chars", Decode.ofNat s.maxChars.toNat), ("max_thumbs", Decode.ofNat s.maxThumbs.toNat),
    ("thumbs_flush_ms", Decode.ofNat s.thumbsFlushMs.toNat)]

/-- The section of pauses as a JSON value. -/
def LimitSettings.toJson (s : LimitSettings) : Json :=
  .object [("auth_cooldown_ms", Decode.ofNat s.authCooldownMs.toNat),
    ("post_cooldown_ms", Decode.ofNat s.postCooldownMs.toNat)]

/-- The section of addresses as a JSON value; a missing key is null. -/
def EndpointSettings.toJson (s : EndpointSettings) : Json :=
  .object [("meili_url", .text s.indexUrl),
    ("meili_key", match s.indexKey with | some key => .text key | none => .null),
    ("swap_backend", .text s.swapBackend), ("housing_backend", .text s.housingBackend),
    ("home_backend", .text s.homeBackend)]

namespace Settings

/-- The sections. -/
def shape : Decode.Shape Settings :=
  Decode.Shape.ofConstructor "AppConfig" Settings.mk
    |>.withDefault "search" SearchSettings.shape.read {}
    |>.withDefault "account" AccountSettings.shape.read {}
    |>.withDefault "reviews" ReviewSettings.shape.read {}
    |>.withDefault "limits" LimitSettings.shape.read {}
    |>.withDefault "endpoints" EndpointSettings.shape.read {}

/-- Reads all settings over the defaults. -/
def read : Decode.Reader Settings := shape.read

/-- All settings as a JSON value. -/
def toJson (s : Settings) : Json :=
  .object [("search", s.search.toJson), ("account", s.account.toJson),
    ("reviews", s.reviews.toJson), ("limits", s.limits.toJson),
    ("endpoints", s.endpoints.toJson)]

end Settings

end CampusBoard
