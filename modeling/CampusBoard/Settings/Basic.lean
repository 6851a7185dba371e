import CampusBoard.Settings.PageSize

/-!
# Settings

The settings come in five sections. Every value has a default, so a section says only what differs
from it.

## Main definitions

* `CampusBoard.SearchSettings`, `CampusBoard.AccountSettings`, `CampusBoard.ReviewSettings`,
  `CampusBoard.LimitSettings`, `CampusBoard.EndpointSettings`: the sections.
* `CampusBoard.Settings`: all of them.
-/

set_option autoImplicit false

namespace CampusBoard

/-- How results are paged and how matches are marked. -/
structure SearchSettings where
  /-- The number of hits on a page. -/
  pageSize : PageSize := .standard
  /-- What stands before a match. -/
  preTag : String := "<mark>"
  /-- What stands after a match. -/
  postTag : String := "</mark>"
  deriving DecidableEq, Repr, Inhabited

/-- The limits of the account forms. -/
structure AccountSettings where
  /-- The greatest length of an email or a password. -/
  maxChars : UInt64 := 100
  /-- The least length of a password. -/
  minPasswordLength : UInt64 := 10
  /-- The number of digits of a verification code. -/
  codeLength : UInt64 := 6
  /-- What an email must have after its at sign. -/
  emailDomain : String := "purdue.edu"
  /-- The greatest length of an error that is shown. -/
  errorMaxChars : UInt64 := 50
  deriving DecidableEq, Repr, Inhabited

/-- The limits of reviews and votes. -/
structure ReviewSettings where
  /-- The least length of a description. -/
  minChars : UInt64 := 10
  /-- The greatest length of a description. -/
  maxChars : UInt64 := 350
  /-- The number of pending votes that makes a batch full. -/
  maxThumbs : UInt64 := 20
  /-- The milliseconds that a vote may wait for its batch. -/
  thumbsFlushMs : UInt64 := 30000
  deriving DecidableEq, Repr, Inhabited

/-- The pauses between calls. -/
structure LimitSettings where
  /-- The milliseconds between two calls for an account. -/
  authCooldownMs : UInt64 := 500
  /-- The milliseconds between two posts of a review. -/
  postCooldownMs : UInt64 := 1000
  deriving DecidableEq, Repr, Inhabited

/-- Where the services are. -/
structure EndpointSettings where
  /-- The address of the search index. -/
  indexUrl : String := "http://localhost:7700"
  /-- The key for the search index, if it asks for one. -/
  indexKey : Option String := none
  /-- The address of the marketplace service. -/
  swapBackend : String := "http://localhost:8080/swap"
  /-- The address of the housing service. -/
  housingBackend : String := "http://localhost:8080/housing"
  /-- The address of the home page service. -/
  homeBackend : String := "http://localhost:8080/home"
  deriving DecidableEq, Repr, Inhabited

/-- All settings. -/
structure Settings where
  /-- How results are paged and how matches are marked. -/
  search : SearchSettings := {}
  /-- The limits of the account forms. -/
  account : AccountSettings := {}
  /-- The limits of reviews and votes. -/
  reviews : ReviewSettings := {}
  /-- The pauses between calls. -/
  limits : LimitSettings := {}
  /-- Where the services are. -/
  endpoints : EndpointSettings := {}
  deriving DecidableEq, Repr, Inhabited

end CampusBoard
