import CampusBoard.Settings.Basic

/-!
# Checking and repairing settings

Some settings would leave a form that nothing can pass. They are reported, and a repair puts the
defaults in their place, the two ends of a range together.

## Main definitions

* `CampusBoard.Settings.Complaint`: what can be wrong with settings.
* `CampusBoard.Settings.complaints`: what is wrong with given settings.
* `CampusBoard.Settings.repaired`: the settings with defaults for what is wrong.
-/

set_option autoImplicit false

namespace CampusBoard.Settings

/-- What can be wrong with settings. -/
inductive Complaint
  /-- Passwords may be empty. -/
  | minPasswordZero
  /-- The least length of a password exceeds the greatest. -/
  | minPasswordAboveMax
  /-- Codes have no digits. -/
  | codeLengthZero
  /-- The least length of a description exceeds the greatest. -/
  | reviewMinAboveMax
  /-- A batch of votes is full while it is empty. -/
  | maxThumbsZero
  deriving DecidableEq, Repr

/-- The text of a complaint. -/
def Complaint.message : Complaint → String
  | .minPasswordZero => "min_password_length must be at least 1"
  | .minPasswordAboveMax => "min_password_length must not exceed max_chars"
  | .codeLengthZero => "code_length must be at least 1"
  | .reviewMinAboveMax => "reviews.min_chars must not exceed reviews.max_chars"
  | .maxThumbsZero => "max_thumbs must be at least 1"

/-- All complaints in the order in which they are reported. -/
def Complaint.all : List Complaint :=
  [.minPasswordZero, .minPasswordAboveMax, .codeLengthZero, .reviewMinAboveMax, .maxThumbsZero]

/-- Whether a complaint applies to settings. -/
def Complaint.applies (s : Settings) : Complaint → Bool
  | .minPasswordZero => s.account.minPasswordLength == 0
  | .minPasswordAboveMax => decide (s.account.maxChars < s.account.minPasswordLength)
  | .codeLengthZero => s.account.codeLength == 0
  | .reviewMinAboveMax => decide (s.reviews.maxChars < s.reviews.minChars)
  | .maxThumbsZero => s.reviews.maxThumbs == 0

/-- The complaints that apply to settings. -/
def complaints (s : Settings) : List Complaint :=
  Complaint.all.filter (Complaint.applies s)

/-- The account section with the default lengths of passwords where the given ones leave none, and
the default length of codes where the given one is zero. -/
def repairedAccount (a : AccountSettings) : AccountSettings :=
  let standard : AccountSettings := {}
  let unusable := a.minPasswordLength == 0 || decide (a.maxChars < a.minPasswordLength)
  { a with
    maxChars := if unusable then standard.maxChars else a.maxChars
    minPasswordLength := if unusable then standard.minPasswordLength else a.minPasswordLength
    codeLength := if a.codeLength == 0 then standard.codeLength else a.codeLength }

/-- The review section with the default lengths of descriptions where the given ones leave none,
and the default size of batches where the given one is zero. -/
def repairedReviews (r : ReviewSettings) : ReviewSettings :=
  let standard : ReviewSettings := {}
  let unusable := decide (r.maxChars < r.minChars)
  { r with
    minChars := if unusable then standard.minChars else r.minChars
    maxChars := if unusable then standard.maxChars else r.maxChars
    maxThumbs := if r.maxThumbs == 0 then standard.maxThumbs else r.maxThumbs }

/-- The settings with defaults for what is wrong. -/
def repaired (s : Settings) : Settings :=
  { s with account := repairedAccount s.account, reviews := repairedReviews s.reviews }

end CampusBoard.Settings
