import CampusBoard.Text.Blank

/-!
# Identifiers of reviews

An identifier is a text of one to sixty-four characters without blanks at its ends. It is made from
any text by trimming.

## Main definitions

* `CampusBoard.ReviewId`: an identifier.
* `CampusBoard.ReviewId.ofText`: the identifier that a text stands for.

## Main results

* `CampusBoard.ReviewId.ofText_text`: an identifier's own text stands for it.
-/

set_option autoImplicit false

namespace CampusBoard

/-- Why a text is no identifier of a review. -/
inductive ReviewIdError
  /-- Nothing is left after trimming. -/
  | empty
  /-- More than sixty-four characters are left after trimming. -/
  | tooLong
  deriving DecidableEq, Repr

/-- The text of the error. -/
def ReviewIdError.message : ReviewIdError → String
  | .empty => "ReviewId is empty."
  | .tooLong => "ReviewId is too long: the maximum valid length is 64 characters."

/-- The identifier of a review. -/
structure ReviewId where
  /-- The identifier as text. -/
  text : String
  /-- There are no blanks at its ends. -/
  trim_text : Text.trim text = text
  /-- There is at least one character. -/
  text_ne_empty : text ≠ ""
  /-- There are at most sixty-four characters. -/
  length_le : text.length ≤ 64
  deriving DecidableEq, Repr

namespace ReviewId

/-- The identifier that `s` stands for once it is trimmed. -/
def ofText (s : String) : Except ReviewIdError ReviewId :=
  if hempty : Text.trim s = "" then .error .empty
  else if hlong : (Text.trim s).length ≤ 64 then
    .ok ⟨Text.trim s, Text.trim_trim s, hempty, hlong⟩
  else .error .tooLong

/-- Identifiers are ordered as their texts are, by code points. -/
instance : LT ReviewId := ⟨fun a b => a.text < b.text⟩

instance (a b : ReviewId) : Decidable (a < b) :=
  inferInstanceAs (Decidable (a.text < b.text))

/-- The text of an identifier stands for the identifier. -/
theorem ofText_text (id : ReviewId) : ofText id.text = .ok id := by
  obtain ⟨text, trimmed, nonempty, short⟩ := id
  simp [ofText, trimmed, nonempty, short]

/-- The text of an identifier is what it was read from, trimmed. -/
theorem text_of_ofText {s : String} {id : ReviewId} (h : ofText s = .ok id) :
    id.text = Text.trim s := by
  unfold ofText at h
  split at h
  · simp at h
  · split at h
    · cases h; rfl
    · simp at h

end ReviewId

end CampusBoard
