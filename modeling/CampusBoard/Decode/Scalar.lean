import CampusBoard.Decode.Error
import CampusBoard.Labelled
import CampusBoard.Reviews.Rating

/-!
# Reading and writing single values

A reader turns a JSON value into a value of a type or says why it cannot. Beside each reader stands
the writer whose values it reads back.

## Main definitions

* `CampusBoard.Decode.Reader`: readers of a type.
* `CampusBoard.Decode.text`, `CampusBoard.Decode.unsigned`, `CampusBoard.Decode.label`,
  `CampusBoard.Decode.starRating`, `CampusBoard.Decode.reviewId`, `CampusBoard.Decode.pageSize`:
  readers of single values.
* `CampusBoard.Decode.optional`, `CampusBoard.Decode.listOf`: readers made from readers.
-/

set_option autoImplicit false

namespace CampusBoard.Decode

/-- A reader of values of type `α`. -/
abbrev Reader (α : Type) := Json → Except DecodeError α

/-- Reads a text. -/
def text : Reader String
  | .text s => .ok s
  | found => .error (.wrongKind found .text)

/-- Reads an object as it is. -/
def anyObject : Reader Json.Members
  | .object members => .ok members
  | found => .error (.wrongKind found .map)

/-- Reads an unsigned number of a width. -/
def unsigned (width : Width) : Reader Nat
  | .integer n =>
    if 0 ≤ n ∧ n < width.bound then .ok n.toNat else .error (.outOfRange n width)
  | found => .error (.wrongKind found (.unsigned width))

/-- Reads a number of eight bits. -/
def uint8 : Reader UInt8 := fun found => (unsigned .w8 found).map UInt8.ofNat

/-- Reads a number of sixteen bits. -/
def uint16 : Reader UInt16 := fun found => (unsigned .w16 found).map UInt16.ofNat

/-- Reads a number of thirty-two bits. -/
def uint32 : Reader UInt32 := fun found => (unsigned .w32 found).map UInt32.ofNat

/-- Reads a number of sixty-four bits. -/
def uint64 : Reader UInt64 := fun found => (unsigned .w64 found).map UInt64.ofNat

/-- Reads a number that counts things in memory. -/
def count : Reader UInt64 := fun found => (unsigned .count found).map UInt64.ofNat

/-- The member of a vocabulary labelled `s`. -/
def labelled (α : Type) [Labelled α] (s : String) : Except DecodeError α :=
  match Labelled.ofLabel? s with
  | some a => .ok a
  | none => .error (.unknownLabel s (Labelled.labels α))

/-- Reads a member of a vocabulary: its label, or an object whose only member has the label as its
name and null as its value. -/
def label {α : Type} [Labelled α] : Reader α
  | .text s => labelled α s
  | .object [(name, value)] =>
    match labelled α name, value with
    | .ok a, .null => .ok a
    | .ok _, found => .error (.wrongKind found .nothing)
    | .error e, _ => .error e
  | .object _ => .error .notSingleKey
  | found => .error (.wrongKind found .label)

/-- Reads a star rating from the number under which it is stored. -/
def starRating : Reader StarRating := fun found => do
  let n ← unsigned .w16 found
  (StarRating.ofHundreds n).mapError .refused

/-- Reads the identifier of a review from a text, which is trimmed. -/
def reviewId : Reader ReviewId := fun found => do
  let s ← text found
  (ReviewId.ofText s).mapError .refusedId

/-- Reads a page size. -/
def pageSize : Reader PageSize := fun found => do
  let n ← count found
  (PageSize.ofUInt64 n).mapError .refusedPageSize

/-- Reads a value that may be null. -/
def optional {α : Type} (read : Reader α) : Reader (Option α)
  | .null => .ok none
  | found => (read found).map some

/-- Reads a list item by item; the first item that cannot be read decides. -/
def listOf {α : Type} (read : Reader α) : Reader (List α)
  | .list items => items.mapM read
  | found => .error (.wrongKind found .sequence)

/-! ## Writers -/

/-- An unsigned number as a JSON value. -/
def ofNat (n : Nat) : Json := .integer n

/-- A member of a vocabulary as a JSON value. -/
def ofLabel {α : Type} [Labelled α] (a : α) : Json := .text (Labelled.label a)

/-- A star rating as a JSON value. -/
def ofStarRating (r : StarRating) : Json := .integer r.hundreds.toNat

/-- The member of an object for a value that may be absent; absent values have none. -/
def member? {α : Type} (name : String) (write : α → Json) : Option α → Json.Members
  | some a => [(name, write a)]
  | none => []

/-- A text is read back. -/
theorem text_text (s : String) : text (.text s) = .ok s := rfl

/-- A number of the width is read back. -/
theorem unsigned_ofNat {width : Width} {n : Nat} (h : n < width.bound) :
    unsigned width (ofNat n) = .ok n := by
  have : (n : Int) < width.bound := by exact_mod_cast h
  simp [unsigned, ofNat, this]

/-- A member of a vocabulary is read back from its label. -/
theorem label_ofLabel {α : Type} [Labelled α] (a : α) : label (ofLabel a) = .ok a := by
  simp [label, ofLabel, labelled, Labelled.ofLabel?_label]

end CampusBoard.Decode
