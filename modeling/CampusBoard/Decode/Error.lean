import CampusBoard.Forms.Error
import CampusBoard.Json.Basic
import CampusBoard.Reviews.Id
import CampusBoard.Settings.PageSize

/-!
# Why a JSON value cannot be read

## Main definitions

* `CampusBoard.Width`: the widths of unsigned numbers.
* `CampusBoard.Expected`: what a place asks for.
* `CampusBoard.DecodeError`: the reasons for which a value does not fit its place.
* `CampusBoard.DecodeError.message`: the text of such a reason.
-/

set_option autoImplicit false

namespace CampusBoard

/-- The widths of unsigned numbers. -/
inductive Width
  /-- Eight bits. -/
  | w8
  /-- Sixteen bits. -/
  | w16
  /-- Thirty-two bits. -/
  | w32
  /-- Sixty-four bits. -/
  | w64
  /-- As wide as a count of things in memory, sixty-four bits. -/
  | count
  deriving DecidableEq, Repr

/-- The number of values of a width. -/
def Width.bound : Width → Nat
  | .w8 => UInt8.size
  | .w16 => UInt16.size
  | .w32 => UInt32.size
  | .w64 => UInt64.size
  | .count => UInt64.size

/-- The name of a width in messages. -/
def Width.name : Width → String
  | .w8 => "u8"
  | .w16 => "u16"
  | .w32 => "u32"
  | .w64 => "u64"
  | .count => "usize"

/-- What a place asks for. -/
inductive Expected
  /-- A text. -/
  | text
  /-- An object of any members. -/
  | map
  /-- An unsigned number. -/
  | unsigned (width : Width)
  /-- A record by its name. -/
  | record (name : String)
  /-- A list. -/
  | sequence
  /-- A label, alone or as the name of an object's only member. -/
  | label
  /-- Nothing beside a label. -/
  | nothing
  deriving DecidableEq, Repr

/-- The words of a message for what a place asks for. -/
def Expected.message : Expected → String
  | .text => "a string"
  | .map => "a map"
  | .unsigned width => width.name
  | .record name => "struct " ++ name
  | .sequence => "a sequence"
  | .label => "string or map"
  | .nothing => "unit"

/-- The words of a message for a value that was found. -/
def Json.described : Json → String
  | .null => "null"
  | .bool true => "boolean `true`"
  | .bool false => "boolean `false`"
  | .integer n => "integer `" ++ toString n ++ "`"
  | .real x => "floating point `" ++ x.text ++ "`"
  | .text s => "string " ++ Text.quoted s
  | .list _ => "sequence"
  | .object _ => "map"

/-- The labels of a vocabulary as a choice: one alone, two joined by a word, more as a list. -/
def choiceOf : List String → String
  | [] => "there are no variants"
  | [one] => "expected `" ++ one ++ "`"
  | [one, other] => "expected `" ++ one ++ "` or `" ++ other ++ "`"
  | labels => "expected one of " ++ ", ".intercalate (labels.map fun l => "`" ++ l ++ "`")

/-- Why a JSON value does not fit its place. -/
inductive DecodeError
  /-- The value is of another kind. -/
  | wrongKind (found : Json) (expected : Expected)
  /-- The number lies outside the width. -/
  | outOfRange (found : Int) (width : Width)
  /-- The object for a label does not have exactly one member. -/
  | notSingleKey
  /-- No member of the vocabulary has this label. -/
  | unknownLabel (found : String) (labels : List String)
  /-- A record lacks a member that has no default. -/
  | missingField (name : String)
  /-- A record has a member twice. -/
  | duplicateField (name : String)
  /-- The list for a record ends at a field that has no default. -/
  | listTooShort (position : Nat) (record : String) (size : Nat)
  /-- The list for a record has more items than the record has fields. -/
  | listTooLong (length : Nat)
  /-- The value is refused by the rules of its type. -/
  | refused (reason : ValidationError)
  /-- The text is no identifier of a review. -/
  | refusedId (reason : ReviewIdError)
  /-- The number is no page size. -/
  | refusedPageSize (reason : PageSizeError)

/-- The text of a reason. -/
def DecodeError.message : DecodeError → String
  | .wrongKind found expected =>
    "invalid type: " ++ found.described ++ ", expected " ++ expected.message
  | .outOfRange found width =>
    "invalid value: integer `" ++ toString found ++ "`, expected " ++ width.name
  | .notSingleKey => "invalid value: map, expected map with a single key"
  | .unknownLabel found labels => "unknown variant `" ++ found ++ "`, " ++ choiceOf labels
  | .missingField name => "missing field `" ++ name ++ "`"
  | .duplicateField name => "duplicate field `" ++ name ++ "`"
  | .listTooShort position record size =>
    "invalid length " ++ toString position ++ ", expected struct " ++ record ++ " with " ++
      toString size ++ " elements"
  | .listTooLong length =>
    "invalid length " ++ toString length ++ ", expected fewer elements in array"
  | .refused reason => reason.message
  | .refusedId reason => reason.message ++ " Expected valid ReviewId"
  | .refusedPageSize reason => reason.message ++ " Expected valid PageSize"

end CampusBoard
