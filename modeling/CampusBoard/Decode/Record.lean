import CampusBoard.Decode.Scalar

/-!
# Reading records

A record is read from an object, member by member, or from a list of its fields in their order of
declaration.

## Main definitions

* `CampusBoard.Decode.Shape`: what is to be known of a record type to read it.
* `CampusBoard.Decode.Shape.required`, `CampusBoard.Decode.Shape.withDefault`,
  `CampusBoard.Decode.Shape.optional`: add a field to a shape.
* `CampusBoard.Decode.Shape.read`: the reader of a record.

## Design

A shape grows field by field from the constructor of the record type, as a function that still
waits for the later fields. The members of an object are first checked in the order in which they
stand, so that the first value that does not fit decides, whichever field it is for; members
without a field are passed over. Only then is the record built from them in the order of the
fields, where a field that is missing and has no default can fail.
-/

set_option autoImplicit false

namespace CampusBoard.Decode

/-- How values of `ρ` are put together from the fields named so far. -/
structure Shape (ρ : Type) where
  /-- The name of the record type in messages. -/
  record : String
  /-- The fields in their order of declaration. -/
  fields : List String
  /-- Why a value does not fit the field of that name. -/
  fault? : String → Json → Option DecodeError
  /-- Builds the value from the members of an object. -/
  build : (String → Option Json) → Except DecodeError ρ
  /-- Builds the value from the items at the front of a list. The first argument is the error for
  a list that ends too early, at the field with the given position. -/
  take : (Nat → DecodeError) → List Json → Except DecodeError (ρ × List Json)

/-- The reason for which a reader refuses a value. -/
def errorOf? {α : Type} (read : Reader α) (value : Json) : Option DecodeError :=
  match read value with
  | .ok _ => none
  | .error e => some e

namespace Shape

variable {α ρ : Type}

/-- The shape of a constructor before its first field. -/
def ofConstructor (record : String) (construct : ρ) : Shape ρ where
  record := record
  fields := []
  fault? _ _ := none
  build _ := .ok construct
  take _ items := .ok (construct, items)

/-- Adds a field. A field with a default takes it when the object has no such member or the list
has ended. -/
def field (s : Shape (α → ρ)) (name : String) (read : Reader α) (default? : Option α) :
    Shape ρ where
  record := s.record
  fields := s.fields ++ [name]
  fault? key value := if key = name then errorOf? read value else s.fault? key value
  build lookup := do
    let construct ← s.build lookup
    match lookup name, default? with
    | some value, _ => (read value).map construct
    | none, some default => .ok (construct default)
    | none, none => .error (.missingField name)
  take short items := do
    let (construct, items) ← s.take short items
    match items, default? with
    | item :: rest, _ => (read item).map fun a => (construct a, rest)
    | [], some default => .ok (construct default, [])
    | [], none => .error (short s.fields.length)

/-- Adds a field without a default. -/
def required (s : Shape (α → ρ)) (name : String) (read : Reader α) : Shape ρ :=
  s.field name read none

/-- Adds a field with a default. -/
def withDefault (s : Shape (α → ρ)) (name : String) (read : Reader α) (default : α) : Shape ρ :=
  s.field name read (some default)

/-- Adds a field that may be absent or null. -/
def optional (s : Shape (Option α → ρ)) (name : String) (read : Reader α) : Shape ρ :=
  s.field name (Decode.optional read) (some none)

/-- The first reason, in the order of the members, for which they do not fit their fields; `seen`
are the fields that had a member before. -/
def firstFault? (s : Shape ρ) (seen : List String) : Json.Members → Option DecodeError
  | [] => none
  | (key, value) :: rest =>
    if key ∈ s.fields then
      if key ∈ seen then some (.duplicateField key)
      else match s.fault? key value with
        | some e => some e
        | none => s.firstFault? (key :: seen) rest
    else s.firstFault? seen rest

/-- The record that the members of an object make up. -/
def ofMembers (s : Shape ρ) (members : Json.Members) : Except DecodeError ρ :=
  match s.firstFault? [] members with
  | some e => .error e
  | none => s.build members.lookup

/-- The record that the items of a list make up. Items beyond the last field are refused. -/
def ofItems (s : Shape ρ) (items : List Json) : Except DecodeError ρ := do
  let short position := .listTooShort position s.record s.fields.length
  let (value, rest) ← s.take short items
  if rest.isEmpty then .ok value else .error (.listTooLong items.length)

/-- The reader of a record. -/
def read (s : Shape ρ) : Reader ρ
  | .object members => s.ofMembers members
  | .list items => s.ofItems items
  | found => .error (.wrongKind found (.record s.record))

end Shape

end CampusBoard.Decode
