import CampusBoard.Json.Basic

/-!
# Values in a TOML document

A document may hold numbers that are too large for any number of the settings. They only matter
where somebody looks at them, so they are kept as values of their own.

## Main definitions

* `CampusBoard.Toml.Value`: a value in a document.
* `CampusBoard.Toml.Value.toJson?`: a value all of whose parts are looked at.
-/

set_option autoImplicit false

namespace CampusBoard.Toml

/-- A value in a document. -/
inductive Value
  /-- A truth value, a number, a text, a date or a time. -/
  | plain (value : Json)
  /-- A number that is too large. -/
  | tooLarge
  /-- A list. -/
  | list (items : List Value)
  /-- A table by its entries. -/
  | table (entries : List (String × Value))

mutual

/-- The value as a JSON value, if it holds no number that is too large. -/
def Value.toJson? : Value → Option Json
  | .plain value => some value
  | .tooLarge => none
  | .list items => (itemsToJson? items).map .list
  | .table entries => (entriesToJson? entries).map .object
termination_by structural value => value

/-- The items of a list as JSON values. -/
def itemsToJson? : List Value → Option (List Json)
  | [] => some []
  | item :: rest =>
    match item.toJson?, itemsToJson? rest with
    | some first, some others => some (first :: others)
    | _, _ => none
termination_by structural items => items

/-- The entries of a table as members of an object. -/
def entriesToJson? : List (String × Value) → Option Json.Members
  | [] => some []
  | entry :: rest =>
    match entryToJson? entry, entriesToJson? rest with
    | some first, some others => some (first :: others)
    | _, _ => none
termination_by structural entries => entries

/-- An entry of a table as a member of an object. -/
def entryToJson? : String × Value → Option (String × Json)
  | (name, value) => value.toJson?.map fun json => (name, json)
termination_by structural entry => entry

end

end CampusBoard.Toml
