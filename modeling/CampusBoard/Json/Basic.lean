import CampusBoard.Number.Shortest

/-!
# JSON values

A JSON value keeps whole numbers and other numbers apart, and keeps the members of an object in
the order in which they were given.

## Main definitions

* `CampusBoard.Json`: a JSON value.
* `CampusBoard.Json.lookup`: the value of a member.
* `CampusBoard.Json.normal`: the same value with the members of every object sorted by name, the
  last one of a name kept.
-/

set_option autoImplicit false

namespace CampusBoard

/-- A JSON value. -/
inductive Json
  /-- The null value. -/
  | null
  /-- A truth value. -/
  | bool (b : Bool)
  /-- A whole number written without point and exponent. -/
  | integer (n : Int)
  /-- Any other number. -/
  | real (x : Binary64)
  /-- A text. -/
  | text (s : String)
  /-- A list of values. -/
  | list (items : List Json)
  /-- An object by its members. -/
  | object (members : List (String × Json))
  deriving Repr

instance : Inhabited Json := ⟨.null⟩

namespace Json

/-- The members of an object, in the order given. -/
abbrev Members := List (String × Json)

/-- The value of the first member called `name`. -/
def Members.lookup (name : String) : Members → Option Json
  | [] => none
  | (key, value) :: rest => if key = name then some value else lookup name rest

/-- Puts a member at its place in a list sorted by name, instead of one of the same name. -/
def Members.insert (name : String) (value : Json) : Members → Members
  | [] => [(name, value)]
  | (key, other) :: rest =>
    if name < key then (name, value) :: (key, other) :: rest
    else if name = key then (name, value) :: rest
    else (key, other) :: insert name value rest

/-- The member called `name` of an object. -/
def get? (name : String) : Json → Option Json
  | .object members => members.lookup name
  | _ => none

mutual

/-- The same value with the members of every object sorted by name, the last one of a name
kept. -/
def normal : Json → Json
  | .list items => .list (normalItems items)
  | .object members => .object (normalMembers [] members)
  | value => value
termination_by structural value => value

/-- The normal form of every item. -/
def normalItems : List Json → List Json
  | [] => []
  | item :: rest => normal item :: normalItems rest
termination_by structural items => items

/-- The members in `members` put one after another into the sorted list `sorted`. -/
def normalMembers (sorted : Members) : Members → Members
  | [] => sorted
  | member :: rest => normalMembers (sorted.insert member.1 (normalMember member)) rest
termination_by structural members => members

/-- The normal form of a member's value. -/
def normalMember : String × Json → Json
  | (_, value) => normal value
termination_by structural member => member

end

end Json

end CampusBoard
