import CampusBoard.Json.Basic

/-!
# Writing JSON text

Values are written without spaces, members in the order in which the object holds them.

## Main definitions

* `CampusBoard.Json.render`: the text of a value.
-/

set_option autoImplicit false

namespace CampusBoard.Json

/-- The written form of a character inside a text. -/
def renderChar (c : Char) : List Char :=
  if c = '"' then ['\\', '"']
  else if c = '\\' then ['\\', '\\']
  else if c = '\n' then ['\\', 'n']
  else if c = '\r' then ['\\', 'r']
  else if c = '\t' then ['\\', 't']
  else if c.toNat < 0x20 then
    let digits := Nat.toDigits 16 c.toNat
    ['\\', 'u'] ++ List.replicate (4 - digits.length) '0' ++ digits
  else [c]

/-- The written form of a text. -/
def renderText (s : String) : List Char :=
  ['"'] ++ s.toList.flatMap renderChar ++ ['"']

mutual

/-- The characters of a value. -/
def renderChars : Json → List Char
  | .null => ['n', 'u', 'l', 'l']
  | .bool true => ['t', 'r', 'u', 'e']
  | .bool false => ['f', 'a', 'l', 's', 'e']
  | .integer n => (toString n).toList
  | .real x => if x.isFinite then x.text.toList else ['n', 'u', 'l', 'l']
  | .text s => renderText s
  | .list items => ['['] ++ renderItems items ++ [']']
  | .object members => ['\x7b'] ++ renderMembers members ++ ['\x7d']
termination_by structural value => value

/-- The characters of the items of a list, with commas between them. -/
def renderItems : List Json → List Char
  | [] => []
  | [item] => renderChars item
  | item :: next :: rest => renderChars item ++ [','] ++ renderItems (next :: rest)
termination_by structural items => items

/-- The characters of the members of an object, with commas between them. -/
def renderMembers : Members → List Char
  | [] => []
  | [member] => renderMember member
  | member :: next :: rest => renderMember member ++ [','] ++ renderMembers (next :: rest)
termination_by structural members => members

/-- The characters of one member. -/
def renderMember : String × Json → List Char
  | (name, value) => renderText name ++ [':'] ++ renderChars value
termination_by structural member => member

end

/-- The text of a value. -/
def render (value : Json) : String :=
  String.ofList value.renderChars

end CampusBoard.Json
