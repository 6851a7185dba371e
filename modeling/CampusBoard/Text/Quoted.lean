import CampusBoard.Text.Printable

/-!
# Quoted text

A text that is shown inside a message stands between double quotes, with everything that could be
misread written as an escape.

## Main definitions

* `CampusBoard.Text.escapedChar`: the written form of one character.
* `CampusBoard.Text.quoted`: the written form of a text.
-/

set_option autoImplicit false

namespace CampusBoard.Text

/-- The escape of a character by its code point, in lower-case hexadecimal without padding. -/
def codePointEscape (c : Char) : List Char :=
  ['\\', 'u', '\x7b'] ++ Nat.toDigits 16 c.toNat ++ ['\x7d']

/-- The written form of one character: the double quote, the backslash and four controls have
short escapes, other characters without a shape are escaped by their code point. -/
def escapedChar (c : Char) : List Char :=
  if c = '"' then ['\\', '"']
  else if c = '\\' then ['\\', '\\']
  else if c = '\n' then ['\\', 'n']
  else if c = '\r' then ['\\', 'r']
  else if c = '\t' then ['\\', 't']
  else if c = '\x00' then ['\\', '0']
  else if isPrintable c then [c]
  else codePointEscape c

/-- The text `s` between double quotes, with its characters escaped where needed. -/
def quoted (s : String) : String :=
  String.ofList (['"'] ++ s.toList.flatMap escapedChar ++ ['"'])

end CampusBoard.Text
