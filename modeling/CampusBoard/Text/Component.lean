/-!
# Components of a link

A text becomes part of a link's query by writing every byte of its UTF-8 form, the unreserved
characters apart, as a per cent sign and two upper-case hexadecimal digits.

## Main definitions

* `CampusBoard.Text.isUnreserved`: the characters that stand for themselves.
* `CampusBoard.Text.encodeComponent`: the encoded form of a text.
* `CampusBoard.Text.decodeComponent`: the bytes that an encoded form stands for.
-/

set_option autoImplicit false

namespace CampusBoard.Text

/-- The marks that stand for themselves beside the ASCII letters and digits. -/
def unreservedMarks : List Char :=
  ['-', '_', '.', '!', '~', '*', '\x27', '(', ')']

/-- Whether `c` stands for itself in a link's query. -/
def isUnreserved (c : Char) : Bool :=
  c.isAlphanum || unreservedMarks.contains c

/-- The hexadecimal digits in upper case. -/
def upperHexDigits : List Char :=
  ['0', '1', '2', '3', '4', '5', '6', '7', '8', '9', 'A', 'B', 'C', 'D', 'E', 'F']

/-- The upper-case hexadecimal digit of `n`, for `n` below sixteen. -/
def upperHexDigit (n : Nat) : Char :=
  upperHexDigits.getD n '0'

/-- A byte as a per cent sign and two upper-case hexadecimal digits. -/
def encodeByte (b : UInt8) : List Char :=
  ['%', upperHexDigit (b.toNat / 16), upperHexDigit (b.toNat % 16)]

/-- An unreserved character as itself, any other as the encoded bytes of its UTF-8 form. -/
def encodeChar (c : Char) : List Char :=
  if isUnreserved c then [c] else (String.utf8EncodeChar c).flatMap encodeByte

/-- The encoded form of `s`. -/
def encodeComponent (s : String) : String :=
  String.ofList (s.toList.flatMap encodeChar)

/-- The value of an upper-case hexadecimal digit. -/
def upperHexValue? (c : Char) : Option Nat :=
  upperHexDigits.idxOf? c

/-- The bytes that an encoded form stands for: a triplet is the byte it names, another character
its own UTF-8 form. -/
def decodeComponent : List Char → Option (List UInt8)
  | [] => some []
  | '%' :: h :: l :: rest => do
    let high ← upperHexValue? h
    let low ← upperHexValue? l
    let bytes ← decodeComponent rest
    return UInt8.ofNat (16 * high + low) :: bytes
  | c :: rest =>
    if c = '%' then none else (decodeComponent rest).map (String.utf8EncodeChar c ++ ·)

end CampusBoard.Text
