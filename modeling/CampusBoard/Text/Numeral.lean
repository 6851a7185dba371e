/-!
# Numerals

Natural numbers are written in base ten without leading zeros. Some places pad them with zeros to
a least width, and some read them back under a bound.

## Main definitions

* `CampusBoard.Text.padded`: a numeral of at least a given width.
* `CampusBoard.Text.numeralValue`: the number that a list of digits stands for.
* `CampusBoard.Text.unsigned?`: reads a numeral below a bound, with an optional plus sign.
-/

set_option autoImplicit false

namespace CampusBoard.Text

/-- The digits of `n`, with leading zeros up to `width` characters. -/
def padded (width n : Nat) : List Char :=
  let digits := Nat.toDigits 10 n
  List.replicate (width - digits.length) '0' ++ digits

/-- The number that the ASCII digits `digits` stand for in base ten. -/
def numeralValue (digits : List Char) : Nat :=
  Nat.ofDigitChars 10 digits 0

/-- The characters after a single leading plus sign, if there is one. -/
def withoutPlus : List Char → List Char
  | '+' :: rest => rest
  | cs => cs

/-- The number below `bound` that `cs` stands for: an optional plus sign, then ASCII digits, at
least one. Leading zeros are allowed. -/
def unsigned? (bound : Nat) (cs : List Char) : Option Nat :=
  let digits := withoutPlus cs
  if !digits.isEmpty && digits.all Char.isDigit && numeralValue digits < bound then
    some (numeralValue digits)
  else none

/-- The decimal digits of a number stand for the number. -/
theorem numeralValue_toDigits (n : Nat) : numeralValue (Nat.toDigits 10 n) = n :=
  Nat.ofDigitChars_ten_toDigits

end CampusBoard.Text
