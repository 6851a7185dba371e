import CampusBoard.Calendar.Reader
import CampusBoard.Json.Reader
import CampusBoard.Toml.Value

/-!
# Plain values in a TOML document

Truth values, numbers, dates and times are written without quotes.

## Main definitions

* `CampusBoard.Toml.Scalar.integer?`, `CampusBoard.Toml.Scalar.float?`: numbers.
* `CampusBoard.Toml.Scalar.isMoment`: dates, times and both.
* `CampusBoard.Toml.Scalar.read?`: the value of a plain word.

## Design

Settings hold no date, so of a date or time only its being one is kept: it becomes an object with
its text as the only member.
-/

set_option autoImplicit false

namespace CampusBoard.Toml.Scalar

/-! ## Numbers -/

/-- The digits of a numeral without the underscores, each of which must stand between two
digits. -/
def digitGroups? (isDigit : Char → Bool) : List Char → Option (List Char)
  | [] => none
  | [c] => if isDigit c then some [c] else none
  | c :: '_' :: rest =>
    if isDigit c then (digitGroups? isDigit rest).map (c :: ·) else none
  | c :: rest => if isDigit c then (digitGroups? isDigit rest).map (c :: ·) else none

/-- The sign in front of a number, with what follows it. -/
def signed : List Char → Bool × List Char
  | '-' :: rest => (true, rest)
  | '+' :: rest => (false, rest)
  | cs => (false, cs)

/-- The digits of a decimal numeral, which has no leading zero. -/
def decimalDigits? (cs : List Char) : Option (List Char) := do
  let digits ← digitGroups? Char.isDigit cs
  if digits.head? == some '0' && digits.length != 1 then none else some digits

/-- The number that digits of a base up to sixteen stand for. -/
def valueInBase (base : Nat) (digits : List Char) : Nat :=
  digits.foldl (fun n c => n * base + (Json.Reader.hexValue? c).getD 0) 0

/-- Whether `c` is a digit of a base up to sixteen. -/
def isDigitOf (base : Nat) (c : Char) : Bool :=
  match Json.Reader.hexValue? c with
  | some n => n < base
  | none => false

/-- A whole number: in base sixteen, eight or two after a mark, or in base ten with an optional
sign. -/
def integer? : List Char → Option Int
  | '0' :: 'x' :: rest =>
    (digitGroups? (isDigitOf 16) rest).map fun ds => (valueInBase 16 ds : Int)
  | '0' :: 'o' :: rest => (digitGroups? (isDigitOf 8) rest).map fun ds => (valueInBase 8 ds : Int)
  | '0' :: 'b' :: rest => (digitGroups? (isDigitOf 2) rest).map fun ds => (valueInBase 2 ds : Int)
  | cs =>
    let (negative, cs) := signed cs
    (decimalDigits? cs).map fun ds =>
      if negative then -(Text.numeralValue ds : Int) else (Text.numeralValue ds : Int)

/-- Whether a whole number fits into 128 bits, with or without a sign. -/
def fits (n : Int) : Bool :=
  decide (-(Nat.pow 2 127 : Int) ≤ n ∧ n < (Nat.pow 2 128 : Int))

/-- A whole number as a value. -/
def ofInteger (n : Int) : Value :=
  if fits n then .plain (.integer n) else .tooLarge

/-- A number that was rounded as a value. -/
def ofReal : Option Binary64 → Value
  | some x => .plain (.real x)
  | none => .tooLarge

/-- The number nearest to `significand * 10 ^ exponent`, `none` when it is too large. -/
def nearest? (negative : Bool) (significand : Nat) (exponent : Int) : Option Binary64 :=
  let magnitude : Int := (Nat.toDigits 10 significand).length + exponent
  if significand = 0 ∨ magnitude < -400 then some (.ofBits negative 0)
  else if 400 < magnitude then none
  else if 0 ≤ exponent then
    Binary64.roundRatio? negative (significand * Nat.pow 10 exponent.toNat) 1
  else Binary64.roundRatio? negative significand (Nat.pow 10 (-exponent).toNat)

/-- Whether `c` begins an exponent. -/
def isExponentMark (c : Char) : Bool :=
  c == 'e' || c == 'E'

/-- The exponent after its mark. -/
def exponent? (cs : List Char) : Option Int :=
  let (negative, cs) := signed cs
  (digitGroups? Char.isDigit cs).map fun ds =>
    if negative then -(Text.numeralValue ds : Int) else (Text.numeralValue ds : Int)

/-- A number with a point, an exponent or both. -/
def decimal? (cs : List Char) : Option Value := do
  let (negative, cs) := signed cs
  let mantissa := cs.takeWhile fun c => !isExponentMark c
  let whole := mantissa.takeWhile (· != '.')
  let wholeDigits ← decimalDigits? whole
  let fractionDigits ← match mantissa.dropWhile (· != '.') with
    | [] => some []
    | _ :: fraction => digitGroups? Char.isDigit fraction
  let exponent ← match cs.dropWhile fun c => !isExponentMark c with
    | [] => if fractionDigits.isEmpty then none else some 0
    | _ :: exponent => exponent? exponent
  return ofReal (nearest? negative (Text.numeralValue (wholeDigits ++ fractionDigits))
    (exponent - fractionDigits.length))

/-- A number that is not whole: infinite, undefined or with a point or an exponent. -/
def float? (cs : List Char) : Option Value :=
  let (negative, rest) := signed cs
  if rest = ['i', 'n', 'f'] then
    some (.plain (.real (.ofBits negative Binary64.infinityBits)))
  else if rest = ['n', 'a', 'n'] then
    some (.plain (.real (.ofBits negative (Binary64.infinityBits + Nat.pow 2 51))))
  else decimal? cs

/-! ## Dates and times -/

/-- What follows a time of day, whose seconds may be left out. -/
def afterTime? (cs : List Char) : Option (List Char) := do
  let (hour, cs) ← Calendar.twoDigits? cs
  let cs ← Calendar.oneOf? [':'] cs
  let (minute, cs) ← Calendar.twoDigits? cs
  if 23 < hour || 59 < minute then none
  match cs with
  | ':' :: cs =>
    let (second, cs) ← Calendar.twoDigits? cs
    if 60 < second then none
    Calendar.afterFraction? cs
  | cs => some cs

/-- What follows a date that exists. -/
def afterDate? (cs : List Char) : Option (List Char) := do
  let ((year, month, day), cs) ← Calendar.dayParts? cs
  let _ ← Calendar.Date.of? year month day
  return cs

/-- Whether the characters are empty or an offset from universal time. -/
def isOptionalOffset (cs : List Char) : Bool :=
  cs.isEmpty || Calendar.isOffset cs

/-- Whether the characters are a date, a time of day, or a date and a time with an optional
offset. -/
def isMoment (cs : List Char) : Bool :=
  match afterDate? cs with
  | some [] => true
  | some (separator :: rest) =>
    ['T', 't', ' '].contains separator && ((afterTime? rest).map isOptionalOffset).getD false
  | none => ((afterTime? cs).map List.isEmpty).getD false

/-- A date or time as a value. -/
def ofMoment (cs : List Char) : Value :=
  .plain (.object [("datetime", .text (String.ofList cs))])

/-! ## Words -/

/-- The value of a plain word. -/
def read? (cs : List Char) : Option Value :=
  if cs = ['t', 'r', 'u', 'e'] then some (.plain (.bool true))
  else if cs = ['f', 'a', 'l', 's', 'e'] then some (.plain (.bool false))
  else match integer? cs with
    | some n => some (ofInteger n)
    | none =>
      match float? cs with
      | some value => some value
      | none => if isMoment cs then some (ofMoment cs) else none

/-- Whether `c` may stand in a plain word. -/
def isWordChar (c : Char) : Bool :=
  c.isAlphanum || c == '_' || c == '-' || c == '+' || c == '.' || c == ':'

/-- The plain word at the front, with what follows it. A date and a time of day with a single space
between them are one word. -/
def word (cs : List Char) : List Char × List Char :=
  let first := cs.takeWhile isWordChar
  let rest := cs.dropWhile isWordChar
  match afterDate? first, rest with
  | some [], ' ' :: c :: more =>
    if c.isDigit then
      (first ++ ' ' :: (c :: more).takeWhile isWordChar, (c :: more).dropWhile isWordChar)
    else (first, rest)
  | _, _ => (first, rest)

end CampusBoard.Toml.Scalar
