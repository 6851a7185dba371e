import CampusBoard.Calendar.Date
import CampusBoard.Text.Blank

/-!
# Reading dates

A date is read from a timestamp, of which only the written day counts, or from a plain date.

## Main definitions

* `CampusBoard.Calendar.ofTimestamp?`: the day of a timestamp.
* `CampusBoard.Calendar.ofPlain?`: a plain date.
* `CampusBoard.Calendar.parse?`: either of them.
* `CampusBoard.Calendar.monthLabel?`: the month and year of a text that is a date.
-/

set_option autoImplicit false

namespace CampusBoard.Calendar

/-! ## Timestamps -/

/-- The number of two digits at the front, with what follows. -/
def twoDigits? : List Char → Option (Nat × List Char)
  | a :: b :: rest =>
    if a.isDigit && b.isDigit then some (Text.numeralValue [a, b], rest) else none
  | _ => none

/-- What follows one of the given characters. -/
def oneOf? (allowed : List Char) : List Char → Option (List Char)
  | c :: rest => if allowed.contains c then some rest else none
  | [] => none

/-- The four parts of `YYYY-MM-DD` at the front, the year in two halves, with what follows. -/
def dayParts? (cs : List Char) : Option ((Nat × Nat × Nat) × List Char) := do
  let (century, cs) ← twoDigits? cs
  let (yearOfCentury, cs) ← twoDigits? cs
  let cs ← oneOf? ['-'] cs
  let (month, cs) ← twoDigits? cs
  let cs ← oneOf? ['-'] cs
  let (day, cs) ← twoDigits? cs
  return ((100 * century + yearOfCentury, month, day), cs)

/-- What follows a time of day, in which a sixtieth second is allowed. -/
def afterClock? (cs : List Char) : Option (List Char) := do
  let (hour, cs) ← twoDigits? cs
  let cs ← oneOf? [':'] cs
  let (minute, cs) ← twoDigits? cs
  let cs ← oneOf? [':'] cs
  let (second, cs) ← twoDigits? cs
  if hour ≤ 23 && minute ≤ 59 && second ≤ 60 then some cs else none

/-- What follows an optional fraction of a second, which has at least one digit. -/
def afterFraction? : List Char → Option (List Char)
  | '.' :: rest =>
    if (rest.takeWhile Char.isDigit).isEmpty then none else some (rest.dropWhile Char.isDigit)
  | cs => some cs

/-- The signs of an offset: plus, hyphen and the minus of mathematics. -/
def offsetSigns : List Char := ['+', '-', Char.ofNat 0x2212]

/-- Whether the characters are an offset from universal time and nothing more. -/
def isOffset (cs : List Char) : Bool :=
  match cs with
  | ['Z'] => true
  | ['z'] => true
  | cs =>
    let read : Option Bool := do
      let cs ← oneOf? offsetSigns cs
      let (hours, cs) ← twoDigits? cs
      let cs ← oneOf? [':'] cs
      let (minutes, cs) ← twoDigits? cs
      return hours ≤ 23 && minutes ≤ 59 && cs.isEmpty
    read.getD false

/-- The day written in a timestamp. -/
def ofTimestamp? (cs : List Char) : Option Date := do
  let ((year, month, day), cs) ← dayParts? cs
  let cs ← oneOf? ['T', 't', ' '] cs
  let cs ← afterClock? cs
  let cs ← afterFraction? cs
  if isOffset cs then Date.of? year month day else none

/-! ## Plain dates -/

/-- The characters after the blanks at the front. -/
def skipBlanks (cs : List Char) : List Char :=
  cs.dropWhile Text.isBlank

/-- The number of up to `most` digits at the front, at least one, with what follows. -/
def upTo? (most : Nat) (cs : List Char) : Option (Nat × List Char) :=
  let digits := (cs.take most).takeWhile Char.isDigit
  if digits.isEmpty then none else some (Text.numeralValue digits, cs.drop digits.length)

/-- A year: up to four digits, or any number of digits after a sign. -/
def year? : List Char → Option (Int × List Char)
  | '+' :: rest => (upTo? rest.length rest).map fun (n, after) => ((n : Int), after)
  | '-' :: rest => (upTo? rest.length rest).map fun (n, after) => (-(n : Int), after)
  | cs => (upTo? 4 cs).map fun (n, after) => ((n : Int), after)

/-- A plain date: year, month and day joined by hyphens, blanks allowed before each of them. -/
def ofPlain? (cs : List Char) : Option Date := do
  let (year, cs) ← year? (skipBlanks cs)
  let cs ← oneOf? ['-'] cs
  let (month, cs) ← upTo? 2 (skipBlanks cs)
  let cs ← oneOf? ['-'] cs
  let (day, cs) ← upTo? 2 (skipBlanks cs)
  if cs.isEmpty then Date.of? year month day else none

/-! ## Both -/

/-- The date that a text stands for, as a timestamp or else as a plain date. -/
def parse? (s : String) : Option Date :=
  ofTimestamp? s.toList <|> ofPlain? s.toList

/-- The month and year of a text that is a date. -/
def monthLabel? (s : String) : Option String :=
  (parse? s).map Date.monthLabel

end CampusBoard.Calendar
