import CampusBoard.Text.Numeral

/-!
# Calendar dates

Dates of the Gregorian calendar, continued to the years before its introduction and to the years
zero and below.

## Main definitions

* `CampusBoard.Calendar.IsDate`: which years, months and days make up a date.
* `CampusBoard.Calendar.Date`: a date in the supported range of years.
* `CampusBoard.Calendar.Date.dayNumber`: the number of a date in the count of days.
* `CampusBoard.Calendar.Date.text`: the written form of a date.
-/

set_option autoImplicit false

namespace CampusBoard.Calendar

/-- Whether a year has a leap day: every fourth year, but of the centuries only every fourth. -/
def isLeap (year : Int) : Bool :=
  year % 4 == 0 && (year % 100 != 0 || year % 400 == 0)

/-- The number of days of a month; there is no month zero and none after the twelfth. -/
def daysInMonth (year : Int) : Nat → Nat
  | 1 | 3 | 5 | 7 | 8 | 10 | 12 => 31
  | 4 | 6 | 9 | 11 => 30
  | 2 => if isLeap year then 29 else 28
  | _ => 0

/-- The first supported year. -/
def firstYear : Int := -262143

/-- The last supported year. -/
def lastYear : Int := 262142

/-- Whether the parts make up a date in a supported year. -/
def IsDate (year : Int) (month day : Nat) : Prop :=
  firstYear ≤ year ∧ year ≤ lastYear ∧ 1 ≤ day ∧ day ≤ daysInMonth year month

instance (year : Int) (month day : Nat) : Decidable (IsDate year month day) :=
  inferInstanceAs (Decidable (_ ∧ _))

/-- A date in a supported year. -/
structure Date where
  /-- The year. -/
  year : Int
  /-- The month, the first being one. -/
  month : Nat
  /-- The day of the month. -/
  day : Nat
  /-- The date exists. -/
  isDate : IsDate year month day
  deriving DecidableEq, Repr

namespace Date

/-- The date made up of the parts, if there is one. -/
def of? (year : Int) (month day : Nat) : Option Date :=
  if h : IsDate year month day then some ⟨year, month, day, h⟩ else none

/-- The number of days in the years before `year`, counted from the year one. -/
def daysBeforeYear (year : Int) : Int :=
  let past := year - 1
  365 * past + past / 4 - past / 100 + past / 400

/-- The number of days in the months of a year before `month`. -/
def daysBeforeMonth (year : Int) : Nat → Nat
  | 0 => 0
  | month + 1 => daysBeforeMonth year month + daysInMonth year month

/-- The number of a date in the count of days. -/
def dayNumber (d : Date) : Int :=
  daysBeforeYear d.year + daysBeforeMonth d.year d.month + d.day

/-- The written form of a year: four digits at least, with a sign when it is below zero or has more
than four digits. -/
def yearText (year : Int) : List Char :=
  if year < 0 then '-' :: Text.padded 4 year.natAbs
  else if year ≤ 9999 then Text.padded 4 year.natAbs
  else '+' :: Text.padded 4 year.natAbs

/-- The written form of a date: year, month and day joined by hyphens. -/
def chars (d : Date) : List Char :=
  yearText d.year ++ '-' :: Text.padded 2 d.month ++ '-' :: Text.padded 2 d.day

/-- The written form of a date. -/
def text (d : Date) : String :=
  String.ofList d.chars

end Date

/-- The names of the months. -/
def monthNames : List String :=
  ["January", "February", "March", "April", "May", "June", "July", "August", "September",
    "October", "November", "December"]

/-- The month and the year of a date in words. -/
def Date.monthLabel (d : Date) : String :=
  monthNames.getD (d.month - 1) "" ++ " " ++ String.ofList (Date.yearText d.year)

end CampusBoard.Calendar
