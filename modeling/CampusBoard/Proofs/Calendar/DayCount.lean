import CampusBoard.Proofs.Calendar.WrittenDates
import Mathlib.Tactic.Common
import Mathlib.Tactic.Lemma

/-!
# Counting days

The number of a date in the count of days grows by one from each day to the next, across the ends of
months and years and over leap days. So the difference of two numbers is the number of days by which
one has to go on from the earlier date to come to the later one.

## Main definitions

* `CampusBoard.Calendar.Date.next?`: the day after a date.
* `CampusBoard.Calendar.Date.later?`: the date that is some days later.

## Main results

* `CampusBoard.Calendar.Date.next?_cases`: what the next day can be.
* `CampusBoard.Calendar.Date.dayNumber_of_next?`: its number is the next number.
* `CampusBoard.Calendar.Date.dayNumber_lt_iff`: the numbers are in the order of the dates.
* `CampusBoard.Calendar.Date.exists_later?`: each later date is some days later.
* `CampusBoard.Calendar.Date.later?_eq_some_iff`: how many days later a date is.
-/

set_option autoImplicit false

namespace CampusBoard

namespace Calendar

namespace Date

/-! ## The order of dates and the next day -/

/-- A date is before another if its year is, or in the same year its month, or in the same month its
day. -/
instance : LT Date where
  lt d e := d.year < e.year ∨
    d.year = e.year ∧ (d.month < e.month ∨ d.month = e.month ∧ d.day < e.day)

instance (d e : Date) : Decidable (d < e) :=
  inferInstanceAs (Decidable (_ ∨ _))

/-- Dates are ordered by year, then by month, then by day. -/
lemma lt_iff (d e : Date) : d < e ↔ d.year < e.year ∨
    d.year = e.year ∧ (d.month < e.month ∨ d.month = e.month ∧ d.day < e.day) :=
  Iff.rfl

/-- The day after a date, as long as its year is supported: the next day of the month, or else the
first day of the next month, or else the first day of the next year. -/
def next? (d : Date) : Option Date :=
  if IsGregorian d.year d.month (d.day + 1) then of? d.year d.month (d.day + 1)
  else if d.month < 12 then of? d.year (d.month + 1) 1
  else of? (d.year + 1) 1 1

/-- The date that comes after some next days. -/
def later? : Nat → Date → Option Date
  | 0, d => some d
  | n + 1, d => d.next?.bind (later? n)

variable {d e f : Date}

/-- There is a next day in the month as long as the month has not as many days. -/
lemma isGregorian_succ_iff (d : Date) :
    IsGregorian d.year d.month (d.day + 1) ↔ d.day < daysInMonth d.year d.month := by
  rw [isGregorian_iff]
  omega

/-- **What the next day can be.** -/
theorem next?_cases (h : d.next? = some e) :
    (e.year = d.year ∧ e.month = d.month ∧ e.day = d.day + 1) ∨
    (d.day = daysInMonth d.year d.month ∧ e.year = d.year ∧ e.month = d.month + 1 ∧ e.day = 1) ∨
    (d.day = daysInMonth d.year d.month ∧ d.month = 12 ∧ e.year = d.year + 1 ∧ e.month = 1 ∧
      e.day = 1) := by
  obtain ⟨-, -, -, hday⟩ := d.isDate
  have hbounds := d.bounds
  unfold next? at h
  split_ifs at h with hsame hyear
  · exact .inl (of?_eq_some_iff.mp h)
  · rw [isGregorian_succ_iff] at hsame
    exact .inr (.inl ⟨by omega, of?_eq_some_iff.mp h⟩)
  · rw [isGregorian_succ_iff] at hsame
    exact .inr (.inr ⟨by omega, by omega, of?_eq_some_iff.mp h⟩)

/-! ## The number of the next day -/

/-- The days of a year are those of its twelve months, leap years included.

**Proof sketch.** Of the four quotients in the days before a year, that by four grows by one after a
fourth year, that by a hundred after a century and that by four hundred after a fourth century. -/
lemma daysBeforeYear_succ (year : Int) :
    daysBeforeYear (year + 1) = daysBeforeYear year + daysBeforeMonth year 13 := by
  have hmonths : daysBeforeMonth year 13 = 337 + daysInMonth year 2 := by
    simp [daysBeforeMonth, daysInMonth]
    omega
  have hfebruary : daysInMonth year 2 = if isLeap year then 29 else 28 := rfl
  rw [hmonths, hfebruary]
  simp only [daysBeforeYear]
  by_cases hleap : isLeap year = true
  · have := (isLeap_iff year).mp hleap
    rw [if_pos hleap]
    omega
  · have := mt (isLeap_iff year).mpr hleap
    rw [if_neg hleap]
    omega

/-- **The number of the next day is the next number.** -/
theorem dayNumber_of_next? (h : d.next? = some e) : e.dayNumber = d.dayNumber + 1 := by
  rcases next?_cases h with ⟨hy, hm, hd⟩ | ⟨hlast, hy, hm, hd⟩ | ⟨hlast, hdecember, hy, hm, hd⟩
  · rw [dayNumber, dayNumber, hy, hm, hd]
    omega
  · rw [dayNumber, dayNumber, hy, hm, hd, daysBeforeMonth]
    omega
  · have hmonths : daysBeforeMonth d.year 13 = daysBeforeMonth d.year 12 + d.day := by
      rw [hlast, hdecember, daysBeforeMonth]
    have hjanuary : daysBeforeMonth e.year 1 = 0 := rfl
    rw [dayNumber, dayNumber, hm, hjanuary, hy, hd, daysBeforeYear_succ, hmonths, hdecember]
    omega

/-- So it grows by as many as there are days. -/
theorem dayNumber_of_later? {n : Nat} (h : later? n d = some e) :
    e.dayNumber = d.dayNumber + n := by
  induction n generalizing d with
  | zero =>
    obtain rfl := Option.some.inj h
    simp
  | succ n ih =>
    obtain ⟨next, hnext, hlater⟩ := Option.bind_eq_some_iff.mp h
    rw [ih hlater, dayNumber_of_next? hnext]
    omega

/-! ## Going on to a later date -/

/-- Two dates are the same, or one of them is before the other. -/
lemma lt_trichotomy (d e : Date) : d < e ∨ d = e ∨ e < d := by
  have hext : d.year = e.year → d.month = e.month → d.day = e.day → d = e := by
    cases d
    cases e
    simp_all
  rw [lt_iff, lt_iff]
  by_cases heq : d.year = e.year ∧ d.month = e.month ∧ d.day = e.day
  · exact .inr (.inl (hext heq.1 heq.2.1 heq.2.2))
  · omega

/-- A later date of the same month has a day that the month has. -/
lemma day_lt_of_lt (h : d < f) (hyear : f.year = d.year) (hmonth : f.month = d.month) :
    d.day < daysInMonth d.year d.month := by
  obtain ⟨-, -, -, hday⟩ := f.isDate
  rw [hyear, hmonth] at hday
  rw [lt_iff] at h
  omega

/-- **Before a later date there is a next day**, and that is not after the later date. -/
theorem exists_next? (h : d < f) : ∃ e, d.next? = some e ∧ ¬f < e := by
  obtain ⟨⟨hfirst, hlast⟩, -⟩ := (isDate_iff _ _ _).mp d.isDate
  obtain ⟨⟨-, hflast⟩, -⟩ := (isDate_iff _ _ _).mp f.isDate
  have hd := d.bounds
  have hf := f.bounds
  have hin := day_lt_of_lt h
  simp only [lt_iff] at h ⊢
  unfold next?
  split_ifs with hsame hyear
  · have hdate : IsDate d.year d.month (d.day + 1) :=
      (isDate_iff _ _ _).mpr ⟨⟨hfirst, hlast⟩, hsame⟩
    refine ⟨_, dif_pos hdate, ?_⟩
    dsimp only
    omega
  · have hmonth : IsGregorian d.year (d.month + 1) 1 := by
      simp only [IsGregorian, List.mem_cons, List.not_mem_nil, or_false]
      omega
    have hdate : IsDate d.year (d.month + 1) 1 :=
      (isDate_iff _ _ _).mpr ⟨⟨hfirst, hlast⟩, hmonth⟩
    rw [isGregorian_succ_iff] at hsame
    refine ⟨_, dif_pos hdate, ?_⟩
    dsimp only
    omega
  · rw [isGregorian_succ_iff] at hsame
    -- The later date is in a later year, so the next year is supported.
    have hnext : d.year + 1 ≤ f.year := by omega
    have hdate : IsDate (d.year + 1) 1 1 :=
      (isDate_iff _ _ _).mpr ⟨by omega, by simp [IsGregorian]⟩
    refine ⟨_, dif_pos hdate, ?_⟩
    dsimp only
    omega

/-- A number that grows with the date: years of twelve months of thirty-one days. -/
def position (d : Date) : Int :=
  372 * d.year + 31 * d.month + d.day

/-- A later date has a greater number. -/
lemma position_lt_of_lt (h : d < e) : d.position < e.position := by
  have hd := d.bounds
  have he := e.bounds
  rw [lt_iff] at h
  unfold position
  omega

/-- The next day is later. -/
lemma lt_of_next? (h : d.next? = some e) : d < e := by
  rw [lt_iff]
  rcases next?_cases h with h | h | h <;> omega

/-- **Each later date is some days later.** -/
theorem exists_later? (h : d < f) : ∃ n, 1 ≤ n ∧ later? n d = some f := by
  -- The induction is on how far the position of the date is below that of the later one.
  induction hgap : (f.position - d.position).toNat using Nat.strongRecOn generalizing d with
  | ind gap ih =>
    obtain ⟨e, hnext, hnot⟩ := exists_next? h
    have hforward := position_lt_of_lt (lt_of_next? hnext)
    have hbelow := position_lt_of_lt h
    rcases lt_trichotomy e f with hlt | rfl | hgt
    · obtain ⟨n, -, hn⟩ := ih (f.position - e.position).toNat (by omega) hlt rfl
      exact ⟨n + 1, by omega, Option.bind_eq_some_iff.mpr ⟨e, hnext, hn⟩⟩
    · exact ⟨1, Nat.le_refl 1, Option.bind_eq_some_iff.mpr ⟨e, hnext, rfl⟩⟩
    · exact absurd hgt hnot

/-- **A date is before another** if its number is less. -/
theorem dayNumber_lt_iff : d.dayNumber < e.dayNumber ↔ d < e := by
  have hlt : ∀ {d e : Date}, d < e → d.dayNumber < e.dayNumber := by
    intro d e h
    obtain ⟨n, hn, hlater⟩ := exists_later? h
    have := dayNumber_of_later? hlater
    omega
  constructor
  · intro h
    rcases lt_trichotomy d e with hde | rfl | hed
    · exact hde
    · omega
    · have := hlt hed
      omega
  · exact hlt

/-- **How many days later a date is**: as many as its number is greater. -/
theorem later?_eq_some_iff {n : Nat} :
    later? n d = some e ↔ e.dayNumber = d.dayNumber + n := by
  constructor
  · exact dayNumber_of_later?
  · intro h
    rcases lt_trichotomy d e with hlt | rfl | hgt
    · obtain ⟨m, -, hlater⟩ := exists_later? hlt
      have hm := dayNumber_of_later? hlater
      obtain rfl : m = n := by omega
      exact hlater
    · obtain rfl : n = 0 := by omega
      rfl
    · rw [← dayNumber_lt_iff] at hgt
      omega

end Date

end Calendar

end CampusBoard
