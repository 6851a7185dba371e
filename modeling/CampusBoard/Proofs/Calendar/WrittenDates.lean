import CampusBoard.Calendar.Reader
import CampusBoard.Proofs.Text.Numerals
import Mathlib.Data.List.Basic
import Mathlib.Tactic.Common
import Mathlib.Tactic.Lemma

/-!
# Written dates are read back

A date is read back from its written form, whichever sign its year has and however many digits, and
what is read is always a date of the calendar.

## Design

The written form is described apart from the function that writes it, by the numerals that stand
between the hyphens. The calendar is described apart from the function that counts the days of a
month, by divisibility.

## Main definitions

* `CampusBoard.Calendar.IsGregorian`: the rule of the calendar.
* `CampusBoard.Calendar.IsWritten`: the written form of a date.

## Main results

* `CampusBoard.Calendar.isDate_iff`: the dates are those of the calendar in the supported years.
* `CampusBoard.Calendar.year?_yearText`: a year reads back.
* `CampusBoard.Calendar.dayParts?_eq_some_iff`: the day at the front of a timestamp.
* `CampusBoard.Calendar.parse?_text`: a date reads back.
* `CampusBoard.Calendar.written_dates_are_read_back`: all dates, and all texts that are read.
-/

set_option autoImplicit false

namespace CampusBoard

namespace Calendar

open Text

/-! ## The calendar -/

/-- The rule of the calendar. The second month has a twenty-ninth day in every fourth year, but of
the centuries only in every fourth. -/
def IsGregorian (year : Int) (month day : Nat) : Prop :=
  1 ≤ day ∧
    (month ∈ [1, 3, 5, 7, 8, 10, 12] ∧ day ≤ 31 ∨ month ∈ [4, 6, 9, 11] ∧ day ≤ 30 ∨
      month = 2 ∧ (day ≤ 28 ∨ day = 29 ∧ 4 ∣ year ∧ (100 ∣ year → 400 ∣ year)))

instance (year : Int) (month day : Nat) : Decidable (IsGregorian year month day) :=
  inferInstanceAs (Decidable (_ ∧ _))

/-- A leap year is a fourth year, and if it is a century then a fourth century. -/
lemma isLeap_iff (year : Int) : isLeap year = true ↔ 4 ∣ year ∧ (100 ∣ year → 400 ∣ year) := by
  simp only [isLeap, Bool.and_eq_true, Bool.or_eq_true, beq_iff_eq, bne_iff_ne]
  omega

/-- The days of a month are those of the calendar. -/
lemma isGregorian_iff (year : Int) (month day : Nat) :
    IsGregorian year month day ↔ 1 ≤ day ∧ day ≤ daysInMonth year month := by
  simp only [IsGregorian, List.mem_cons, List.not_mem_nil, or_false]
  unfold daysInMonth
  split
  case h_12 =>
    by_cases hleap : isLeap year = true
    · have := (isLeap_iff year).mp hleap
      rw [if_pos hleap]
      omega
    · have := mt (isLeap_iff year).mpr hleap
      rw [if_neg hleap]
      omega
  case h_13 => grind
  all_goals simp

/-- **The dates are those of the calendar** in the supported years. -/
theorem isDate_iff (year : Int) (month day : Nat) :
    IsDate year month day ↔ (-262143 ≤ year ∧ year ≤ 262142) ∧ IsGregorian year month day := by
  rw [IsDate, isGregorian_iff, firstYear, lastYear, ← and_assoc]

/-- The date made up of some parts has these parts. -/
lemma Date.of?_eq_some_iff {year : Int} {month day : Nat} {d : Date} :
    Date.of? year month day = some d ↔ d.year = year ∧ d.month = month ∧ d.day = day := by
  unfold Date.of?
  constructor
  · intro h
    split_ifs at h
    obtain rfl := Option.some.inj h
    exact ⟨rfl, rfl, rfl⟩
  · rintro ⟨rfl, rfl, rfl⟩
    exact dif_pos d.isDate

/-! ## The written form -/

/-- The characters of a year, a month and a day with hyphens between them, whether there is such a
date or not. -/
def partsChars (year : Int) (month day : Nat) : List Char :=
  Date.yearText year ++ '-' :: padded 2 month ++ '-' :: padded 2 day

/-- The written form of parts whose year has four digits. -/
lemma partsChars_natCast {year : Nat} (hyear : year < 10000) (month day : Nat) :
    partsChars year month day = padded 4 year ++ '-' :: padded 2 month ++ '-' :: padded 2 day := by
  have hneg : ¬(year : Int) < 0 := by omega
  have hfour : (year : Int) ≤ 9999 := by omega
  rw [partsChars, Date.yearText, if_neg hneg, if_pos hfour, Int.natAbs_natCast]

/-- Such parts are written with ten characters. -/
lemma length_partsChars {year month day : Nat} (hyear : year < 10000) (hmonth : month < 100)
    (hday : day < 100) : (partsChars year month day).length = 10 := by
  have hyears := length_padded_of_lt 4 (by decide) hyear
  have hmonths := length_padded_of_lt 2 (by decide) hmonth
  have hdays := length_padded_of_lt 2 (by decide) hday
  rw [partsChars_natCast hyear]
  simp [hyears, hmonths, hdays]

/-- The written form of a date. The year has a sign if it is negative or has more than four
digits. -/
def IsWritten (d : Date) (s : String) : Prop :=
  ∃ year month day : List Char,
    s.toList = (if d.year < 0 then ['-'] else if 9999 < d.year then ['+'] else []) ++
      year ++ '-' :: month ++ '-' :: day ∧
    IsPadded 4 d.year.natAbs year ∧ IsPadded 2 d.month month ∧ IsPadded 2 d.day day

/-! ## Reading numerals -/

/-- **A numeral is read** up to its end, where as many digits have been read as are allowed or
something else follows. -/
lemma upTo?_append {most : Nat} {digits rest : List Char} (hne : digits ≠ [])
    (hdigits : ∀ c ∈ digits, c.isDigit = true) (hmost : digits.length ≤ most)
    (hend : digits.length = most ∨ ∀ c ∈ rest.head?, c.isDigit = false) :
    upTo? most (digits ++ rest) = some (numeralValue digits, rest) := by
  have hrest : (rest.take (most - digits.length)).takeWhile Char.isDigit = [] := by
    rcases hend with hfull | hother
    · simp [hfull]
    · cases rest with
      | nil => simp
      | cons c rest =>
        have hc := hother c rfl
        cases most - digits.length <;> simp [hc]
  have hfront : ((digits ++ rest).take most).takeWhile Char.isDigit = digits := by
    rw [List.take_append, List.take_of_length_le hmost, List.takeWhile_append_of_pos hdigits, hrest,
      List.append_nil]
  simp [upTo?, hfront, hne]

/-- **A year reads back**, with the sign that it was written with. -/
theorem year?_yearText (year : Int) (rest : List Char) :
    year? (Date.yearText year ++ '-' :: rest) = some (year, '-' :: rest) := by
  obtain ⟨c, cs, hcons, hc⟩ := exists_padded_eq_cons 4 year.natAbs
  have hread : ∀ most, (padded 4 year.natAbs).length ≤ most →
      upTo? most (padded 4 year.natAbs ++ '-' :: rest) = some (year.natAbs, '-' :: rest) := by
    intro most hmost
    rw [upTo?_append (by simp [hcons]) (fun _ => isDigit_of_mem_padded) hmost (.inr (by simp)),
      numeralValue_padded]
  have hsigned := hread (padded 4 year.natAbs ++ '-' :: rest).length (by simp)
  unfold Date.yearText
  split_ifs with hneg hfour
  · simp only [List.cons_append, year?, hsigned, Option.map_some]
    congr 2
    omega
  · have hlength : (padded 4 year.natAbs).length = 4 :=
      length_padded_of_lt _ (by decide) (show year.natAbs < 10000 by omega)
    have hplus : c ≠ '+' := by rintro rfl; exact absurd hc (by decide)
    have hminus : c ≠ '-' := by rintro rfl; exact absurd hc (by decide)
    have hunsigned := hread 4 (Nat.le_of_eq hlength)
    rw [hcons, List.cons_append] at hunsigned ⊢
    have habs : (year.natAbs : Int) = year := by omega
    simp [year?, hplus, hminus, hunsigned, habs]
  · simp only [List.cons_append, year?, hsigned, Option.map_some]
    congr 2
    omega

/-- A month or a day reads back. -/
lemma upTo?_padded {n : Nat} (hn : n < 100) (rest : List Char) :
    upTo? 2 (padded 2 n ++ rest) = some (n, rest) := by
  obtain ⟨c, cs, hcons, -⟩ := exists_padded_eq_cons 2 n
  have hlength : (padded 2 n).length = 2 := length_padded_of_lt _ (by decide) hn
  rw [upTo?_append (by simp [hcons]) (fun _ => isDigit_of_mem_padded) (Nat.le_of_eq hlength)
    (.inl hlength), numeralValue_padded]

/-- A numeral has no blank in front. -/
lemma skipBlanks_padded (width n : Nat) (rest : List Char) :
    skipBlanks (padded width n ++ rest) = padded width n ++ rest := by
  obtain ⟨c, cs, hcons, hc⟩ := exists_padded_eq_cons width n
  rw [hcons]
  exact dropWhile_isBlank (by simp [isBlank_of_isDigit hc])

/-- Nor has a year. -/
lemma skipBlanks_yearText (year : Int) (rest : List Char) :
    skipBlanks (Date.yearText year ++ rest) = Date.yearText year ++ rest := by
  unfold Date.yearText
  split_ifs
  · exact dropWhile_isBlank (by simp; decide)
  · exact skipBlanks_padded 4 _ rest
  · exact dropWhile_isBlank (by simp; decide)

/-! ## Reading the day of a timestamp -/

/-- Two digits are read as the number that is written so. -/
lemma twoDigits?_padded {n : Nat} (hn : n < 100) (rest : List Char) :
    twoDigits? (padded 2 n ++ rest) = some (n, rest) := by
  have hlength : (padded 2 n).length = 2 := length_padded_of_lt 2 (by decide) hn
  obtain ⟨a, b, hab⟩ := List.length_eq_two.mp hlength
  have hamem : a ∈ padded 2 n := by simp [hab]
  have hbmem : b ∈ padded 2 n := by simp [hab]
  have ha : a.isDigit = true := isDigit_of_mem_padded hamem
  have hb : b.isDigit = true := isDigit_of_mem_padded hbmem
  have hvalue : numeralValue [a, b] = n := by rw [← hab, numeralValue_padded]
  simp [hab, twoDigits?, ha, hb, hvalue]

/-- **Two digits** at the front are a padded number below a hundred. -/
theorem twoDigits?_eq_some_iff {cs rest : List Char} {n : Nat} :
    twoDigits? cs = some (n, rest) ↔ n < 100 ∧ cs = padded 2 n ++ rest := by
  constructor
  · intro h
    unfold twoDigits? at h
    split at h
    next a b rest' =>
      split_ifs at h with hdigits
      obtain ⟨ha, hb⟩ := Bool.and_eq_true_iff.mp hdigits
      obtain ⟨rfl, rfl⟩ := Prod.mk.inj (Option.some.inj h)
      have hall : ∀ c ∈ [a, b], c.isDigit = true := by simp [ha, hb]
      have hchars : padded 2 (numeralValue [a, b]) = [a, b] := padded_numeralValue (by simp) hall
      obtain ⟨i, hi, rfl⟩ := exists_digitChar_eq ha
      obtain ⟨j, hj, rfl⟩ := exists_digitChar_eq hb
      refine ⟨?_, by rw [hchars]; rfl⟩
      have hvalue : numeralValue [i.digitChar, j.digitChar] = 10 * i + j := by
        simp [numeralValue, Nat.ofDigitChars_cons, Nat.toNat_digitChar_of_lt_ten, hi, hj]
      omega
    next => cases h
  · rintro ⟨hn, rfl⟩
    exact twoDigits?_padded hn rest

/-- One of some characters is read at the front. -/
lemma oneOf?_eq_some_iff {allowed cs rest : List Char} :
    oneOf? allowed cs = some rest ↔ ∃ c ∈ allowed, cs = c :: rest := by
  cases cs with
  | nil => simp [oneOf?]
  | cons d ds =>
    simp only [oneOf?, List.contains_iff_mem, Option.ite_none_right_eq_some, Option.some.injEq,
      List.cons.injEq]
    constructor
    · rintro ⟨hd, rfl⟩
      exact ⟨d, hd, rfl, rfl⟩
    · rintro ⟨c, hc, rfl, rfl⟩
      exact ⟨hc, rfl⟩

/-- A single character is read at the front. -/
lemma oneOf?_singleton_eq_some_iff {c : Char} {cs rest : List Char} :
    oneOf? [c] cs = some rest ↔ cs = c :: rest := by
  simp [oneOf?_eq_some_iff]

/-- **The day at the front** is the written form of its parts. -/
theorem dayParts?_eq_some_iff {cs rest : List Char} {year month day : Nat} :
    dayParts? cs = some ((year, month, day), rest) ↔
      (year < 10000 ∧ month < 100 ∧ day < 100) ∧ cs = partsChars year month day ++ rest := by
  simp only [dayParts?, Option.bind_eq_bind, Option.bind_eq_some_iff, Prod.exists,
    twoDigits?_eq_some_iff, oneOf?_singleton_eq_some_iff, Option.pure_def, Option.some.injEq,
    Prod.mk.injEq]
  constructor
  · rintro ⟨c, _, ⟨hc, rfl⟩, y, _, ⟨hy, rfl⟩, _, rfl, m, _, ⟨hm, rfl⟩, _, rfl, d, _, ⟨hd, rfl⟩,
      ⟨rfl, rfl, rfl⟩, rfl⟩
    refine ⟨⟨by omega, hm, hd⟩, ?_⟩
    rw [partsChars_natCast (by omega), ← padded_append_padded hc hy]
    simp
  · rintro ⟨⟨hyear, hmonth, hday⟩, rfl⟩
    have hc : year / 100 < 100 := by omega
    have hy : year % 100 < 100 := by omega
    have hhalves : 100 * (year / 100) + year % 100 = year := Nat.div_add_mod year 100
    have hchars : padded 4 year = padded 2 (year / 100) ++ padded 2 (year % 100) := by
      rw [padded_append_padded hc hy, hhalves]
    rw [partsChars_natCast hyear, hchars]
    simp only [List.append_assoc, List.cons_append]
    exact ⟨_, _, ⟨hc, rfl⟩, _, _, ⟨hy, rfl⟩, _, rfl, _, _, ⟨hmonth, rfl⟩, _, rfl, _, _, ⟨hday, rfl⟩,
      ⟨hhalves, rfl, rfl⟩, rfl⟩

/-- The day of a timestamp has ten characters. -/
lemma length_of_dayParts? {cs rest : List Char} {parts : Nat × Nat × Nat}
    (h : dayParts? cs = some (parts, rest)) : cs.length = rest.length + 10 := by
  obtain ⟨⟨hyear, hmonth, hday⟩, rfl⟩ := dayParts?_eq_some_iff.mp h
  rw [List.length_append, length_partsChars hyear hmonth hday, Nat.add_comm]

/-- A timestamp begins with a digit. -/
lemma dayParts?_cons {c : Char} (hc : c.isDigit = false) (cs : List Char) :
    dayParts? (c :: cs) = none := by
  cases cs <;> simp [dayParts?, twoDigits?, hc]

/-! ## Dates -/

section Parts

variable (year : Int) {month day : Nat} (hmonth : month < 100) (hday : day < 100)

include hmonth hday

/-- Written parts have ten characters, or begin with a sign. -/
lemma partsChars_cases :
    (partsChars year month day).length = 10 ∨
      ∃ sign cs, partsChars year month day = sign :: cs ∧ sign.isDigit = false := by
  by_cases hfour : 0 ≤ year ∧ year ≤ 9999
  · obtain ⟨n, rfl⟩ := Int.eq_ofNat_of_zero_le hfour.1
    exact .inl (length_partsChars (by omega) hmonth hday)
  · right
    unfold partsChars Date.yearText
    split_ifs with hneg
    · exact ⟨'-', _, rfl, by decide⟩
    · omega
    · exact ⟨'+', _, rfl, by decide⟩

/-- **Written parts are no timestamp**: they begin with a sign, or nothing follows the day. -/
theorem ofTimestamp?_partsChars : ofTimestamp? (partsChars year month day) = none := by
  rcases partsChars_cases year hmonth hday with hten | ⟨sign, cs, hchars, hsign⟩
  · cases hread : dayParts? (partsChars year month day) with
    | none => simp [ofTimestamp?, hread]
    | some read =>
      obtain ⟨parts, rest⟩ := read
      have hlength := length_of_dayParts? hread
      have hrest : rest = [] := List.eq_nil_of_length_eq_zero (by omega)
      simp [ofTimestamp?, hread, hrest, oneOf?]
  · simp [ofTimestamp?, hchars, dayParts?_cons hsign]

/-- **Written parts read back** as the plain date that they make up, if there is one. -/
theorem ofPlain?_partsChars : ofPlain? (partsChars year month day) = Date.of? year month day := by
  have hlast : upTo? 2 (padded 2 day) = some (day, []) := by
    simpa using upTo?_padded hday []
  have hblank : skipBlanks (padded 2 day) = padded 2 day := by
    simpa using skipBlanks_padded 2 day []
  simp [ofPlain?, partsChars, skipBlanks_yearText, year?_yearText, oneOf?, skipBlanks_padded,
    upTo?_padded hmonth, hblank, hlast]

/-- A text of written parts is read as the date that they make up, if there is one. -/
lemma parse?_partsChars :
    parse? (String.ofList (partsChars year month day)) = Date.of? year month day := by
  rw [parse?, String.toList_ofList, ofTimestamp?_partsChars year hmonth hday,
    ofPlain?_partsChars year hmonth hday]
  rfl

end Parts

/-- The month of a date is one of twelve, and its day one of at most thirty-one. -/
lemma Date.bounds (d : Date) : (1 ≤ d.month ∧ d.month ≤ 12) ∧ 1 ≤ d.day ∧ d.day ≤ 31 := by
  obtain ⟨-, hday, hmonth⟩ := (isDate_iff _ _ _).mp d.isDate
  simp only [List.mem_cons, List.not_mem_nil, or_false] at hmonth
  omega

/-- The month and the day of a date have at most two digits. -/
lemma Date.lt_hundred (d : Date) : d.month < 100 ∧ d.day < 100 := by
  have := d.bounds
  omega

/-- **A date reads back.** -/
theorem parse?_text (d : Date) : parse? d.text = some d := by
  have hdate : Date.of? d.year d.month d.day = some d := dif_pos d.isDate
  exact (parse?_partsChars d.year d.lt_hundred.1 d.lt_hundred.2).trans hdate

/-- A date is written in its written form. -/
lemma isWritten_text (d : Date) : IsWritten d d.text := by
  refine ⟨padded 4 d.year.natAbs, padded 2 d.month, padded 2 d.day, ?_,
    isPadded_padded (by decide), isPadded_padded (by decide), isPadded_padded (by decide)⟩
  rw [Date.text, String.toList_ofList, Date.chars, Date.yearText]
  split_ifs with hneg hfour hlong
  · rfl
  · omega
  · rfl
  · rfl
  · omega

/-- **Written dates are read back.** Each date of the calendar in the supported years, whether its
year is negative, zero or has more than four digits, is read back from its written form. Parts that
make up no such date are read as none. Whatever text is read as a date, that date is one of the
calendar in the supported years, and it is read back from its own written form.

**Proof sketch.** What is written begins with a sign or ends with the day, so it is no timestamp,
and as a plain date each numeral ends where the reader stops: the year at a hyphen or after four
digits, the others after two. -/
theorem written_dates_are_read_back :
    (∀ (year : Int) (month day : Nat),
      -262143 ≤ year → year ≤ 262142 → IsGregorian year month day →
        ∃ d : Date, (d.year = year ∧ d.month = month ∧ d.day = day) ∧
          IsWritten d d.text ∧ parse? d.text = some d) ∧
    (∀ (year : Int) (month day : Nat), month < 100 → day < 100 →
      ¬((-262143 ≤ year ∧ year ≤ 262142) ∧ IsGregorian year month day) →
        parse? (String.ofList (partsChars year month day)) = none) ∧
    ∀ (s : String) (d : Date), parse? s = some d →
      (-262143 ≤ d.year ∧ d.year ≤ 262142) ∧ IsGregorian d.year d.month d.day ∧
        parse? d.text = some d := by
  refine ⟨?_, ?_, ?_⟩
  · intro year month day hfirst hlast hcalendar
    have hdate : IsDate year month day := (isDate_iff _ _ _).mpr ⟨⟨hfirst, hlast⟩, hcalendar⟩
    exact ⟨⟨year, month, day, hdate⟩, ⟨rfl, rfl, rfl⟩, isWritten_text _, parse?_text _⟩
  · intro year month day hmonth hday hnone
    rw [parse?_partsChars year hmonth hday]
    exact dif_neg (mt (isDate_iff _ _ _).mp hnone)
  · intro s d _
    obtain ⟨hyears, hcalendar⟩ := (isDate_iff _ _ _).mp d.isDate
    exact ⟨hyears, hcalendar, parse?_text d⟩

/-- The leap day of the year minus four, the day before it in the year minus five, and a text with
blanks and few digits. -/
theorem written_dates_are_read_back_leapDay :
    (∃ d : Date, (d.year = -4 ∧ d.month = 2 ∧ d.day = 29) ∧
      IsWritten d d.text ∧ parse? d.text = some d) ∧
    parse? (String.ofList (partsChars (-5) 2 29)) = none ∧
    ∃ d : Date, parse? " +12345- 7-4" = some d ∧
      ((-262143 ≤ d.year ∧ d.year ≤ 262142) ∧ IsGregorian d.year d.month d.day ∧
        parse? d.text = some d) := by
  obtain ⟨hwritten, hnone, hread⟩ := written_dates_are_read_back
  refine ⟨hwritten (-4) 2 29 (by decide) (by decide) (by decide),
    hnone (-5) 2 29 (by decide) (by decide) (by decide), ?_⟩
  have hparse : parse? " +12345- 7-4" = some ⟨12345, 7, 4, by decide⟩ := by decide +kernel
  exact ⟨_, hparse, hread _ _ hparse⟩

end Calendar

end CampusBoard
