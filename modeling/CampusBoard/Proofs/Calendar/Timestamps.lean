import CampusBoard.Proofs.Calendar.WrittenDates
import CampusBoard.Proofs.Text.Cuts
import Mathlib.Tactic.Common
import Mathlib.Tactic.Lemma

/-!
# Timestamps are read as the day written in them

A timestamp is read as the day that it begins with. Its clock and its offset from universal time
have to be well formed, and then they make no difference, also where they put the moment on another
day of universal time.

## Design

A timestamp is described by its parts, each with its bounds, and the texts that are accepted are
those that some parts are written as. The reader is not mentioned in that description.

## Main definitions

* `CampusBoard.Calendar.Offset`, `CampusBoard.Calendar.Clock`, `CampusBoard.Calendar.Timestamp`: the
  parts of a timestamp.
* `CampusBoard.Calendar.Timestamp.text`: the text that they are written as.
* `CampusBoard.Calendar.Clock.daysToUniversal`: how many days later the moment is in universal time.
* `CampusBoard.Calendar.writtenDay`: the first ten characters of a text.

## Main results

* `CampusBoard.Calendar.afterClock?_eq_some_iff`, `CampusBoard.Calendar.isOffset_eq_true_iff`: the
  parts of a clock.
* `CampusBoard.Calendar.ofTimestamp?_eq_some_iff`: the texts that are accepted.
* `CampusBoard.Calendar.timestamps_read_as_written_day`: what an accepted text is read as.
-/

set_option autoImplicit false

namespace CampusBoard

namespace Calendar

open Text

/-! ## The parts of a timestamp -/

/-- An offset from universal time. -/
inductive Offset
  /-- None, which is written as a letter. -/
  | universal (letter : Char) (letter_mem : letter ∈ ['Z', 'z'])
  /-- Less than a day, ahead or behind. -/
  | shifted (sign : Char) (hours minutes : Nat) (sign_mem : sign ∈ offsetSigns)
    (hours_le : hours ≤ 23) (minutes_le : minutes ≤ 59)

namespace Offset

/-- The characters of an offset. -/
def chars : Offset → List Char
  | universal letter _ => [letter]
  | shifted sign hours minutes _ _ _ => sign :: padded 2 hours ++ ':' :: padded 2 minutes

/-- The minutes that a clock with the offset is ahead of universal time. -/
def minutesAhead : Offset → Int
  | universal _ _ => 0
  | shifted sign hours minutes _ _ _ =>
    if sign = '+' then 60 * hours + minutes else -(60 * hours + minutes)

end Offset

/-- What follows the day in a timestamp: a separator, a time of day and an offset. -/
structure Clock where
  /-- What stands between the day and the time of day. -/
  separator : Char
  /-- The hour. -/
  hour : Nat
  /-- The minute. -/
  minute : Nat
  /-- The second; the sixtieth is a leap second. -/
  second : Nat
  /-- The digits of the fraction of a second, none if there is no fraction. -/
  fraction : List Char
  /-- The offset. -/
  offset : Offset
  separator_mem : separator ∈ ['T', 't', ' ']
  hour_le : hour ≤ 23
  minute_le : minute ≤ 59
  second_le : second ≤ 60
  isDigit_fraction : ∀ c ∈ fraction, c.isDigit = true

/-- The characters of a time of day. -/
def timeChars (hour minute second : Nat) : List Char :=
  padded 2 hour ++ ':' :: padded 2 minute ++ ':' :: padded 2 second

/-- The characters of a fraction of a second. -/
def fractionChars (digits : List Char) : List Char :=
  if digits = [] then [] else '.' :: digits

/-- The characters of a clock. -/
def Clock.chars (c : Clock) : List Char :=
  c.separator :: timeChars c.hour c.minute c.second ++ fractionChars c.fraction ++ c.offset.chars

/-- How many days later than the day of the clock the moment is in universal time: a day less if the
clock is ahead by more than has passed of the day, a day more if it is behind by more than is left
of the day. -/
def Clock.daysToUniversal (c : Clock) : Int :=
  (60 * c.hour + c.minute - c.offset.minutesAhead) / (24 * 60)

/-- A day whose year has four digits, and a clock. -/
structure Timestamp where
  /-- The day, as the clock shows it. -/
  day : Date
  /-- The clock. -/
  clock : Clock
  year_nonneg : 0 ≤ day.year
  year_le : day.year ≤ 9999

/-- The text of a timestamp. -/
def Timestamp.text (t : Timestamp) : String :=
  String.ofList (t.day.chars ++ t.clock.chars)

/-- The year of a timestamp has four digits. -/
lemma Timestamp.exists_year (t : Timestamp) :
    ∃ year : Nat, t.day.year = (year : Int) ∧ year < 10000 := by
  have hnonneg := t.year_nonneg
  have hle := t.year_le
  exact ⟨t.day.year.natAbs, by omega, by omega⟩

/-- The first ten characters of a text, where a timestamp has its day. -/
def writtenDay (s : String) : String :=
  String.ofList (s.toList.take 10)

/-! ## Reading the clock -/

/-- **A time of day** is read up to its end. -/
theorem afterClock?_eq_some_iff {cs rest : List Char} :
    afterClock? cs = some rest ↔
      ∃ hour minute second, (hour ≤ 23 ∧ minute ≤ 59 ∧ second ≤ 60) ∧
        cs = timeChars hour minute second ++ rest := by
  simp only [afterClock?, Option.bind_eq_bind, Option.bind_eq_some_iff, Prod.exists,
    twoDigits?_eq_some_iff, oneOf?_singleton_eq_some_iff, Option.ite_none_right_eq_some,
    Bool.and_eq_true, decide_eq_true_eq, Option.some.injEq, timeChars]
  constructor
  · rintro ⟨h, _, ⟨hh, rfl⟩, _, rfl, m, _, ⟨hm, rfl⟩, _, rfl, s, _, ⟨hs, rfl⟩, hbounds, rfl⟩
    exact ⟨h, m, s, ⟨hbounds.1.1, hbounds.1.2, hbounds.2⟩, by simp⟩
  · rintro ⟨h, m, s, ⟨hh, hm, hs⟩, rfl⟩
    simp only [List.append_assoc, List.cons_append]
    exact ⟨_, _, ⟨by omega, rfl⟩, _, rfl, _, _, ⟨by omega, rfl⟩, _, rfl, _, _, ⟨by omega, rfl⟩,
      ⟨⟨hh, hm⟩, hs⟩, rfl⟩

/-- A fraction of a second is read up to what is no digit. -/
lemma afterFraction?_append {digits rest : List Char} (hdigits : ∀ c ∈ digits, c.isDigit = true)
    (hrest : ∀ c ∈ rest.head?, c ≠ '.' ∧ c.isDigit = false) :
    afterFraction? (fractionChars digits ++ rest) = some rest := by
  unfold fractionChars
  split_ifs with hnone
  · cases rest with
    | nil => rfl
    | cons c cs =>
      have hc : c ≠ '.' := (hrest c rfl).1
      simp [afterFraction?, hc]
  · have hend : ∀ c ∈ rest.head?, c.isDigit = false := fun c hc => (hrest c hc).2
    have htake := takeWhile_append_of_head? hdigits hend
    have hdrop := dropWhile_append_of_head? hdigits hend
    simp [afterFraction?, htake, hdrop, hnone]

/-- What is read as a fraction of a second is none, or a point and digits. -/
lemma exists_fraction_of_afterFraction? {cs rest : List Char} (h : afterFraction? cs = some rest) :
    ∃ digits, (∀ c ∈ digits, c.isDigit = true) ∧ cs = fractionChars digits ++ rest := by
  unfold afterFraction? at h
  split at h
  next ds =>
    split_ifs at h with hnone
    obtain rfl := Option.some.inj h
    refine ⟨ds.takeWhile Char.isDigit, fun c hc => List.mem_takeWhile_imp hc, ?_⟩
    have hne : ds.takeWhile Char.isDigit ≠ [] := by simpa using hnone
    rw [fractionChars, if_neg hne, List.cons_append, List.takeWhile_append_dropWhile]
  next =>
    obtain rfl := Option.some.inj h
    exact ⟨[], by simp, by simp [fractionChars]⟩

/-- An offset begins with a letter or a sign. -/
lemma Offset.head?_chars (o : Offset) : ∀ c ∈ o.chars.head?, c ≠ '.' ∧ c.isDigit = false := by
  cases o with
  | universal letter hletter =>
    have hall : (['Z', 'z'].all fun c => c != '.' && !c.isDigit) = true := by decide
    simpa [chars] using List.all_eq_true.mp hall letter hletter
  | shifted sign hours minutes hsign hhours hminutes =>
    have hall : (offsetSigns.all fun c => c != '.' && !c.isDigit) = true := by decide
    simpa [chars] using List.all_eq_true.mp hall sign hsign

/-- What is no letter is an offset if it is a sign, hours and minutes. -/
lemma isOffset_eq_true_iff_of_ne {cs : List Char} (hupper : cs ≠ ['Z']) (hlower : cs ≠ ['z']) :
    isOffset cs = true ↔
      ∃ sign hours minutes, (sign ∈ offsetSigns ∧ hours ≤ 23 ∧ minutes ≤ 59) ∧
        cs = sign :: padded 2 hours ++ ':' :: padded 2 minutes := by
  unfold isOffset
  split
  next => exact absurd rfl hupper
  next => exact absurd rfl hlower
  next =>
    simp only [Option.bind_eq_bind, Option.pure_def, Option.getD_eq_iff, Option.bind_eq_some_iff,
      Prod.exists, oneOf?_eq_some_iff, List.mem_singleton, exists_eq_left, twoDigits?_eq_some_iff,
      Option.some.injEq, Bool.and_eq_true, decide_eq_true_eq, List.isEmpty_iff, Bool.false_eq_true,
      and_false, or_false]
    constructor
    · rintro ⟨_, ⟨sign, hsign, rfl⟩, h, _, ⟨-, rfl⟩, _, rfl, m, _, ⟨-, rfl⟩, ⟨hh, hm⟩, rfl⟩
      exact ⟨sign, h, m, ⟨hsign, hh, hm⟩, by simp⟩
    · rintro ⟨sign, h, m, ⟨hsign, hh, hm⟩, rfl⟩
      exact ⟨_, ⟨sign, hsign, rfl⟩, h, _, ⟨by omega, rfl⟩, _, rfl, m, [], ⟨by omega, by simp⟩,
        ⟨hh, hm⟩, rfl⟩

/-- **An offset** is read as it is written. -/
theorem isOffset_eq_true_iff {cs : List Char} :
    isOffset cs = true ↔ ∃ o : Offset, o.chars = cs := by
  constructor
  · intro h
    by_cases hupper : cs = ['Z']
    · exact ⟨.universal 'Z' (by decide), hupper.symm⟩
    by_cases hlower : cs = ['z']
    · exact ⟨.universal 'z' (by decide), hlower.symm⟩
    obtain ⟨sign, hours, minutes, ⟨hsign, hhours, hminutes⟩, rfl⟩ :=
      (isOffset_eq_true_iff_of_ne hupper hlower).mp h
    exact ⟨.shifted sign hours minutes hsign hhours hminutes, rfl⟩
  · rintro ⟨o, rfl⟩
    cases o with
    | universal letter hletter =>
      simp only [List.mem_cons, List.not_mem_nil, or_false] at hletter
      rcases hletter with rfl | rfl <;> rfl
    | shifted sign hours minutes hsign hhours hminutes =>
      have hlong : ∀ letter : Char,
          sign :: padded 2 hours ++ ':' :: padded 2 minutes ≠ [letter] := by simp
      exact (isOffset_eq_true_iff_of_ne (hlong 'Z') (hlong 'z')).mpr
        ⟨sign, hours, minutes, ⟨hsign, hhours, hminutes⟩, rfl⟩

/-! ## Timestamps -/

/-- **The texts that are accepted as timestamps** are those that timestamps are written as. -/
theorem ofTimestamp?_eq_some_iff {s : String} {d : Date} :
    ofTimestamp? s.toList = some d ↔ ∃ t : Timestamp, t.text = s ∧ t.day = d := by
  simp only [ofTimestamp?, Option.bind_eq_bind, Option.bind_eq_some_iff, Prod.exists,
    dayParts?_eq_some_iff, oneOf?_eq_some_iff, Option.ite_none_right_eq_some,
    Date.of?_eq_some_iff, isOffset_eq_true_iff]
  constructor
  · rintro ⟨year, month, day, _, ⟨⟨hyear, hmonth, hday⟩, hchars⟩, _, ⟨separator, hseparator, rfl⟩,
      _, hclock, _, hfraction, ⟨offset, rfl⟩, hyears, rfl, rfl⟩
    obtain ⟨hour, minute, second, ⟨hhour, hminute, hsecond⟩, rfl⟩ :=
      afterClock?_eq_some_iff.mp hclock
    obtain ⟨fraction, hdigits, rfl⟩ := exists_fraction_of_afterFraction? hfraction
    let clock : Clock := ⟨separator, hour, minute, second, fraction, offset, hseparator, hhour,
      hminute, hsecond, hdigits⟩
    refine ⟨⟨d, clock, by omega, by omega⟩, ?_, rfl⟩
    rw [Timestamp.text, ← String.ofList_toList (s := s), hchars]
    simp [clock, Clock.chars, Date.chars, partsChars, hyears]
  · rintro ⟨t, rfl, rfl⟩
    obtain ⟨year, hyear, hlt⟩ := t.exists_year
    have hday : t.text.toList = partsChars year t.day.month t.day.day ++ t.clock.chars := by
      rw [Timestamp.text, String.toList_ofList, Date.chars, hyear, partsChars]
    have hclock : afterClock? (timeChars t.clock.hour t.clock.minute t.clock.second ++
        fractionChars t.clock.fraction ++ t.clock.offset.chars) =
          some (fractionChars t.clock.fraction ++ t.clock.offset.chars) :=
      afterClock?_eq_some_iff.mpr ⟨_, _, _,
        ⟨t.clock.hour_le, t.clock.minute_le, t.clock.second_le⟩, List.append_assoc _ _ _⟩
    exact ⟨_, _, _, _, ⟨⟨hlt, t.day.lt_hundred⟩, hday⟩, _,
      ⟨t.clock.separator, t.clock.separator_mem, rfl⟩, _, hclock, _,
      afterFraction?_append t.clock.isDigit_fraction t.clock.offset.head?_chars,
      ⟨t.clock.offset, rfl⟩, hyear, rfl, rfl⟩

/-- The first ten characters of a timestamp are the written form of its day. -/
lemma Timestamp.writtenDay_text (t : Timestamp) : writtenDay t.text = t.day.text := by
  obtain ⟨year, hyear, hlt⟩ := t.exists_year
  have hten : t.day.chars.length = 10 := by
    have hlength := length_partsChars hlt t.day.lt_hundred.1 t.day.lt_hundred.2
    rwa [partsChars, ← hyear] at hlength
  rw [writtenDay, text, String.toList_ofList, ← hten, List.take_left, Date.text]

/-- **A timestamp is read as its day.** -/
theorem Timestamp.parse?_text (t : Timestamp) : parse? t.text = some t.day := by
  have hread : ofTimestamp? t.text.toList = some t.day :=
    ofTimestamp?_eq_some_iff.mpr ⟨t, rfl, rfl⟩
  rw [parse?, hread]
  rfl

/-- Its first ten characters are read as its day as well. -/
lemma Timestamp.parse?_writtenDay (t : Timestamp) : parse? (writtenDay t.text) = some t.day := by
  rw [t.writtenDay_text, Calendar.parse?_text]

/-- A clock can put the moment on the day before, on the same day and on the day after. -/
lemma exists_clock {shift : Int} (h : shift ∈ [-1, 0, 1]) :
    ∃ c : Clock, c.daysToUniversal = shift := by
  -- One o'clock, eleven o'clock at night, each with an offset of two hours or none.
  let clock (hour : Nat) (hhour : hour ≤ 23) (offset : Offset) : Clock :=
    ⟨'T', hour, 0, 0, [], offset, by decide, hhour, by decide, by decide, by simp⟩
  simp only [List.mem_cons, List.not_mem_nil, or_false] at h
  rcases h with rfl | rfl | rfl
  · exact ⟨clock 1 (by decide) (.shifted '+' 2 0 (by decide) (by decide) (by decide)), by decide⟩
  · exact ⟨clock 1 (by decide) (.universal 'Z' (by decide)), by decide⟩
  · exact ⟨clock 23 (by decide) (.shifted '-' 2 0 (by decide) (by decide) (by decide)), by decide⟩

/-- **Timestamps are read as the day written in them.** A text is accepted as a timestamp if and
only if it is a day whose year has four digits, a separator, a time of day in which a sixtieth
second is allowed, perhaps a fraction, and an offset. It begins with the ten characters of its day,
and it is read as that day and labelled with its month, as these ten characters alone are. So two
accepted texts with the same first ten characters are read and labelled alike. Each such day is
written in timestamps whose moment is on the day before in universal time, on the day itself and on
the day after, and it is read from all of them.

**Proof sketch.** Each reader stops where the numeral or the mark that it reads ends, so what is
read one after the other is what is written one after the other. A text of ten characters is no
timestamp, and as a plain date it is read back. -/
theorem timestamps_read_as_written_day :
    (∀ (s : String) (d : Date),
      ofTimestamp? s.toList = some d ↔ ∃ t : Timestamp, t.text = s ∧ t.day = d) ∧
    (∀ s : String, (ofTimestamp? s.toList).isSome →
      ∃ d, writtenDay s = d.text ∧ parse? s = some d ∧ parse? (writtenDay s) = some d ∧
        monthLabel? s = some d.monthLabel ∧ monthLabel? (writtenDay s) = some d.monthLabel) ∧
    (∀ s s' : String, (ofTimestamp? s.toList).isSome → (ofTimestamp? s'.toList).isSome →
      writtenDay s = writtenDay s' → parse? s = parse? s' ∧ monthLabel? s = monthLabel? s') ∧
    ∀ d : Date, 0 ≤ d.year → d.year ≤ 9999 → ∀ shift ∈ [-1, 0, 1],
      ∃ t : Timestamp, t.day = d ∧ t.clock.daysToUniversal = shift ∧ parse? t.text = some d := by
  have hparts : ∀ s : String, (ofTimestamp? s.toList).isSome → ∃ t : Timestamp, t.text = s := by
    intro s hs
    obtain ⟨d, hd⟩ := Option.isSome_iff_exists.mp hs
    obtain ⟨t, ht, -⟩ := ofTimestamp?_eq_some_iff.mp hd
    exact ⟨t, ht⟩
  refine ⟨fun s d => ofTimestamp?_eq_some_iff, ?_, ?_, ?_⟩
  · intro s hs
    obtain ⟨t, rfl⟩ := hparts s hs
    exact ⟨t.day, t.writtenDay_text, t.parse?_text, t.parse?_writtenDay,
      by rw [monthLabel?, t.parse?_text]; rfl, by rw [monthLabel?, t.parse?_writtenDay]; rfl⟩
  · intro s s' hs hs' hday
    obtain ⟨t, rfl⟩ := hparts s hs
    obtain ⟨t', rfl⟩ := hparts s' hs'
    have hparse : parse? t.text = parse? t'.text := by
      rw [t.parse?_text, t'.parse?_text, ← t.parse?_writtenDay, hday, t'.parse?_writtenDay]
    exact ⟨hparse, by rw [monthLabel?, hparse, monthLabel?]⟩
  · intro d hnonneg hle shift hshift
    obtain ⟨c, hc⟩ := exists_clock hshift
    let t : Timestamp := ⟨d, c, hnonneg, hle⟩
    exact ⟨t, rfl, hc, t.parse?_text⟩

/-- A leap day: early on a clock that is far ahead, in a leap second and with a fraction, and late
on a clock that is far behind. -/
theorem timestamps_read_as_written_day_leapDay :
    (∃ d, writtenDay "2024-02-29t00:30:60.25+23:59" = d.text ∧
      parse? "2024-02-29t00:30:60.25+23:59" = some d ∧
      parse? (writtenDay "2024-02-29t00:30:60.25+23:59") = some d ∧
      monthLabel? "2024-02-29t00:30:60.25+23:59" = some d.monthLabel ∧
      monthLabel? (writtenDay "2024-02-29t00:30:60.25+23:59") = some d.monthLabel) ∧
    (parse? "2024-02-29t00:30:60.25+23:59" = parse? "2024-02-29 23:59:59−23:59" ∧
      monthLabel? "2024-02-29t00:30:60.25+23:59" = monthLabel? "2024-02-29 23:59:59−23:59") ∧
    ∃ t : Timestamp, t.day = ⟨2024, 2, 29, by decide⟩ ∧ t.clock.daysToUniversal = -1 ∧
      parse? t.text = some ⟨2024, 2, 29, by decide⟩ := by
  obtain ⟨-, hread, halike, hshifted⟩ := timestamps_read_as_written_day
  have hearly : (ofTimestamp? "2024-02-29t00:30:60.25+23:59".toList).isSome := by decide +kernel
  have hlate : (ofTimestamp? "2024-02-29 23:59:59−23:59".toList).isSome := by decide +kernel
  exact ⟨hread _ hearly, halike _ _ hearly hlate (by decide +kernel),
    hshifted _ (by decide) (by decide) _ (by decide)⟩

end Calendar

end CampusBoard
