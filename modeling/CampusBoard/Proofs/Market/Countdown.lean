import CampusBoard.Market.Expiry
import CampusBoard.Proofs.Calendar.DayCount
import Mathlib.Tactic.Common
import Mathlib.Tactic.Lemma

/-!
# The countdown counts days

The countdown to the end of a sale shows how many days one has to go on from today to come to the
last day. A last day that is not ahead counts as today.

## Main results

* `CampusBoard.later?_eq_some_iff_daysLeft`: the days that are left are next days of the calendar.
* `CampusBoard.daysLeft_of_next?`: there is one more for the day after.
* `CampusBoard.expiryLabel_counts_days`: the label and the colour of each countdown.
-/

set_option autoImplicit false

namespace CampusBoard

open Calendar

variable {expires today : Date}

/-- Nothing is left until a day that is not ahead. -/
lemma daysLeft_of_not_lt (h : ¬today < expires) : daysLeft expires today = 0 := by
  rw [← Date.dayNumber_lt_iff] at h
  unfold daysLeft
  omega

/-- A day is left at least until a day ahead. -/
lemma daysLeft_pos (h : today < expires) : 1 ≤ daysLeft expires today := by
  rw [← Date.dayNumber_lt_iff] at h
  unfold daysLeft
  omega

/-- **The days that are left** until a day ahead are the next days by which it comes after today. -/
theorem later?_eq_some_iff_daysLeft (h : today < expires) (n : Nat) :
    Date.later? n today = some expires ↔ n = daysLeft expires today := by
  rw [← Date.dayNumber_lt_iff] at h
  rw [Date.later?_eq_some_iff, daysLeft]
  omega

/-- **One more day is left** until the day after, unless that is past. -/
theorem daysLeft_of_next? {following : Date} (h : ¬expires < today)
    (hnext : expires.next? = some following) :
    daysLeft following today = daysLeft expires today + 1 := by
  rw [← Date.dayNumber_lt_iff] at h
  have hone := Date.dayNumber_of_next? hnext
  unfold daysLeft
  omega

/-- The label and the colour of a countdown, by the days that are left. -/
lemma expiryLabel_eq (expires today : Date) :
    expiryLabel expires today =
      if daysLeft expires today = 0 then ("Expires today!", .red)
      else if daysLeft expires today = 1 then ("Expires tommorow!", .yellow)
      else ("Expires in " ++ toString (daysLeft expires today) ++ " days.", .green) := by
  unfold expiryLabel
  split
  next h => rw [if_pos h]
  next h => rw [h]; rfl
  next hzero hone => rw [if_neg hzero, if_neg hone]

/-- **The countdown counts days.** To a day that is not after today it is red and says that the sale
ends today. To any later day one comes from today by a number of next days of the calendar, and by
one such number only. For the first of them the countdown is yellow, for the others it is green and
shows the number. From one last day to the next, today or later, the count grows by one.

**Proof sketch.** The number of a date grows by one to the next day: within a month by its
definition, at the end of a month because the days of the months are added up, and at the end of a
year because the quotients by 4, 100 and 400 grow as the leap day asks for. So a date is as many
next days later as its number is greater, and the days that are left are the difference of the
numbers. -/
theorem expiryLabel_counts_days :
    (∀ expires today : Date, ¬today < expires →
      expiryLabel expires today = ("Expires today!", .red)) ∧
    (∀ expires today : Date, today < expires →
      ∃ n, 1 ≤ n ∧ (∀ m, Date.later? m today = some expires ↔ m = n) ∧
        daysLeft expires today = n ∧
        expiryLabel expires today =
          if n = 1 then ("Expires tommorow!", .yellow)
          else ("Expires in " ++ toString n ++ " days.", .green)) ∧
    ∀ expires today following : Date, ¬expires < today → expires.next? = some following →
      daysLeft following today = daysLeft expires today + 1 := by
  refine ⟨?_, ?_, ?_⟩
  · intro expires today h
    rw [expiryLabel_eq, if_pos (daysLeft_of_not_lt h)]
  · intro expires today h
    have hpos := daysLeft_pos h
    refine ⟨daysLeft expires today, hpos, later?_eq_some_iff_daysLeft h, rfl, ?_⟩
    rw [expiryLabel_eq, if_neg (by omega)]
  · intro expires today following h hnext
    exact daysLeft_of_next? h hnext

/-- The twenty-eighth of February of the year zero: the countdown to that day, the countdown to the
day after the leap day, and from another day the countdowns to the last day of a year and to the
first of the next. -/
theorem expiryLabel_counts_days_yearZero :
    expiryLabel ⟨0, 2, 28, by decide⟩ ⟨0, 2, 28, by decide⟩ = ("Expires today!", .red) ∧
    (∃ n, 1 ≤ n ∧
      (∀ m, Date.later? m ⟨0, 2, 28, by decide⟩ = some ⟨0, 3, 1, by decide⟩ ↔ m = n) ∧
      daysLeft ⟨0, 3, 1, by decide⟩ ⟨0, 2, 28, by decide⟩ = n ∧
      expiryLabel ⟨0, 3, 1, by decide⟩ ⟨0, 2, 28, by decide⟩ =
        if n = 1 then ("Expires tommorow!", .yellow)
        else ("Expires in " ++ toString n ++ " days.", .green)) ∧
    daysLeft ⟨0, 1, 1, by decide⟩ ⟨-1, 3, 1, by decide⟩ =
      daysLeft ⟨-1, 12, 31, by decide⟩ ⟨-1, 3, 1, by decide⟩ + 1 := by
  obtain ⟨hpast, hahead, hgrows⟩ := expiryLabel_counts_days
  exact ⟨hpast _ _ (by decide), hahead _ _ (by decide), hgrows _ _ _ (by decide) (by decide)⟩

/-- A century has no leap day. -/
example : expiryLabel ⟨1900, 3, 1, by decide⟩ ⟨1900, 2, 28, by decide⟩ =
    ("Expires tommorow!", .yellow) := by
  decide +kernel

/-- Every fourth century has one. -/
example : expiryLabel ⟨2000, 3, 1, by decide⟩ ⟨2000, 2, 28, by decide⟩ =
    ("Expires in 2 days.", .green) := by
  decide +kernel

end CampusBoard
