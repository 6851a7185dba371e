import CampusBoard.Proofs.Text.Cuts
import CampusBoard.Proofs.Text.Numerals
import CampusBoard.Traffic.Count
import Mathlib.Tactic.Common
import Mathlib.Tactic.Lemma

/-!
# Count labels are rounded in order

A label of a visitor count can be read back as a number. From a thousand on, that number is the
count rounded to a tenth of the largest unit that fits, a half going up. A greater count never
shows a smaller number, also where the two labels have different units.

## Design

The number shown is described without the text first. Rounding to tenths of a unit keeps the order
and leaves multiples of the unit as they are. Each unit is a multiple of the smaller ones, so a
count below a unit shows at most that unit, whatever smaller unit it is shown in, and a count from
the unit on shows at least that unit.

## Main definitions

* `CampusBoard.CountUnit.IsLargest`: the largest unit that fits a count.
* `CampusBoard.CountUnit.shown`: a count rounded to tenths of a unit.
* `CampusBoard.readCount?`: the number that a label shows.

## Main results

* `CampusBoard.CountUnit.shown_bounds`: how far the number shown is from the count.
* `CampusBoard.shownCount_mono`: a greater count shows no smaller number.
* `CampusBoard.readCount?_countLabel`: what a label shows.
* `CampusBoard.countLabel_rounds_in_order`: all of it about the labels themselves.
-/

set_option autoImplicit false

namespace CampusBoard

/-! ## Units -/

namespace CountUnit

/-- `u` is the largest unit not above `count`. -/
structure IsLargest (u : CountUnit) (count : Nat) : Prop where
  /-- It is not above the count. -/
  fits : u.size ≤ count
  /-- No larger one fits. -/
  largest : ∀ v : CountUnit, v.size ≤ count → v.size ≤ u.size

variable {u v : CountUnit} {count count' : Nat}

/-- The size of a unit is positive. -/
lemma size_pos (u : CountUnit) : 0 < u.size := by
  cases u <;> decide

/-- A tenth of a unit is an even number of visitors. -/
lemma twenty_dvd_size (u : CountUnit) : 20 ∣ u.size := by
  cases u <;> decide

/-- No unit is below a thousand. -/
lemma thousand_le_size (u : CountUnit) : 1000 ≤ u.size := by
  cases u <;> decide

/-- Larger units are multiples of smaller ones. -/
lemma size_dvd_size (h : u.size ≤ v.size) : u.size ∣ v.size := by
  revert h
  cases u <;> cases v <;> decide

/-- Units of the same size are the same. -/
lemma eq_of_size_eq (h : u.size = v.size) : u = v := by
  revert h
  cases u <;> cases v <;> decide

/-- The units are tried from the largest on. -/
lemma of?_eq_ite (count : Nat) :
    of? count =
      if billion.size ≤ count then some billion
      else if million.size ≤ count then some million
      else if thousand.size ≤ count then some thousand
      else none := by
  simp only [of?, List.find?_cons, List.find?_nil]
  split_ifs with hbillion hmillion hthousand
  · rw [decide_eq_true hbillion]
  · rw [decide_eq_false hbillion, decide_eq_true hmillion]
  · rw [decide_eq_false hbillion, decide_eq_false hmillion, decide_eq_true hthousand]
  · rw [decide_eq_false hbillion, decide_eq_false hmillion, decide_eq_false hthousand]

/-- Below a thousand there is no unit. -/
lemma of?_eq_none_iff : of? count = none ↔ count < 1000 := by
  simp only [of?, List.find?_eq_none, decide_eq_true_eq, Nat.not_le]
  constructor
  · intro h
    exact h .thousand (by decide)
  · intro h u _
    exact h.trans_le u.thousand_le_size

/-- The unit of a count is the largest that fits. -/
lemma isLargest_of_of? (h : of? count = some u) : u.IsLargest count := by
  rw [of?_eq_ite] at h
  split_ifs at h with hbillion hmillion hthousand <;> obtain rfl := Option.some.inj h
  · exact ⟨hbillion, fun v _ => by cases v <;> decide⟩
  · refine ⟨hmillion, fun v hv => ?_⟩
    cases v with
    | billion => exact absurd hv hbillion
    | _ => decide
  · refine ⟨hthousand, fun v hv => ?_⟩
    cases v with
    | billion => exact absurd hv hbillion
    | million => exact absurd hv hmillion
    | thousand => decide

/-- There is one largest unit. -/
lemma of?_eq_some_iff : of? count = some u ↔ u.IsLargest count := by
  refine ⟨isLargest_of_of?, fun h => ?_⟩
  cases hof : of? count with
  | none =>
    have hsmall := of?_eq_none_iff.mp hof
    have hfits := u.thousand_le_size.trans h.fits
    omega
  | some v =>
    have hv := isLargest_of_of? hof
    rw [eq_of_size_eq (Nat.le_antisymm (hv.largest u h.fits) (h.largest v hv.fits))]

/-! ## Rounding -/

/-- A count rounded to tenths of a unit. -/
def shown (u : CountUnit) (count : Nat) : Nat :=
  u.tenths count * u.size / 10

/-- The tenths make up the number that is shown without a rest. -/
lemma ten_mul_shown (u : CountUnit) (count : Nat) :
    10 * u.shown count = u.tenths count * u.size := by
  obtain ⟨k, hk⟩ := u.twenty_dvd_size
  exact Nat.mul_div_cancel' (Nat.dvd_mul_left_of_dvd ⟨2 * k, by omega⟩ _)

/-- **How far the number shown is from the count**: above it by a twentieth of the unit at most,
below it by less. -/
theorem shown_bounds (u : CountUnit) (count : Nat) :
    20 * count < 20 * u.shown count + u.size ∧ 20 * u.shown count ≤ 20 * count + u.size := by
  obtain ⟨k, hk⟩ := u.twenty_dvd_size
  have hshown := u.ten_mul_shown count
  have hlow : u.tenths count * u.size ≤ count * 10 + u.size / 2 := Nat.div_mul_le_self _ _
  have hhigh : count * 10 + u.size / 2 < u.tenths count * u.size + u.size :=
    Nat.lt_div_mul_add u.size_pos
  omega

/-- In one unit, a greater count shows no smaller number. -/
lemma shown_mono (u : CountUnit) (h : count ≤ count') : u.shown count ≤ u.shown count' := by
  have htenths : u.tenths count ≤ u.tenths count' := Nat.div_le_div_right (by omega)
  exact Nat.div_le_div_right (Nat.mul_le_mul_right _ htenths)

/-- A multiple of the unit is shown as it is. -/
lemma shown_of_dvd (h : u.size ∣ count) : u.shown count = count := by
  obtain ⟨k, rfl⟩ := h
  have hpos := u.size_pos
  have hrest : u.size / 2 / u.size = 0 := Nat.div_eq_of_lt (by omega)
  have htenths : u.tenths (u.size * k) = k * 10 := by
    have hcomm : u.size * k * 10 = u.size * (k * 10) := Nat.mul_assoc _ _ _
    rw [tenths, hcomm, Nat.mul_add_div hpos, hrest, Nat.add_zero]
  have hten : k * 10 * u.size = u.size * k * 10 := by
    rw [Nat.mul_comm, Nat.mul_assoc]
  rw [shown, htenths, hten, Nat.mul_div_cancel _ (by decide)]

/-- A count from a unit on shows at least that unit. -/
lemma size_le_shown (h : u.size ≤ count) : u.size ≤ u.shown count :=
  calc u.size = u.shown u.size := (shown_of_dvd (Nat.dvd_refl _)).symm
    _ ≤ u.shown count := u.shown_mono h

/-- The tenths that are shown are no more than the count. -/
lemma IsLargest.tenths_le (h : u.IsLargest count) : u.tenths count ≤ count := by
  have hlow : u.tenths count * u.size ≤ count * 10 + u.size / 2 := Nat.div_mul_le_self _ _
  have hsize : u.tenths count * 1000 ≤ u.tenths count * u.size :=
    Nat.mul_le_mul_left _ u.thousand_le_size
  have hfits := h.fits
  omega

end CountUnit

/-! ## Counts -/

open CountUnit

/-- The number that is shown for a count. -/
def shownCount (count : Nat) : Nat :=
  match CountUnit.of? count with
  | some u => u.shown count
  | none => count

variable {u : CountUnit} {count count' : Nat}

/-- From the smallest unit on, the count is rounded. -/
lemma shownCount_of_isLargest (h : u.IsLargest count) : shownCount count = u.shown count := by
  rw [shownCount, of?_eq_some_iff.mpr h]

/-- Below the smallest unit, the count is shown as it is. -/
lemma shownCount_of_lt (h : count < 1000) : shownCount count = count := by
  rw [shownCount, of?_eq_none_iff.mpr h]

/-- A count below a unit shows at most that unit. -/
lemma shownCount_le_size (h : count < u.size) : shownCount count ≤ u.size := by
  cases hof : CountUnit.of? count with
  | none =>
    rw [shownCount_of_lt (of?_eq_none_iff.mp hof)]
    exact h.le
  | some v =>
    have hv := of?_eq_some_iff.mp hof
    have hsize : v.size ≤ u.size := hv.fits.trans h.le
    calc shownCount count = v.shown count := shownCount_of_isLargest hv
      _ ≤ v.shown u.size := v.shown_mono h.le
      _ = u.size := shown_of_dvd (size_dvd_size hsize)

/-- **A greater count shows no smaller number**, be it in the same unit or in a larger one. -/
theorem shownCount_mono (h : count ≤ count') : shownCount count ≤ shownCount count' := by
  cases hof : CountUnit.of? count' with
  | none =>
    have hlt := of?_eq_none_iff.mp hof
    rw [shownCount_of_lt hlt, shownCount_of_lt (h.trans_lt hlt)]
    exact h
  | some u =>
    have hu := of?_eq_some_iff.mp hof
    rw [shownCount_of_isLargest hu]
    rcases Nat.lt_or_ge count u.size with hbelow | hfits
    · exact (shownCount_le_size hbelow).trans (size_le_shown hu.fits)
    · -- the unit that fits both counts is the largest for the smaller one, too
      have hsame : u.IsLargest count := ⟨hfits, fun v hv => hu.largest v (hv.trans h)⟩
      rw [shownCount_of_isLargest hsame]
      exact u.shown_mono h

/-! ## Labels -/

/-- The unit that a letter stands for. -/
def CountUnit.ofLetter? (letter : List Char) : Option CountUnit :=
  [thousand, million, billion].find? fun u => u.letter.toList == letter

/-- The number that a label shows: a whole number, or a number with one place and the letter of a
unit behind it. -/
def readCount? (label : String) : Option Nat :=
  match Text.cut '.' label.toList with
  | (whole, none) => Text.unsigned? UInt64.size whole
  | (whole, some after) => do
    let unit ← CountUnit.ofLetter? (after.drop 1)
    let tenths ← Text.unsigned? 10 (after.take 1)
    let units ← Text.unsigned? UInt64.size whole
    return (10 * units + tenths) * unit.size / 10

/-- A unit is known from its letter. -/
lemma CountUnit.ofLetter?_letter (u : CountUnit) : ofLetter? u.letter.toList = some u := by
  cases u <;> rfl

/-- There is no point in a numeral. -/
lemma point_notMem_toDigits (n : Nat) : '.' ∉ Nat.toDigits 10 n := by
  intro h
  exact absurd (Nat.isDigit_of_mem_toDigits (by decide) (by decide) h) (by decide)

/-- A whole number is read back. -/
lemma readCount?_toString {n : Nat} (h : n < UInt64.size) : readCount? (toString n) = some n := by
  have hchars : (toString n).toList = Nat.toDigits 10 n := Nat.toList_repr
  rw [readCount?, hchars, Text.cut_of_notMem (point_notMem_toDigits n)]
  exact Text.unsigned?_toDigits h

/-- A number with a place and a unit is read back. -/
lemma readCount?_append {whole digit : Nat} (u : CountUnit) (hwhole : whole < UInt64.size)
    (hdigit : digit < 10) :
    readCount? (toString whole ++ "." ++ toString digit ++ u.letter) =
      some ((10 * whole + digit) * u.size / 10) := by
  have hplace : (toString digit).toList = [digit.digitChar] :=
    Nat.toList_repr.trans (Nat.toDigits_of_lt_base hdigit)
  have hchars : (toString whole ++ "." ++ toString digit ++ u.letter).toList =
      Nat.toDigits 10 whole ++ '.' :: (digit.digitChar :: u.letter.toList) := by
    simp only [String.toList_append, hplace]
    rw [show (toString whole).toList = Nat.toDigits 10 whole from Nat.toList_repr]
    simp
  have hread : Text.unsigned? 10 [digit.digitChar] = some digit := by
    rw [← Nat.toDigits_of_lt_base hdigit]
    exact Text.unsigned?_toDigits hdigit
  rw [readCount?, hchars, Text.cut_append (point_notMem_toDigits whole)]
  simp [CountUnit.ofLetter?_letter, hread, Text.unsigned?_toDigits hwhole]

/-- Below a thousand, the label is the plain number. -/
lemma countLabel_of_lt {count : UInt64} (h : count.toNat < 1000) :
    countLabel count = toString count.toNat := by
  rw [countLabel, CountUnit.of?_eq_none_iff.mpr h]

/-- From a thousand on, the label has the tenths of the largest unit. -/
lemma countLabel_of_isLargest {count : UInt64} (h : u.IsLargest count.toNat) :
    countLabel count =
      toString (u.tenths count.toNat / 10) ++ "." ++ toString (u.tenths count.toNat % 10) ++
        u.letter := by
  rw [countLabel, CountUnit.of?_eq_some_iff.mpr h]

/-- **A label shows the number that its count is rounded to.** -/
theorem readCount?_countLabel (count : UInt64) :
    readCount? (countLabel count) = some (shownCount count.toNat) := by
  cases hof : CountUnit.of? count.toNat with
  | none =>
    have hlt := CountUnit.of?_eq_none_iff.mp hof
    rw [countLabel_of_lt hlt, shownCount_of_lt hlt]
    exact readCount?_toString count.toNat_lt
  | some u =>
    have hu := CountUnit.of?_eq_some_iff.mp hof
    have hwhole : u.tenths count.toNat / 10 < UInt64.size :=
      ((Nat.div_le_self _ _).trans hu.tenths_le).trans_lt count.toNat_lt
    have hdigit : u.tenths count.toNat % 10 < 10 := Nat.mod_lt _ (by decide)
    rw [countLabel_of_isLargest hu, readCount?_append u hwhole hdigit, Nat.div_add_mod,
      shownCount_of_isLargest hu, CountUnit.shown]

/-- **Count labels are rounded in order.** The units are a thousand, a million and a billion, with
the letters K, M and B. Each label can be read back as a number. Below a thousand it is the count
itself, written plainly. From a thousand on, it is a whole number, a point, one digit and the letter
of the largest unit not above the count; the number that they show is above the count by at most a
twentieth of the unit and below it by less than that, so it is the count rounded to a tenth of the
unit, a half going up. A greater count never shows a smaller number.

**Proof sketch.** The tenths that are shown are the quotient of ten times the count and half a unit
by the unit, which gives the bounds and keeps the order in one unit. Of two units the larger is a
multiple of the smaller, so it is shown as it is in both: counts below it show at most the larger
unit, counts from it on at least. -/
theorem countLabel_rounds_in_order :
    (∀ u : CountUnit, (u, u.size, u.letter) ∈
      [(.thousand, 1000, "K"), (.million, 1000000, "M"), (.billion, 1000000000, "B")]) ∧
    (∀ count : UInt64, ∃ value, readCount? (countLabel count) = some value ∧
      (count.toNat < 1000 → countLabel count = toString count.toNat ∧ value = count.toNat) ∧
      (1000 ≤ count.toNat → ∃ u : CountUnit, ∃ whole digit, u.IsLargest count.toNat ∧
        digit < 10 ∧ countLabel count = toString whole ++ "." ++ toString digit ++ u.letter ∧
        10 * value = (10 * whole + digit) * u.size ∧
        20 * count.toNat < 20 * value + u.size ∧ 20 * value ≤ 20 * count.toNat + u.size)) ∧
    ∀ count count' : UInt64, count ≤ count' → ∀ value value',
      readCount? (countLabel count) = some value →
      readCount? (countLabel count') = some value' → value ≤ value' := by
  refine ⟨?_, ?_, ?_⟩
  · intro u
    cases u <;> decide
  · intro count
    refine ⟨shownCount count.toNat, readCount?_countLabel count, ?_, ?_⟩
    · intro hlt
      exact ⟨countLabel_of_lt hlt, shownCount_of_lt hlt⟩
    · intro hge
      cases hof : CountUnit.of? count.toNat with
      | none => exact absurd (CountUnit.of?_eq_none_iff.mp hof) (Nat.not_lt.mpr hge)
      | some u =>
        have hu := CountUnit.of?_eq_some_iff.mp hof
        refine ⟨u, u.tenths count.toNat / 10, u.tenths count.toNat % 10, hu,
          Nat.mod_lt _ (by decide), countLabel_of_isLargest hu, ?_, ?_⟩
        · rw [shownCount_of_isLargest hu, u.ten_mul_shown, Nat.div_add_mod]
        · rw [shownCount_of_isLargest hu]
          exact u.shown_bounds count.toNat
  · intro count count' hle value value' hvalue hvalue'
    rw [readCount?_countLabel] at hvalue hvalue'
    obtain rfl := Option.some.inj hvalue
    obtain rfl := Option.some.inj hvalue'
    exact shownCount_mono (UInt64.le_iff_toNat_le.mp hle)

/-- The last count below a million is shown in thousands and the million itself in millions, and
both show a million. -/
theorem countLabel_rounds_in_order_acrossUnits :
    (1000 ≤ (999999 : UInt64).toNat ∧
      ∃ value, readCount? (countLabel 999999) = some value ∧
        ∃ u : CountUnit, ∃ whole digit, u.IsLargest (999999 : UInt64).toNat ∧
          digit < 10 ∧ countLabel 999999 = toString whole ++ "." ++ toString digit ++ u.letter ∧
          10 * value = (10 * whole + digit) * u.size ∧
          20 * (999999 : UInt64).toNat < 20 * value + u.size ∧
          20 * value ≤ 20 * (999999 : UInt64).toNat + u.size) ∧
    (999999 : UInt64) ≤ 1000000 ∧
    readCount? (countLabel 999999) = some 1000000 ∧
    readCount? (countLabel 1000000) = some 1000000 ∧ 1000000 ≤ 1000000 := by
  obtain ⟨-, hshows, horder⟩ := countLabel_rounds_in_order
  obtain ⟨value, hread, -, hlarge⟩ := hshows 999999
  have hbefore : readCount? (countLabel 999999) = some 1000000 := readCount?_countLabel 999999
  have hafter : readCount? (countLabel 1000000) = some 1000000 := readCount?_countLabel 1000000
  exact ⟨⟨by decide, value, hread, hlarge (by decide)⟩, by decide, hbefore, hafter,
    horder 999999 1000000 (by decide) _ _ hbefore hafter⟩

/-- A half goes up, here in the first place. -/
example : countLabel 1249 = "1.2K" ∧ countLabel 1250 = "1.3K" := by
  decide +kernel

end CampusBoard
