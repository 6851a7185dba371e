import CampusBoard.Text.Blank
import CampusBoard.Text.Numeral
import Mathlib.Data.List.Induction
import Mathlib.Tactic.Common
import Mathlib.Tactic.Lemma

/-!
# Numerals

A numeral has no zero in front that it does not need, be it written as short as possible or padded
to a width.

## Main definitions

* `CampusBoard.Text.IsPadded`: a numeral with zeros in front up to a width.

## Main results

* `CampusBoard.Text.eq_zero_of_head?_toDigits`: only the numeral of zero begins with a zero.
* `CampusBoard.Text.isPadded_padded`: a padded numeral is as its rule says.
* `CampusBoard.Text.padded_numeralValue`: digits are the padded numeral of their number.
* `CampusBoard.Text.unsigned?_eq_some_iff`: which texts are read as a number below a bound.
-/

set_option autoImplicit false

namespace CampusBoard.Text

/-! ## Digits -/

/-- Only the numeral of zero begins with a zero. -/
lemma eq_zero_of_head?_toDigits (n : Nat) (h : (Nat.toDigits 10 n).head? = some '0') : n = 0 := by
  induction n using Nat.strongRecOn with
  | ind n ih =>
    rw [Nat.toDigits_eq_if (by decide)] at h
    split_ifs at h with hlt
    · have hchar : n.digitChar = '0' := by simpa using h
      have hcode := Nat.toNat_digitChar_of_lt_ten hlt
      rw [hchar] at hcode
      simpa using hcode
    · have hhead : (Nat.toDigits 10 (n / 10)).head? = some '0' := by
        simpa [List.head?_append, List.head?_eq_some_head Nat.toDigits_ne_nil] using h
      have := ih (n / 10) (by omega) hhead
      omega

/-- A digit is not blank. -/
lemma isBlank_of_isDigit {c : Char} (h : c.isDigit = true) : isBlank c = false := by
  simp only [Char.isDigit, Bool.and_eq_true, decide_eq_true_eq] at h
  have hlow : 48 ≤ c.toNat := UInt32.le_iff_toNat_le.mp h.1
  have hhigh : c.toNat ≤ 57 := UInt32.le_iff_toNat_le.mp h.2
  rw [← Bool.not_eq_true, isBlank, inRanges_iff]
  rintro ⟨range, hrange, hfrom, hto⟩
  have hapart : ∀ r ∈ blankRanges, r.2 < 48 ∨ 57 < r.1 := by decide
  rcases hapart range hrange with hbelow | habove <;> omega

/-- A digit is the digit of a number below ten. -/
lemma exists_digitChar_eq {c : Char} (h : c.isDigit = true) : ∃ k < 10, k.digitChar = c := by
  simp only [Char.isDigit, Bool.and_eq_true, decide_eq_true_eq] at h
  have hlow : 48 ≤ c.toNat := UInt32.le_iff_toNat_le.mp h.1
  have hhigh : c.toNat ≤ 57 := UInt32.le_iff_toNat_le.mp h.2
  have hk : c.toNat - 48 < 10 := by omega
  refine ⟨c.toNat - 48, hk, Char.toNat_inj.mp ?_⟩
  rw [Nat.toNat_digitChar_of_lt_ten hk]
  omega

/-! ## Padded numerals -/

/-- The digits of `n`, with zeros in front only as far as they are needed to reach `width`. -/
structure IsPadded (width n : Nat) (digits : List Char) : Prop where
  /-- There is nothing but digits. -/
  isDigit : ∀ c ∈ digits, c.isDigit = true
  /-- They stand for the number. -/
  value : numeralValue digits = n
  /-- There are as many as asked for, or more. -/
  width_le : width ≤ digits.length
  /-- If there are more, the first is no zero. -/
  head : width < digits.length → digits.head? ≠ some '0'

variable {width n : Nat}

/-- A padded numeral has the width, or as many digits as the number. -/
lemma length_padded : (padded width n).length = max width (Nat.toDigits 10 n).length := by
  simp only [padded, List.length_append, List.length_replicate]
  omega

/-- A padded numeral has the width if the number has no more digits. -/
lemma length_padded_of_lt (width : Nat) (hwidth : 0 < width) (hn : n < Nat.pow 10 width) :
    (padded width n).length = width := by
  have hdigits : (Nat.toDigits 10 n).length ≤ width :=
    (Nat.length_toDigits_le_iff (by decide) hwidth).mpr hn
  rw [length_padded]
  omega

/-- A padded numeral stands for its number. -/
lemma numeralValue_padded : numeralValue (padded width n) = n := by
  simp [padded, numeralValue, Nat.ofDigitChars_append]

/-- A padded numeral has nothing but digits. -/
lemma isDigit_of_mem_padded {c : Char} (h : c ∈ padded width n) : c.isDigit = true := by
  rcases List.mem_append.mp h with hzero | hdigit
  · rw [List.eq_of_mem_replicate hzero]
    decide
  · exact Nat.isDigit_of_mem_toDigits (by decide) (by decide) hdigit

/-- A padded numeral is as its rule says. -/
lemma isPadded_padded (hwidth : 0 < width) : IsPadded width n (padded width n) where
  isDigit _ := isDigit_of_mem_padded
  value := numeralValue_padded
  width_le := by
    rw [length_padded]
    exact Nat.le_max_left _ _
  head hlong hzero := by
    rw [length_padded] at hlong
    have hnone : width - (Nat.toDigits 10 n).length = 0 := by omega
    rw [padded, hnone, List.replicate_zero, List.nil_append] at hzero
    obtain rfl := eq_zero_of_head?_toDigits n hzero
    have hone : (Nat.toDigits 10 0).length = 1 := rfl
    omega

/-- A padded numeral begins with a digit. -/
lemma exists_padded_eq_cons (width n : Nat) :
    ∃ c cs, padded width n = c :: cs ∧ c.isDigit = true := by
  have hne : padded width n ≠ [] := by
    simp [padded, Nat.toDigits_ne_nil]
  obtain ⟨c, cs, hcons⟩ := List.exists_cons_of_ne_nil hne
  exact ⟨c, cs, hcons, isDigit_of_mem_padded (hcons ▸ List.mem_cons_self)⟩

/-! ## Digits as padded numerals -/

/-- One more digit at the end, for a numeral that has one already. -/
lemma padded_succ {k : Nat} (hwidth : 0 < width) (hk : k < 10) :
    padded (width + 1) (10 * n + k) = padded width n ++ [k.digitChar] := by
  rcases Nat.eq_zero_or_pos n with rfl | hn
  · have hdigit : Nat.toDigits 10 k = [k.digitChar] := Nat.toDigits_of_lt_base hk
    have hzeros : List.replicate (width - 1) '0' ++ ['0'] = List.replicate width '0' := by
      rw [← List.replicate_succ', Nat.sub_add_cancel hwidth]
    simp [padded, hdigit, hzeros]
  · have hdigits : Nat.toDigits 10 (10 * n + k) = Nat.toDigits 10 n ++ [k.digitChar] := by
      rw [← Nat.toDigits_append_toDigits (by decide) hn hk, Nat.toDigits_of_lt_base hk]
    simp [padded, hdigits]

/-- **Digits are a padded numeral**, of the number that they stand for. -/
theorem padded_numeralValue {digits : List Char} (hne : digits ≠ [])
    (hdigits : ∀ c ∈ digits, c.isDigit = true) :
    padded digits.length (numeralValue digits) = digits := by
  induction digits using List.reverseRecOn with
  | nil => exact absurd rfl hne
  | append_singleton front c ih =>
    obtain ⟨k, hk, rfl⟩ := exists_digitChar_eq (hdigits c (by simp))
    have hvalue : numeralValue (front ++ [k.digitChar]) = 10 * numeralValue front + k := by
      simp [numeralValue, Nat.ofDigitChars_append, Nat.ofDigitChars_cons,
        Nat.toNat_digitChar_of_lt_ten hk]
    rw [hvalue, List.length_append, List.length_singleton]
    by_cases hfront : front = []
    · subst hfront
      simp [padded, numeralValue, Nat.toDigits_of_lt_base hk]
    · have hback := ih hfront fun d hd => hdigits d (List.mem_append_left _ hd)
      rw [padded_succ (List.length_pos_iff.mpr hfront) hk, hback]

/-- Two numerals of two digits, side by side, are one of four. -/
lemma padded_append_padded {a b : Nat} (ha : a < 100) (hb : b < 100) :
    padded 2 a ++ padded 2 b = padded 4 (100 * a + b) := by
  have hla : (padded 2 a).length = 2 := length_padded_of_lt 2 (by decide) ha
  have hlb : (padded 2 b).length = 2 := length_padded_of_lt 2 (by decide) hb
  have hlength : (padded 2 a ++ padded 2 b).length = 4 := by
    rw [List.length_append, hla, hlb]
  have hvalue : numeralValue (padded 2 a ++ padded 2 b) = 100 * a + b := by
    have hva : numeralValue (padded 2 a) = a := numeralValue_padded
    have hvb : numeralValue (padded 2 b) = b := numeralValue_padded
    unfold numeralValue at hva hvb ⊢
    rw [Nat.ofDigitChars_append, Nat.ofDigitChars_eq_ofDigitChars_zero, hlb, hva, hvb]
  have hdigits : ∀ c ∈ padded 2 a ++ padded 2 b, c.isDigit = true := by
    intro c hc
    rcases List.mem_append.mp hc with h | h
    · exact isDigit_of_mem_padded h
    · exact isDigit_of_mem_padded h
  rw [← padded_numeralValue (List.ne_nil_of_length_eq_add_one hlength) hdigits, hlength, hvalue]

/-! ## Numerals read below a bound -/

/-- A numeral that is padded to no width is as short as possible. -/
@[simp]
lemma padded_zero (n : Nat) : padded 0 n = Nat.toDigits 10 n := by
  simp [padded]

/-- A text without its plus sign is the text itself, or one behind a plus sign. -/
lemma withoutPlus_cases (cs : List Char) :
    cs = withoutPlus cs ∨ cs = '+' :: withoutPlus cs := by
  unfold withoutPlus
  split
  · exact .inr rfl
  · exact .inl rfl

/-- A padded numeral has no plus sign. -/
lemma withoutPlus_padded : withoutPlus (padded width n) = padded width n := by
  obtain ⟨c, cs, hcons, hdigit⟩ := exists_padded_eq_cons width n
  have hplus : c ≠ '+' := by
    rintro rfl
    exact absurd hdigit (by decide)
  rw [hcons]
  unfold withoutPlus
  split
  · rename_i heq
    exact absurd (List.cons.inj heq).1 hplus
  · rfl

/-- **Which texts are read as a number** below a bound: its numeral, with any number of zeros in
front and perhaps a plus sign before them. -/
theorem unsigned?_eq_some_iff {bound : Nat} {cs : List Char} :
    unsigned? bound cs = some n ↔
      n < bound ∧ ∃ width, cs = padded width n ∨ cs = '+' :: padded width n := by
  constructor
  · intro h
    simp only [unsigned?, Option.ite_none_right_eq_some, Bool.and_eq_true, Bool.not_eq_true',
      List.isEmpty_eq_false_iff, List.all_eq_true, decide_eq_true_eq, Option.some.injEq] at h
    obtain ⟨⟨⟨hne, hdigits⟩, hlt⟩, rfl⟩ := h
    refine ⟨hlt, (withoutPlus cs).length, ?_⟩
    rw [padded_numeralValue hne hdigits]
    exact withoutPlus_cases cs
  · rintro ⟨hlt, width, hcs⟩
    have hplus : withoutPlus cs = padded width n := by
      rcases hcs with rfl | rfl
      · exact withoutPlus_padded
      · rfl
    obtain ⟨c, rest, hcons, -⟩ := exists_padded_eq_cons width n
    have hne : (padded width n).isEmpty = false := by
      rw [hcons]
      rfl
    have hdigits : (padded width n).all Char.isDigit = true :=
      List.all_eq_true.mpr fun _ => isDigit_of_mem_padded
    simp [unsigned?, hplus, hne, hdigits, numeralValue_padded, hlt]

/-- The numeral of a number below the bound is read. -/
lemma unsigned?_toDigits {bound : Nat} (h : n < bound) :
    unsigned? bound (Nat.toDigits 10 n) = some n :=
  unsigned?_eq_some_iff.mpr ⟨h, 0, .inl (padded_zero n).symm⟩

end CampusBoard.Text
