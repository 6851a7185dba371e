import CampusBoard.Proofs.Decode.Lists
import Mathlib.Tactic.Common

/-!
# Which values are read as what

A reader of single values accepts exactly the values that stand for something of its type.

## Main results

* `CampusBoard.Decode.text_eq_ok_iff`, `CampusBoard.Decode.anyObject_eq_ok_iff`,
  `CampusBoard.Decode.uint64_eq_ok_iff`, `CampusBoard.Decode.count_eq_ok_iff`,
  `CampusBoard.Decode.pageSize_eq_ok_iff`: single values.
* `CampusBoard.Decode.optional_eq_ok_iff`: values that may be null.
-/

set_option autoImplicit false

namespace CampusBoard.Decode

variable {v : Json}

/-! ## Single values -/

/-- A text is read from itself. -/
lemma text_eq_ok_iff {s : String} : text v = .ok s ↔ v = .text s := by
  cases v <;> simp [text]

/-- An object is read from itself. -/
lemma anyObject_eq_ok_iff {members : Json.Members} :
    anyObject v = .ok members ↔ v = .object members := by
  cases v <;> simp [anyObject]

/-- An unsigned number of a width is read from a whole number in its range. -/
lemma unsigned_eq_ok_iff {width : Width} {n : Nat} :
    unsigned width v = .ok n ↔ v = .integer n ∧ n < width.bound := by
  constructor
  · intro h
    unfold unsigned at h
    split at h
    · rename_i m
      split_ifs at h with hrange
      obtain rfl := Except.ok.inj h
      exact ⟨congrArg Json.integer (Int.toNat_of_nonneg hrange.1).symm, by omega⟩
    · cases h
  · rintro ⟨rfl, hbound⟩
    exact unsigned_ofNat hbound

/-- A number of sixty-four bits is read through the unsigned number. -/
lemma map_ofNat_eq_ok_iff {width : Width} (hwidth : width.bound = UInt64.size) {n : UInt64} :
    (unsigned width v).map UInt64.ofNat = .ok n ↔ v = .integer n.toNat := by
  constructor
  · intro h
    cases hread : unsigned width v with
    | error e => rw [hread] at h; cases h
    | ok m =>
      rw [hread] at h
      obtain rfl := Except.ok.inj h
      obtain ⟨hv, hbound⟩ := unsigned_eq_ok_iff.mp hread
      rw [hv, UInt64.toNat_ofNat_of_lt' (hwidth ▸ hbound)]
  · rintro rfl
    rw [unsigned_eq_ok_iff.mpr ⟨rfl, hwidth ▸ n.toNat_lt_size⟩, Except.map, UInt64.ofNat_toNat]

/-- A number of sixty-four bits is read from a whole number in its range. -/
theorem uint64_eq_ok_iff {n : UInt64} : uint64 v = .ok n ↔ v = .integer n.toNat :=
  map_ofNat_eq_ok_iff rfl

/-- So is a number that counts things in memory. -/
theorem count_eq_ok_iff {n : UInt64} : count v = .ok n ↔ v = .integer n.toNat :=
  map_ofNat_eq_ok_iff rfl

/-- **A page size is read from its number**, which is not zero. -/
theorem pageSize_eq_ok_iff {p : PageSize} : pageSize v = .ok p ↔ v = .integer p.val.toNat := by
  rw [← count_eq_ok_iff, pageSize]
  cases count v with
  | error e => simp [bind, Except.bind]
  | ok n =>
    change (PageSize.ofUInt64 n).mapError DecodeError.refusedPageSize = .ok p ↔ _
    rw [PageSize.ofUInt64, Except.ok.injEq]
    split_ifs with hzero
    · simp [Except.mapError, hzero, p.val_ne_zero.symm]
    · cases p
      simp [Except.mapError]

/-! ## Values made of values -/

section Composed

variable {α : Type} {read : Reader α}

/-- A value that may be null and is not is read as one that may not be. -/
lemma optional_of_ne_null (h : v ≠ .null) : optional read v = (read v).map some := by
  cases v <;> first | rfl | exact absurd rfl h

/-- A value that may be null is null or read as one that may not be. -/
lemma optional_eq_ok_iff {a? : Option α} :
    optional read v = .ok a? ↔
      v = .null ∧ a? = none ∨ v ≠ .null ∧ ∃ a, read v = .ok a ∧ a? = some a := by
  by_cases hnull : v = .null
  · simp [hnull, optional, eq_comm]
  · rw [optional_of_ne_null hnull]
    cases read v <;> simp [hnull, Except.map, eq_comm]

end Composed

end CampusBoard.Decode
