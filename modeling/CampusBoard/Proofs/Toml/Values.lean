import CampusBoard.Proofs.Text.Cuts
import CampusBoard.Proofs.Text.Numerals
import CampusBoard.Proofs.Toml.Texts
import CampusBoard.Toml.Reader
import Mathlib.Tactic.Common
import Mathlib.Tactic.Lemma

/-!
# A written value reads back

Texts and numbers are read back from how they are written, up to the end of their line.

## Main definitions

* `CampusBoard.Toml.Reader.Writes`: the characters of a value.

## Main results

* `CampusBoard.Toml.Scalar.read?_writeNat`: a numeral stands for its number.
* `CampusBoard.Toml.Reader.writes_writeText`, `CampusBoard.Toml.Reader.writes_writeNat`: texts and
  numbers read back.
-/

set_option autoImplicit false

namespace CampusBoard.Toml

/-! ## Words and what follows them -/

/-- A character of a class is none outside of it. -/
lemma ne_of_class {p : Char → Bool} {c d : Char} (hc : p c = true) (hd : p d = false) : c ≠ d := by
  rintro rfl
  simp [hc] at hd

/-! ## Numerals -/

namespace Scalar

/-- A list of digits is one group of digits. -/
lemma digitGroups?_eq_some {cs : List Char} (hne : cs ≠ []) (h : ∀ c ∈ cs, c.isDigit = true) :
    digitGroups? Char.isDigit cs = some cs := by
  induction cs with
  | nil => exact absurd rfl hne
  | cons c cs ih =>
    have hc := h c List.mem_cons_self
    cases cs with
    | nil => simp [digitGroups?, hc]
    | cons d cs =>
      have hd : d ≠ '_' := by
        rintro rfl
        exact absurd (h '_' (by simp)) (by decide)
      have htail := ih (List.cons_ne_nil d cs) fun c' hc' => h c' (List.mem_cons_of_mem c hc')
      simp [digitGroups?, hc, hd, htail]

/-- The characters of a numeral are digits. -/
lemma isDigit_of_mem_writeNat {n : Nat} {c : Char} (hc : c ∈ writeNat n) : c.isDigit = true :=
  Nat.isDigit_of_mem_toDigits (by decide) (by decide) hc

/-- A numeral begins with a digit. -/
lemma exists_writeNat_eq_cons (n : Nat) :
    ∃ c cs, writeNat n = c :: cs ∧ c.isDigit = true := by
  obtain ⟨c, cs, hcons⟩ := List.exists_cons_of_ne_nil (Nat.toDigits_ne_nil (n := n) (b := 10))
  exact ⟨c, cs, hcons, isDigit_of_mem_writeNat (hcons ▸ List.mem_cons_self)⟩

/-- A numeral has no leading zero. -/
lemma decimalDigits?_writeNat (n : Nat) : decimalDigits? (writeNat n) = some (writeNat n) := by
  have hgroup : digitGroups? Char.isDigit (writeNat n) = some (writeNat n) :=
    digitGroups?_eq_some Nat.toDigits_ne_nil fun c => isDigit_of_mem_writeNat
  simp only [decimalDigits?, hgroup]
  by_cases hzero : (writeNat n).head? = some '0'
  · obtain rfl := Text.eq_zero_of_head?_toDigits n hzero
    rfl
  · simp [hzero]

/-- A numeral has no sign. -/
lemma signed_of_isDigit {c : Char} (h : c.isDigit = true) (cs : List Char) :
    signed (c :: cs) = (false, c :: cs) := by
  unfold signed
  split
  · simp_all
  · simp_all
  · rfl

/-- A numeral is a whole number in base ten. -/
lemma integer?_writeNat (n : Nat) : integer? (writeNat n) = some (n : Int) := by
  obtain ⟨c, cs, hcons, hc⟩ := exists_writeNat_eq_cons n
  have hmark : ∀ mark ∈ cs, mark.isDigit = true := fun mark hmem =>
    isDigit_of_mem_writeNat (n := n) (hcons ▸ List.mem_cons_of_mem c hmem)
  have hdecimal : (decimalDigits? (c :: cs)).map (fun ds => (Text.numeralValue ds : Int)) =
      some (n : Int) := by
    rw [← hcons, decimalDigits?_writeNat]
    simp [writeNat, Text.numeralValue_toDigits]
  rw [hcons]
  unfold integer?
  split
  · simp_all
  · simp_all
  · simp_all
  · simpa [signed_of_isDigit hc] using hdecimal

/-- **A numeral is read as its number**, if that fits. -/
theorem read?_writeNat {n : Nat} (h : n < Nat.pow 2 128) :
    read? (writeNat n) = some (.plain (.integer n)) := by
  have htrue : writeNat n ≠ ['t', 'r', 'u', 'e'] := fun heq =>
    absurd (isDigit_of_mem_writeNat (c := 't') (heq ▸ List.mem_cons_self)) (by decide)
  have hfalse : writeNat n ≠ ['f', 'a', 'l', 's', 'e'] := fun heq =>
    absurd (isDigit_of_mem_writeNat (c := 'f') (heq ▸ List.mem_cons_self)) (by decide)
  have hfits : fits n = true := by
    have hbound : (n : Int) < (Nat.pow 2 128 : Int) := by exact_mod_cast h
    exact decide_eq_true ⟨by omega, hbound⟩
  simp [read?, htrue, hfalse, integer?_writeNat, ofInteger, hfits]

/-- A plain word ends with its line. -/
lemma word_append {cs : List Char} (h : ∀ c ∈ cs, isWordChar c = true) (after : List Char) :
    word (cs ++ '\n' :: after) = (cs, '\n' :: after) := by
  have hbreak : ∀ c ∈ ('\n' :: after).head?, isWordChar c = false := by
    simp only [List.head?_cons, Option.mem_some_iff, forall_eq']
    decide
  simp only [word, Text.takeWhile_append_of_head? h hbreak, Text.dropWhile_append_of_head? h hbreak]
  split
  · simp_all
  · rfl

end Scalar

/-! ## Values -/

namespace Reader

/-- `chars` are the characters of a value: they begin with no blank, and the value is read from them
up to the end of the line. -/
structure Writes (chars : List Char) (v : Value) : Prop where
  /-- There is no blank in front. -/
  skipSpace : ∀ after, skipSpace (chars ++ '\n' :: after) = chars ++ '\n' :: after
  /-- The value is read. -/
  value : ∀ fuel depth after,
    value (fuel + 1) depth (chars ++ '\n' :: after) = some (v, '\n' :: after)

/-- No blank is passed over in front of another character. -/
lemma skipSpace_cons {c : Char} (hspace : c ≠ ' ') (htab : c ≠ '\t') (cs : List Char) :
    skipSpace (c :: cs) = c :: cs := by
  simp [skipSpace, hspace, htab]

/-- A text is written between quotes. -/
lemma exists_writeText_eq_cons (cs : List Char) :
    ∃ quote body, writeText cs = quote :: body ∧ (quote = '"' ∨ quote = '\x27') := by
  unfold writeText
  cases formOf cs with
  | basic | multiBasic => exact ⟨'"', _, rfl, .inl rfl⟩
  | literal | multiLiteral => exact ⟨'\x27', _, rfl, .inr rfl⟩

/-- **A written text reads back.** -/
theorem writes_writeText (cs : List Char) :
    Writes (writeText cs) (.plain (.text (String.ofList cs))) := by
  obtain ⟨quote, body, hcons, hquote⟩ := exists_writeText_eq_cons cs
  constructor
  · intro after
    rw [hcons]
    rcases hquote with rfl | rfl <;> exact skipSpace_cons (by decide) (by decide) _
  · intro fuel depth after
    have hread := QuotedText.any?_writeText cs ('\n' :: after) (by simp) (by simp)
    rw [hcons, List.cons_append] at hread ⊢
    rcases hquote with rfl | rfl <;> simp [Reader.value, hread]

/-- A value that begins with a digit is a plain word. -/
lemma value_of_isDigit {c : Char} (hc : c.isDigit = true) (fuel depth : Nat) (cs : List Char) :
    value (fuel + 1) depth (c :: cs) =
      (Scalar.read? (Scalar.word (c :: cs)).1).map fun v => (v, (Scalar.word (c :: cs)).2) := by
  have hbracket : c ≠ '[' := ne_of_class hc (by decide)
  have hbrace : c ≠ '\x7b' := ne_of_class hc (by decide)
  have hdouble : c ≠ '"' := ne_of_class hc (by decide)
  have hsingle : c ≠ '\x27' := ne_of_class hc (by decide)
  rw [value.eq_def]
  simp [hdouble, hsingle]

/-- **A written number reads back**, if it fits. -/
theorem writes_writeNat {n : Nat} (h : n < Nat.pow 2 128) :
    Writes (writeNat n) (.plain (.integer n)) := by
  obtain ⟨c, cs, hcons, hc⟩ := Scalar.exists_writeNat_eq_cons n
  constructor
  · intro after
    rw [hcons]
    exact skipSpace_cons (ne_of_class hc (by decide)) (ne_of_class hc (by decide)) _
  · intro fuel depth after
    have hchars : ∀ c ∈ writeNat n, Scalar.isWordChar c = true := fun c hc => by
      simp [Scalar.isWordChar, Char.isAlphanum, Scalar.isDigit_of_mem_writeNat hc]
    have hword := Scalar.word_append hchars after
    have hread := Scalar.read?_writeNat h
    rw [hcons] at hword hread ⊢
    rw [List.cons_append, value_of_isDigit hc, ← List.cons_append, hword]
    simp [hread]

end Reader

/-! ## Tables as objects -/

/-- A table whose values stand for JSON values stands for the object of these. -/
lemma entriesToJson?_map {α : Type} (xs : List α) (name : α → String) {v : α → Value}
    {j : α → Json} (h : ∀ x ∈ xs, (v x).toJson? = some (j x)) :
    entriesToJson? (xs.map fun x => (name x, v x)) = some (xs.map fun x => (name x, j x)) := by
  induction xs with
  | nil => rfl
  | cons x xs ih =>
    simp only [List.forall_mem_cons] at h
    simp [entriesToJson?, entryToJson?, h.1, ih h.2]

end CampusBoard.Toml
