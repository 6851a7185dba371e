import CampusBoard.Text.Component
import Mathlib.Tactic.Common
import Mathlib.Tactic.Lemma

/-!
# Encoded components

The encoded form of a text is made up of unreserved characters and of triplets of a per cent sign
and two upper-case hexadecimal digits. Decoding gives back the bytes of the text.

## Main definitions

* `CampusBoard.Text.IsEncoded`: what encoded forms are made up of.

## Main results

* `CampusBoard.Text.isEncoded_encodeComponent`: an encoded form is made up of that.
* `CampusBoard.Text.decodeComponent_encodeComponent`: it decodes to the bytes of the text.
* `CampusBoard.Text.encodeComponent_injective`: different texts have different encoded forms.
-/

set_option autoImplicit false

namespace CampusBoard.Text

/-- Characters and triplets that encoded forms are made up of. -/
inductive IsEncoded : List Char → Prop
  | nil : IsEncoded []
  /-- An ASCII letter or digit, or a mark. -/
  | unreserved {c : Char} {cs : List Char}
    (isUnreserved : c.isAlphanum = true ∨ c ∈ unreservedMarks) (rest : IsEncoded cs) :
    IsEncoded (c :: cs)
  /-- A per cent sign and two hexadecimal digits. -/
  | triplet {high low : Char} {cs : List Char} (high_mem : high ∈ upperHexDigits)
    (low_mem : low ∈ upperHexDigits) (rest : IsEncoded cs) : IsEncoded ('%' :: high :: low :: cs)

/-! ## Bytes -/

/-- The digits that are written are among the hexadecimal digits. -/
lemma upperHexDigit_mem : ∀ n < 16, upperHexDigit n ∈ upperHexDigits := by
  decide

/-- A hexadecimal digit is read as its value. -/
lemma upperHexValue?_upperHexDigit : ∀ n < 16, upperHexValue? (upperHexDigit n) = some n := by
  decide

/-- An encoded byte is a triplet. -/
lemma IsEncoded.encodeByte_append {cs : List Char} (h : IsEncoded cs) (b : UInt8) :
    IsEncoded (encodeByte b ++ cs) := by
  have hb : b.toNat < 256 := b.toNat_lt
  exact .triplet (upperHexDigit_mem _ (by omega)) (upperHexDigit_mem _ (by omega)) h

/-- An encoded byte is decoded. -/
lemma decodeComponent_encodeByte_append (b : UInt8) (cs : List Char) :
    decodeComponent (encodeByte b ++ cs) = (decodeComponent cs).map (b :: ·) := by
  have hb : b.toNat < 256 := b.toNat_lt
  have hhigh := upperHexValue?_upperHexDigit (b.toNat / 16) (by omega)
  have hlow := upperHexValue?_upperHexDigit (b.toNat % 16) (by omega)
  have hbyte : UInt8.ofNat (16 * (b.toNat / 16) + b.toNat % 16) = b := by
    rw [Nat.div_add_mod]
    exact UInt8.ofNat_toNat
  simp only [encodeByte, List.cons_append, List.nil_append, decodeComponent, hhigh, hlow,
    Option.bind_eq_bind, Option.bind_some, Option.pure_def, hbyte]
  exact (Option.map_eq_bind ..).symm

/-- Encoded bytes are decoded. -/
lemma decodeComponent_encodeBytes_append (bytes : List UInt8) (cs : List Char) :
    decodeComponent (bytes.flatMap encodeByte ++ cs) = (decodeComponent cs).map (bytes ++ ·) := by
  induction bytes with
  | nil => simp
  | cons b bytes ih =>
    rw [List.flatMap_cons, List.append_assoc, decodeComponent_encodeByte_append, ih, Option.map_map]
    rfl

/-! ## Characters -/

/-- A character that is no per cent sign is decoded as its own bytes. -/
lemma decodeComponent_cons {c : Char} (hc : c ≠ '%') (cs : List Char) :
    decodeComponent (c :: cs) = (decodeComponent cs).map (String.utf8EncodeChar c ++ ·) := by
  rw [decodeComponent.eq_def]
  split
  next h => cases h
  next h => exact absurd (List.cons.inj h).1 hc
  next d ds _ h =>
    obtain ⟨rfl, rfl⟩ := List.cons.inj h
    rw [if_neg hc]

/-- The per cent sign is none of the characters that stand for themselves. -/
lemma ne_percent_of_isUnreserved {c : Char} (h : isUnreserved c = true) : c ≠ '%' := by
  rintro rfl
  exact absurd h (by decide)

/-- The encoded form of a character is decoded as the bytes of the character. -/
lemma decodeComponent_encodeChar_append (c : Char) (cs : List Char) :
    decodeComponent (encodeChar c ++ cs) =
      (decodeComponent cs).map (String.utf8EncodeChar c ++ ·) := by
  unfold encodeChar
  split_ifs with hplain
  · exact decodeComponent_cons (ne_percent_of_isUnreserved hplain) cs
  · exact decodeComponent_encodeBytes_append _ cs

/-- The encoded form of a character can be put before an encoded form. -/
lemma IsEncoded.encodeChar_append {cs : List Char} (h : IsEncoded cs) (c : Char) :
    IsEncoded (encodeChar c ++ cs) := by
  unfold encodeChar
  split_ifs with hplain
  · simp only [isUnreserved, Bool.or_eq_true, List.contains_iff_mem] at hplain
    exact .unreserved hplain h
  · induction String.utf8EncodeChar c with
    | nil => exact h
    | cons b bytes ih =>
      rw [List.flatMap_cons, List.append_assoc]
      exact ih.encodeByte_append b

/-! ## Texts -/

/-- **An encoded form is made up of unreserved characters and triplets.** -/
theorem isEncoded_encodeComponent (s : String) : IsEncoded (encodeComponent s).toList := by
  rw [encodeComponent, String.toList_ofList]
  induction s.toList with
  | nil => exact .nil
  | cons c cs ih =>
    rw [List.flatMap_cons]
    exact ih.encodeChar_append c

/-- The bytes of a text are those of its characters, one after the other. -/
lemma bytes_eq_flatMap (s : String) :
    s.toUTF8.data.toList = s.toList.flatMap String.utf8EncodeChar := by
  have hbytes : s.toUTF8 = (s.toList.flatMap String.utf8EncodeChar).toByteArray := by
    rw [String.toUTF8_eq_toByteArray, ← String.ofList_toList (s := s), String.toByteArray_ofList,
      String.toList_ofList]
    rfl
  rw [hbytes, List.toList_data_toByteArray]

/-- **An encoded form decodes to the bytes of the text.** -/
theorem decodeComponent_encodeComponent (s : String) :
    decodeComponent (encodeComponent s).toList = some s.toUTF8.data.toList := by
  rw [encodeComponent, String.toList_ofList, bytes_eq_flatMap]
  induction s.toList with
  | nil => rfl
  | cons c cs ih =>
    rw [List.flatMap_cons, decodeComponent_encodeChar_append, ih]
    rfl

/-- **Different texts have different encoded forms.** -/
theorem encodeComponent_injective : Function.Injective encodeComponent := by
  intro s t h
  have hdecoded : some s.toUTF8.data.toList = some t.toUTF8.data.toList := by
    rw [← decodeComponent_encodeComponent, h, decodeComponent_encodeComponent]
  have hbytes : s.toByteArray = t.toByteArray :=
    ByteArray.ext (Array.toList_inj.mp (Option.some.inj hdecoded))
  exact String.toByteArray_inj.mp hbytes

/-! ## Delimiters -/

/-- A hexadecimal digit is an ASCII digit or letter. -/
lemma isUnreserved_of_mem_upperHexDigits {c : Char} (h : c ∈ upperHexDigits) :
    isUnreserved c = true := by
  have hall : upperHexDigits.all isUnreserved = true := by decide
  exact List.all_eq_true.mp hall c h

/-- **Nothing else stands in an encoded form**: each character is unreserved or a per cent sign. -/
theorem IsEncoded.isUnreserved_of_mem {cs : List Char} (h : IsEncoded cs) {c : Char}
    (hc : c ∈ cs) (hpercent : c ≠ '%') : isUnreserved c = true := by
  induction h with
  | nil => cases hc
  | unreserved hplain _ ih =>
    rcases List.mem_cons.mp hc with rfl | hrest
    · simpa [isUnreserved] using hplain
    · exact ih hrest
  | triplet hhigh hlow _ ih =>
    simp only [List.mem_cons] at hc
    rcases hc with hsign | rfl | rfl | hrest
    · exact absurd hsign hpercent
    · exact isUnreserved_of_mem_upperHexDigits hhigh
    · exact isUnreserved_of_mem_upperHexDigits hlow
    · exact ih hrest

end CampusBoard.Text
