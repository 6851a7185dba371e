import CampusBoard.Proofs.Decode.Written

/-!
# Records over their defaults

An object is read as a record exactly when each field that it has a member for is read from that
member and each of the others has a default.

## Design

`Shape.Reads` builds the members of one record; here the members are given, and what is asked is
whether they make up a record at all and which. The answer grows with the shape as well. It speaks
of nothing but what is found under the names of the fields, so members without a field and the order
of the members cannot matter to it.

## Main definitions

* `CampusBoard.Decode.Given`: what a field holds.
* `CampusBoard.Decode.Shape.Overlays`: which records a shape builds from which members.

## Main results

* `CampusBoard.Decode.Shape.Overlays.field`: one more field.
* `CampusBoard.Decode.Shape.Overlays.ofMembers_eq_ok_iff`: which members are read as which record.
-/

set_option autoImplicit false

namespace CampusBoard.Decode

variable {α ρ : Type}

/-! ## Fields over their defaults -/

/-- What a field holds: what its value is read as, or its default where there is no value. -/
def Given (read : Reader α) (default? : Option α) : Option Json → α → Prop
  | some v, a => read v = .ok a
  | none, a => default? = some a

section Given

variable {read : Reader α} {default? : Option α} {a : α}

/-- A field with a value holds what the value is read as. -/
@[simp]
lemma given_some {v : Json} : Given read default? (some v) a ↔ read v = .ok a := Iff.rfl

/-- A field without a value holds its default. -/
@[simp]
lemma given_none : Given read default? none a ↔ default? = some a := Iff.rfl

/-- A field without a default holds what its value is read as. -/
lemma given_required_iff {v? : Option Json} :
    Given read none v? a ↔ ∃ v, v? = some v ∧ read v = .ok a := by
  cases v? <;> simp

/-- A field that may be absent or null holds what its value is read as, if there is one. -/
lemma given_optional_iff {v? : Option Json} {a? : Option α} (hnull : ∀ a, read .null ≠ .ok a) :
    Given (optional read) (some none) v? a? ↔
      match a? with
      | none => v? = none ∨ v? = some .null
      | some a => ∃ v, v? = some v ∧ read v = .ok a := by
  cases v? with
  | none => cases a? <;> simp
  | some v =>
    rw [given_some, optional_eq_ok_iff]
    cases a? with
    | none => simp
    | some a =>
      have hne : read v = .ok a → v ≠ .null := fun h heq => hnull a (heq ▸ h)
      simpa [eq_comm] using hne

end Given

namespace Shape

/-- The records that are built are those that are what `holds` says of the members. -/
structure Overlays (s : Shape ρ) (holds : (String → Option Json) → ρ → Prop) : Prop where
  /-- A record is built if it is what the members say. -/
  builds : ∀ lookup x, s.build lookup = .ok x ↔ holds lookup x
  /-- Then each member fits its field. -/
  fits : ∀ lookup x, holds lookup x → ∀ name ∈ s.fields, ∀ v, lookup name = some v →
    s.fault? name v = none

/-- A constructor is built from any members. -/
lemma overlays_ofConstructor (record : String) (construct : ρ) :
    (ofConstructor record construct).Overlays fun _ x => x = construct where
  builds _ x := by simp [ofConstructor, eq_comm]
  fits _ _ _ name hname := by cases hname

/-- The same said in other words. -/
lemma Overlays.congr {s : Shape ρ} {holds holds' : (String → Option Json) → ρ → Prop}
    (h : s.Overlays holds) (hiff : ∀ lookup x, holds lookup x ↔ holds' lookup x) :
    s.Overlays holds' where
  builds lookup x := (h.builds lookup x).trans (hiff lookup x)
  fits lookup x hx := h.fits lookup x ((hiff lookup x).mpr hx)

/-- What is built with one more field. -/
lemma build_field_eq_ok_iff {s : Shape (α → ρ)} {name : String} {read : Reader α}
    {default? : Option α} {lookup : String → Option Json} {x : ρ} :
    (s.field name read default?).build lookup = .ok x ↔
      ∃ construct a, s.build lookup = .ok construct ∧ Given read default? (lookup name) a ∧
        x = construct a := by
  constructor
  · intro h
    obtain ⟨construct, hearlier, hlast⟩ := exists_of_bind_eq_ok h
    split at hlast
    · rename_i v hvalue
      obtain ⟨a, hread, rfl⟩ := exists_of_map_eq_ok hlast
      exact ⟨construct, a, hearlier, by rwa [hvalue, given_some], rfl⟩
    · rename_i default hvalue
      cases hlast
      exact ⟨construct, default, hearlier, by rw [hvalue, given_none], rfl⟩
    · cases hlast
  · rintro ⟨construct, a, hearlier, hgiven, rfl⟩
    simp only [field, hearlier]
    cases hvalue : lookup name with
    | none =>
      obtain rfl : default? = some a := by rwa [hvalue, given_none] at hgiven
      rfl
    | some v =>
      have hread : read v = .ok a := by rwa [hvalue, given_some] at hgiven
      simp [bind, Except.bind, hread, Except.map]

/-- **One more field** holds what its member is read as, or its default. -/
theorem Overlays.field {s : Shape (α → ρ)} {holds : (String → Option Json) → (α → ρ) → Prop}
    (h : s.Overlays holds) (name : String) (hnew : name ∉ s.fields) (read : Reader α)
    (default? : Option α) :
    (s.field name read default?).Overlays fun lookup x =>
      ∃ construct a, holds lookup construct ∧ Given read default? (lookup name) a ∧
        x = construct a where
  builds lookup x := by simp only [build_field_eq_ok_iff, h.builds]
  fits lookup x hx other hother v hv := by
    obtain ⟨construct, a, hbefore, hgiven, -⟩ := hx
    rcases List.mem_append.mp hother with hearlier | hlast
    · have hne : other ≠ name := ne_of_mem_of_not_mem hearlier hnew
      simpa [Shape.field, hne] using h.fits lookup construct hbefore other hearlier v hv
    · obtain rfl := List.mem_singleton.mp hlast
      have hread : read v = .ok a := by rwa [hv, given_some] at hgiven
      simp [Shape.field, errorOf?, hread]

/-! ## Reading -/

/-- **Members are read as a record** when no two are for the same field and the record is what they
say.

**Proof sketch.** A record that is what the members say has a value from each of them, so none is
refused. -/
theorem Overlays.ofMembers_eq_ok_iff {s : Shape ρ} {holds : (String → Option Json) → ρ → Prop}
    (h : s.Overlays holds) {members : Json.Members} {x : ρ} :
    s.ofMembers members = .ok x ↔
      members.AtMostOnce s.fields ∧ holds (members.lookup ·) x := by
  constructor
  · intro hread
    unfold ofMembers at hread
    split at hread
    · cases hread
    · rename_i hfault
      exact ⟨((firstFault?_eq_none_iff s [] members).mp hfault).1, (h.builds _ _).mp hread⟩
  · rintro ⟨honce, hx⟩
    have hfault : s.firstFault? [] members = none := by
      refine (firstFault?_eq_none_iff s [] members).mpr ⟨honce, ?_⟩
      intro m hm hfield
      exact ⟨List.not_mem_nil,
        h.fits _ x hx m.1 hfield m.2 (Json.Members.lookup_of_mem honce hm hfield)⟩
    rw [ofMembers, hfault]
    exact (h.builds _ _).mpr hx

end Shape

end CampusBoard.Decode
