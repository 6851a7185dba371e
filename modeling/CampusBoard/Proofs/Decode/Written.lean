import CampusBoard.Proofs.Decode.Records
import CampusBoard.Proofs.Decode.Scalars
import CampusBoard.Proofs.Json.Normal

/-!
# Reading what was written

The object that is written for a record is read back as the record, with its members in the order
in which they were written and also with the members sorted.

## Design

A record is written field by field in the order in which its shape has grown, so what was written
is read back by as many steps as the record has fields. Each step knows what its value is read as,
and what the normal form of that value is read as; the two differ for a value that holds an object
with arbitrary members.

Conversely, what a record holds was read from the parts of the value it was read from, whether
these are the members of an object or the items of a list.

## Main definitions

* `CampusBoard.Decode.ReadsBack`: what a value and its normal form are read as.
* `CampusBoard.Decode.Shape.Writes`: the same for the members of a record.
* `CampusBoard.Json.parts`: the members or items of a value.
* `CampusBoard.Decode.Shape.Yields`: what is known of a record from the parts it was read from.

## Main results

* `CampusBoard.Decode.Shape.Writes.present`, `CampusBoard.Decode.Shape.Writes.member?`: one more
  field.
* `CampusBoard.Decode.Shape.Writes.readsBack`: written members are read back.
* `CampusBoard.Decode.Shape.Yields.read`: what is known of a record that was read.
-/

set_option autoImplicit false

namespace CampusBoard.Decode

variable {α ρ : Type}

/-! ## Steps that succeed -/

section Except

variable {ε β : Type} {x : Except ε α} {b : β}

/-- Two steps in a row succeed if both do. -/
lemma exists_of_bind_eq_ok {next : α → Except ε β} (h : x >>= next = .ok b) :
    ∃ a, x = .ok a ∧ next a = .ok b := by
  cases x with
  | error e => cases h
  | ok a => exact ⟨a, rfl, h⟩

/-- What is made of the result of a step is made of one that succeeded. -/
lemma exists_of_map_eq_ok {f : α → β} (h : x.map f = .ok b) : ∃ a, x = .ok a ∧ f a = b := by
  cases x with
  | error e => cases h
  | ok a => exact ⟨a, rfl, Except.ok.inj h⟩

end Except

/-! ## Reading back -/

/-- The value is read as `x`, and its normal form as `y`. -/
structure ReadsBack (read : Reader α) (v : Json) (x y : α) : Prop where
  /-- The value is read as it is. -/
  plain : read v = .ok x
  /-- Its normal form is read. -/
  normal : read v.normal = .ok y

section ReadsBack

variable {read : Reader α} {v : Json} {x y : α}

/-- What is in normal form is read as one thing. -/
lemma ReadsBack.of_isNormal (hv : v.IsNormal) (h : read v = .ok x) : ReadsBack read v x x :=
  ⟨h, hv.symm ▸ h⟩

/-- Only null has null for its normal form. -/
lemma normal_ne_null (h : v ≠ .null) : v.normal ≠ .null := by
  cases v <;> first | exact absurd rfl h | simp [Json.normal]

/-- What is read back is also read back where it may be absent. -/
lemma ReadsBack.optional (h : ReadsBack read v x y) (hnull : v ≠ .null) :
    ReadsBack (optional read) v (some x) (some y) where
  plain := by rw [optional_of_ne_null hnull, h.plain, Except.map]
  normal := by rw [optional_of_ne_null (normal_ne_null hnull), h.normal, Except.map]

end ReadsBack

namespace Shape

/-! ## Written members -/

/-- `members` are the members of `x`, and with their values in normal form those of `y`. -/
structure Writes (s : Shape ρ) (members : Json.Members) (x y : ρ) : Prop where
  /-- The members as they are. -/
  plain : s.Reads members x
  /-- The members with their values in normal form. -/
  normal : s.Reads (Json.normalValues members) y

/-- A constructor without fields has no members. -/
lemma writes_ofConstructor (record : String) (construct : ρ) :
    (ofConstructor record construct).Writes [] construct construct :=
  ⟨reads_ofConstructor record construct, reads_ofConstructor record construct⟩

/-- Members with values in normal form are the members of one record. -/
lemma Reads.writes {s : Shape ρ} {members : Json.Members} {x : ρ} (h : s.Reads members x)
    (hvalues : ∀ m ∈ members, m.2.IsNormal) : s.Writes members x x :=
  ⟨h, (Json.normalValues_eq_self_iff.mpr hvalues).symm ▸ h⟩

section Fields

variable {members : Json.Members} {read : Reader α}

/-- **A field that is present** takes what its value is read as. -/
theorem Writes.present {s : Shape (α → ρ)} {construct construct' : α → ρ}
    (h : s.Writes members construct construct') (name : String) (hnew : name ∉ s.fields)
    {v : Json} {a a' : α} (hread : ReadsBack read v a a') (default? : Option α) :
    (s.field name read default?).Writes (members ++ [(name, v)]) (construct a) (construct' a') where
  plain := h.plain.present hnew hread.plain default?
  normal := by
    rw [Json.normalValues, List.map_append]
    exact h.normal.present hnew hread.normal default?

/-- A field that is absent takes its default. -/
lemma Writes.absent {s : Shape (α → ρ)} {construct construct' : α → ρ}
    (h : s.Writes members construct construct') (name : String) (hnew : name ∉ s.fields)
    (default : α) :
    (s.field name read (some default)).Writes members (construct default) (construct' default) :=
  ⟨h.plain.absent hnew default, h.normal.absent hnew default⟩

/-- **A field that may be absent** takes what its value is read as, if there is one. -/
theorem Writes.member? {s : Shape (Option α → ρ)} {construct construct' : Option α → ρ}
    (h : s.Writes members construct construct') (name : String) (hnew : name ∉ s.fields)
    {write : α → Json} (hread : ∀ a, ReadsBack read (write a) a a) (hnull : ∀ a, write a ≠ .null)
    (a? : Option α) :
    (s.optional name read).Writes (members ++ member? name write a?) (construct a?)
      (construct' a?) := by
  cases a? with
  | none =>
    rw [Decode.member?, List.append_nil]
    exact h.absent name hnew none
  | some a => exact h.present name hnew ((hread a).optional (hnull a)) (some none)

end Fields

/-- **Written members are read back**, as they are and in normal form.

**Proof sketch.** The names of the members are distinct, so that bringing an object into normal form
brings its values into normal form and puts the members in another order, which does not matter. -/
theorem Writes.readsBack {s : Shape ρ} {members : Json.Members} {x y : ρ}
    (h : s.Writes members x y) : ReadsBack s.read (.object members) x y where
  plain := h.plain.read
  normal := (h.normal.perm (Json.perm_normalMembers h.plain.distinct).symm).read

end Shape

end CampusBoard.Decode

/-! ## Parts of a value -/

namespace CampusBoard.Json

/-- The items of a list or the values of an object's members. -/
def parts : Json → List Json
  | .list items => items
  | .object members => members.map Prod.snd
  | _ => []

/-- The parts of a value in normal form are in normal form. -/
lemma IsNormal.of_mem_parts {v part : Json} (h : v.IsNormal) (hpart : part ∈ v.parts) :
    part.IsNormal := by
  cases v with
  | list items => exact isNormal_list_iff.mp h part hpart
  | object members =>
    obtain ⟨m, hm, rfl⟩ := List.mem_map.mp hpart
    exact (isNormal_object_iff.mp h).2 m hm
  | _ => cases hpart

end CampusBoard.Json

namespace CampusBoard.Decode.Shape

variable {α ρ : Type} {allowed : Json → Prop}

/-- A record that is put together from allowed parts has the property `holds`. -/
structure Yields (s : Shape ρ) (allowed : Json → Prop) (holds : ρ → Prop) : Prop where
  /-- From the members of an object. -/
  ofBuild : ∀ (lookup : String → Option Json) (x : ρ),
    (∀ name v, lookup name = some v → allowed v) → s.build lookup = .ok x → holds x
  /-- From the items of a list, those that are left being allowed too. -/
  ofTake : ∀ (short : Nat → DecodeError) (items : List Json) (x : ρ) (rest : List Json),
    (∀ item ∈ items, allowed item) → s.take short items = .ok (x, rest) →
      holds x ∧ ∀ item ∈ rest, allowed item

/-- A constructor is what it is. -/
lemma yields_ofConstructor {record : String} {construct : ρ} {holds : ρ → Prop}
    (h : holds construct) : (ofConstructor record construct).Yields allowed holds where
  ofBuild _ _ _ hbuild := by cases hbuild; exact h
  ofTake _ _ _ _ hitems htake := by cases htake; exact ⟨h, hitems⟩

/-- One more field, with a value that is read from an allowed part or the default. -/
lemma Yields.field {s : Shape (α → ρ)} {before : (α → ρ) → Prop} {holds : ρ → Prop} {name : String}
    {read : Reader α} {default? : Option α} (h : s.Yields allowed before)
    (hstep : ∀ construct a, before construct →
      (default? = some a ∨ ∃ v, allowed v ∧ read v = .ok a) → holds (construct a)) :
    (s.field name read default?).Yields allowed holds where
  ofBuild lookup x hlookup hbuild := by
    obtain ⟨construct, hearlier, hlast⟩ := exists_of_bind_eq_ok hbuild
    have hbefore := h.ofBuild lookup construct hlookup hearlier
    split at hlast
    · rename_i v hvalue
      obtain ⟨a, hread, rfl⟩ := exists_of_map_eq_ok hlast
      exact hstep construct a hbefore (.inr ⟨v, hlookup name v hvalue, hread⟩)
    · cases hlast
      exact hstep construct _ hbefore (.inl rfl)
    · cases hlast
  ofTake short items x rest hitems htake := by
    obtain ⟨⟨construct, left⟩, hearlier, hlast⟩ := exists_of_bind_eq_ok htake
    obtain ⟨hbefore, hleft⟩ := h.ofTake short items construct left hitems hearlier
    dsimp only at hlast
    split at hlast
    · obtain ⟨hv, hleft⟩ := List.forall_mem_cons.mp hleft
      obtain ⟨a, hread, hboth⟩ := exists_of_map_eq_ok hlast
      cases hboth
      exact ⟨hstep construct a hbefore (.inr ⟨_, hv, hread⟩), hleft⟩
    · cases hlast
      exact ⟨hstep construct _ hbefore (.inl rfl), hleft⟩
    · cases hlast

/-- One more field that the property does not depend on. -/
lemma Yields.anyField {s : Shape (α → ρ)} {holds : ρ → Prop} {name : String} {read : Reader α}
    {default? : Option α} (h : s.Yields allowed fun construct => ∀ a, holds (construct a)) :
    (s.field name read default?).Yields allowed holds :=
  h.field fun _ a hbefore _ => hbefore a

/-- **A record that is read from allowed parts** has the property. -/
theorem Yields.read {s : Shape ρ} {holds : ρ → Prop} (h : s.Yields allowed holds) {v : Json} {x : ρ}
    (hparts : ∀ part ∈ v.parts, allowed part) (hread : s.read v = .ok x) : holds x := by
  cases v with
  | object members =>
    simp only [Shape.read, ofMembers] at hread
    split at hread
    · cases hread
    · refine h.ofBuild (Json.Members.lookup · members) x (fun name v hv => ?_) hread
      exact hparts v (List.mem_map_of_mem (f := Prod.snd) (Json.Members.mem_of_lookup hv))
  | list items =>
    obtain ⟨⟨taken, rest⟩, htake, hend⟩ := exists_of_bind_eq_ok hread
    dsimp only at hend
    split_ifs at hend
    cases hend
    exact (h.ofTake _ items _ rest hparts htake).1
  | _ => cases hread

end CampusBoard.Decode.Shape
