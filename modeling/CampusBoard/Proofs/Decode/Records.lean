import CampusBoard.Decode.Record
import Mathlib.Data.List.Nodup
import Mathlib.Tactic.Common
import Mathlib.Tactic.Lemma

/-!
# Records from their members

An object whose members are those of a record, each at most once and in any order, is read as that
record.

## Design

A shape grows field by field, and so does what is known of the objects that it reads: a field is
either present, with a value that its reader takes, or absent, and then its default counts. So the
members of a record are shown to be read in as many steps as the record has fields, without looking
into the reader again.

## Main definitions

* `CampusBoard.Json.Members.AtMostOnce`: no two members for one of some names.
* `CampusBoard.Decode.Shape.Reads`: the members of a record.

## Main results

* `CampusBoard.Decode.Shape.Reads.present`, `CampusBoard.Decode.Shape.Reads.absent`: one more field.
* `CampusBoard.Decode.Shape.Reads.perm`: the members in another order.
* `CampusBoard.Decode.Shape.firstFault?_eq_none_iff`: when the members are not refused.
* `CampusBoard.Decode.Shape.Reads.read`: the members of a record are read as that record.
-/

set_option autoImplicit false

/-! ## Members for some names -/

namespace CampusBoard.Json.Members

variable {names : List String} {members : Members} {member : String × Json}

/-- No two of the members are for the same one of the names. -/
def AtMostOnce (names : List String) (members : Members) : Prop :=
  ((members.map Prod.fst).filter (· ∈ names)).Nodup

instance (names : List String) (members : Members) : Decidable (AtMostOnce names members) :=
  inferInstanceAs (Decidable (List.Nodup _))

/-- Members with distinct names are no two for the same name. -/
lemma atMostOnce_of_nodup (names : List String) (h : (members.map Prod.fst).Nodup) :
    AtMostOnce names members :=
  h.filter _

/-- A member for none of the names does not count. -/
lemma atMostOnce_cons_of_notMem (h : member.1 ∉ names) :
    AtMostOnce names (member :: members) ↔ AtMostOnce names members := by
  simp [AtMostOnce, h]

/-- A member for one of the names is the only one for it. -/
lemma atMostOnce_cons_of_mem (h : member.1 ∈ names) :
    AtMostOnce names (member :: members) ↔
      (∀ other ∈ members, other.1 ≠ member.1) ∧ AtMostOnce names members := by
  have hnew : member.1 ∉ (members.map Prod.fst).filter (· ∈ names) ↔
      ∀ other ∈ members, other.1 ≠ member.1 := by
    simp only [List.mem_filter, h, decide_true, and_true, List.mem_map, not_exists, not_and]
  rw [AtMostOnce, List.map_cons, List.filter_cons_of_pos (by simpa using h), List.nodup_cons, hnew]
  exact Iff.rfl

/-- The only member for a name is found under it. -/
lemma lookup_of_mem (h : AtMostOnce names members) (hmember : member ∈ members)
    (hname : member.1 ∈ names) : members.lookup member.1 = some member.2 := by
  induction members with
  | nil => cases hmember
  | cons first rest ih =>
    rcases List.mem_cons.mp hmember with rfl | hrest
    · simp [lookup]
    · by_cases hfirst : first.1 ∈ names
      · obtain ⟨honly, hothers⟩ := (atMostOnce_cons_of_mem hfirst).mp h
        simpa [lookup, (honly member hrest).symm] using ih hothers hrest
      · have hne : first.1 ≠ member.1 := fun heq => hfirst (heq ▸ hname)
        simpa [lookup, hne] using ih ((atMostOnce_cons_of_notMem hfirst).mp h) hrest

end CampusBoard.Json.Members

namespace CampusBoard.Decode.Shape

variable {α ρ : Type}

/-! ## Looking up members -/

section Lookup

variable {name other : String} {members : Json.Members}

/-- A new member at the end is found. -/
lemma lookup_concat_self (h : name ∉ members.map Prod.fst) (v : Json) :
    Json.Members.lookup name (members ++ [(name, v)]) = some v := by
  induction members with
  | nil => simp [Json.Members.lookup]
  | cons member members ih =>
    simp only [List.map_cons, List.mem_cons, not_or] at h
    have hmember : member.1 ≠ name := Ne.symm h.1
    simpa [Json.Members.lookup, hmember] using ih h.2

/-- It hides no other member. -/
lemma lookup_concat_of_ne (h : other ≠ name) (v : Json) :
    Json.Members.lookup other (members ++ [(name, v)]) = Json.Members.lookup other members := by
  induction members with
  | nil => simp [Json.Members.lookup, Ne.symm h]
  | cons member members ih =>
    by_cases hmember : member.1 = other <;> simp [Json.Members.lookup, hmember, ih]

/-- A member that is not there is not found. -/
lemma lookup_of_notMem (h : name ∉ members.map Prod.fst) :
    Json.Members.lookup name members = none := by
  induction members with
  | nil => rfl
  | cons member members ih =>
    simp only [List.map_cons, List.mem_cons, not_or] at h
    have hmember : member.1 ≠ name := Ne.symm h.1
    simpa [Json.Members.lookup, hmember] using ih h.2

/-- The order of members with distinct names does not matter. -/
lemma lookup_perm {reordered : Json.Members} (h : members.Perm reordered)
    (hdistinct : (members.map Prod.fst).Nodup) (name : String) :
    Json.Members.lookup name members = Json.Members.lookup name reordered := by
  induction h with
  | nil => rfl
  | cons member _ ih =>
    have hrest := ih (List.nodup_cons.mp hdistinct).2
    by_cases hmember : member.1 = name <;> simp [Json.Members.lookup, hmember, hrest]
  | swap first second rest =>
    have hne : second.1 ≠ first.1 := fun heq =>
      (List.nodup_cons.mp hdistinct).1 (heq ▸ List.mem_cons_self)
    by_cases hfirst : first.1 = name
    · have hsecond : second.1 ≠ name := hfirst ▸ hne
      simp [Json.Members.lookup, hfirst, hsecond]
    · simp [Json.Members.lookup, hfirst]
  | trans hleft _ ihleft ihright =>
    exact (ihleft hdistinct).trans (ihright ((hleft.map Prod.fst).nodup_iff.mp hdistinct))

end Lookup

/-! ## Members of a record -/

/-- A constructor alone has no fields. -/
@[simp]
lemma fields_ofConstructor (record : String) (construct : ρ) :
    (ofConstructor record construct).fields = [] := rfl

/-- A further field comes after those before it. -/
@[simp]
lemma fields_field (s : Shape (α → ρ)) (name : String) (read : Reader α) (default? : Option α) :
    (s.field name read default?).fields = s.fields ++ [name] := rfl

/-- `members` are the members of the record `x`. -/
structure Reads (s : Shape ρ) (members : Json.Members) (x : ρ) : Prop where
  /-- Each member is for a field. -/
  known : ∀ member ∈ members, member.1 ∈ s.fields
  /-- No two members are for the same field. -/
  distinct : (members.map Prod.fst).Nodup
  /-- Each value fits its field. -/
  fits : ∀ member ∈ members, s.fault? member.1 member.2 = none
  /-- The record is built from the values of the fields. -/
  builds : ∀ lookup : String → Option Json,
    (∀ name ∈ s.fields, lookup name = members.lookup name) → s.build lookup = .ok x

/-- A constructor without fields has no members. -/
lemma reads_ofConstructor (record : String) (construct : ρ) :
    (ofConstructor record construct).Reads [] construct where
  known := by simp
  distinct := List.nodup_nil
  fits := by simp
  builds _ _ := rfl

/-- The order of the members does not matter. -/
theorem Reads.perm {s : Shape ρ} {members reordered : Json.Members} {x : ρ}
    (h : s.Reads members x) (hperm : members.Perm reordered) : s.Reads reordered x where
  known member hmember := h.known member (hperm.mem_iff.mpr hmember)
  distinct := (hperm.map Prod.fst).nodup_iff.mp h.distinct
  fits member hmember := h.fits member (hperm.mem_iff.mpr hmember)
  builds lookup hlookup := by
    refine h.builds lookup fun name hname => ?_
    rw [hlookup name hname]
    exact (lookup_perm hperm h.distinct name).symm

section Fields

variable {s : Shape (α → ρ)} {members : Json.Members} {construct : α → ρ} {name : String}
  {read : Reader α}

/-- What is for no field is no member. -/
lemma Reads.notMem (h : s.Reads members construct) (hnew : name ∉ s.fields) :
    name ∉ members.map Prod.fst := by
  intro hmem
  obtain ⟨member, hmember, rfl⟩ := List.mem_map.mp hmem
  exact hnew (h.known member hmember)

/-- The members for earlier fields fit a shape with one more field. -/
lemma Reads.fits_field (h : s.Reads members construct) (hnew : name ∉ s.fields)
    (default? : Option α) :
    ∀ member ∈ members, (s.field name read default?).fault? member.1 member.2 = none := by
  intro member hmember
  have hne : member.1 ≠ name := fun heq => hnew (heq ▸ h.known member hmember)
  simpa [field, hne] using h.fits member hmember

/-- **A field that is present** takes the value of its member. -/
theorem Reads.present (h : s.Reads members construct) (hnew : name ∉ s.fields)
    {v : Json} {a : α} (hread : read v = .ok a) (default? : Option α) :
    (s.field name read default?).Reads (members ++ [(name, v)]) (construct a) where
  known := by
    simp only [List.forall_mem_append, List.forall_mem_singleton]
    exact ⟨fun member hmember => List.mem_append_left _ (h.known member hmember), by simp [field]⟩
  distinct := by
    rw [List.map_append, List.map_singleton, ← List.concat_eq_append]
    exact List.Nodup.concat (h.notMem hnew) h.distinct
  fits := by
    simp only [List.forall_mem_append, List.forall_mem_singleton]
    exact ⟨h.fits_field hnew default?, by simp [field, errorOf?, hread]⟩
  builds lookup hlookup := by
    have hearlier : s.build lookup = .ok construct := by
      refine h.builds lookup fun other hother => ?_
      rw [hlookup other (List.mem_append_left _ hother)]
      exact lookup_concat_of_ne (ne_of_mem_of_not_mem hother hnew) v
    have hvalue : lookup name = some v := by
      rw [hlookup name (by simp [field])]
      exact lookup_concat_self (h.notMem hnew) v
    simp only [field, hearlier, hvalue, hread]
    rfl

/-- **A field that is absent** takes its default. -/
theorem Reads.absent (h : s.Reads members construct) (hnew : name ∉ s.fields) (default : α) :
    (s.field name read (some default)).Reads members (construct default) where
  known member hmember := List.mem_append_left _ (h.known member hmember)
  distinct := h.distinct
  fits := h.fits_field hnew (some default)
  builds lookup hlookup := by
    have hearlier : s.build lookup = .ok construct :=
      h.builds lookup fun other hother => hlookup other (List.mem_append_left _ hother)
    have hvalue : lookup name = none := by
      rw [hlookup name (by simp [field])]
      exact lookup_of_notMem (h.notMem hnew)
    simp only [field, hearlier, hvalue]
    rfl

end Fields

/-! ## Reading -/

/-- **Members are not refused** when no two are for the same field, none is for a field that had one
before, and each fits its field. -/
theorem firstFault?_eq_none_iff (s : Shape ρ) (seen : List String) (members : Json.Members) :
    s.firstFault? seen members = none ↔
      members.AtMostOnce s.fields ∧ ∀ m ∈ members, m.1 ∈ s.fields →
        m.1 ∉ seen ∧ s.fault? m.1 m.2 = none := by
  induction members generalizing seen with
  | nil => simp [firstFault?, Json.Members.AtMostOnce]
  | cons member rest ih =>
    obtain ⟨name, v⟩ := member
    by_cases hname : name ∈ s.fields
    · rw [Json.Members.atMostOnce_cons_of_mem hname, List.forall_mem_cons]
      by_cases hseen : name ∈ seen
      · simp [firstFault?, hname, hseen]
      · cases hfault : s.fault? name v with
        | some e => simp [firstFault?, hname, hseen, hfault]
        | none =>
          simp only [firstFault?, if_pos hname, if_neg hseen, hfault, ih, List.mem_cons, not_or]
          constructor
          · rintro ⟨honce, hrest⟩
            refine ⟨⟨fun m hm heq => ?_, honce⟩, fun _ => ⟨hseen, trivial⟩, fun m hm hfield => ?_⟩
            · exact (hrest m hm (heq ▸ hname)).1.1 heq
            · exact ⟨(hrest m hm hfield).1.2, (hrest m hm hfield).2⟩
          · rintro ⟨⟨honly, honce⟩, -, hrest⟩
            refine ⟨honce, fun m hm hfield => ?_⟩
            exact ⟨⟨honly m hm, (hrest m hm hfield).1⟩, (hrest m hm hfield).2⟩
    · rw [Json.Members.atMostOnce_cons_of_notMem hname, List.forall_mem_cons]
      simp [firstFault?, hname, ih]

/-- **The members of a record are read as that record.** -/
theorem Reads.read {s : Shape ρ} {members : Json.Members} {x : ρ} (h : s.Reads members x) :
    s.read (.object members) = .ok x := by
  have hfault : s.firstFault? [] members = none :=
    (firstFault?_eq_none_iff s [] members).mpr
      ⟨Json.Members.atMostOnce_of_nodup _ h.distinct,
        fun m hm _ => ⟨List.not_mem_nil, h.fits m hm⟩⟩
  simp [Shape.read, ofMembers, hfault, h.builds (members.lookup ·) fun _ _ => rfl]

end CampusBoard.Decode.Shape
