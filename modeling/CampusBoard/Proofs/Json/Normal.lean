import CampusBoard.Json.Basic
import Mathlib.Data.List.Nodup
import Mathlib.Data.String.Basic
import Mathlib.Tactic.Common
import Mathlib.Tactic.Lemma

/-!
# Normal forms of JSON values

A value is in normal form when the members of its objects, at every depth, are sorted by name and
each name stands once.

## Main definitions

* `CampusBoard.Json.Members.Sorted`: members sorted by name, each name once.
* `CampusBoard.Json.IsNormal`: a value that is its own normal form.
* `CampusBoard.Json.normalValues`: members with their values in normal form.

## Main results

* `CampusBoard.Json.perm_normalMembers`: members with distinct names are only put in order.
* `CampusBoard.Json.isNormal_list_iff`, `CampusBoard.Json.isNormal_object_iff`: when lists and
  objects are in normal form.
* `CampusBoard.Json.isNormal_normal`: the normal form of a value is in normal form.
-/

set_option autoImplicit false

namespace CampusBoard.Json

/-! ## Sorted members -/

namespace Members

variable {name : String} {v : Json} {members : Members}

/-- The members are sorted by name, each name standing once. -/
def Sorted (members : Members) : Prop :=
  members.Pairwise fun a b => a.1 < b.1

/-- The members that stand after inserting are the new one and earlier ones. -/
lemma mem_of_mem_insert {m : String × Json} (h : m ∈ Members.insert name v members) :
    m = (name, v) ∨ m ∈ members := by
  induction members with
  | nil => exact .inl (List.mem_singleton.mp h)
  | cons first rest ih =>
    unfold Members.insert at h
    split_ifs at h with hlt heq
    · exact List.mem_cons.mp h
    · rcases List.mem_cons.mp h with rfl | hrest
      · exact .inl rfl
      · exact .inr (List.mem_cons_of_mem _ hrest)
    · rcases List.mem_cons.mp h with rfl | hrest
      · exact .inr List.mem_cons_self
      · exact (ih hrest).imp id (List.mem_cons_of_mem _)

/-- Inserting keeps members sorted. -/
lemma Sorted.insert (h : members.Sorted) : Sorted (Members.insert name v members) := by
  induction members with
  | nil => exact List.pairwise_singleton _ _
  | cons first rest ih =>
    obtain ⟨hfirst, hrest⟩ := List.pairwise_cons.mp h
    unfold Members.insert
    split_ifs with hlt heq
    · refine List.pairwise_cons.mpr ⟨?_, h⟩
      intro m hm
      rcases List.mem_cons.mp hm with rfl | hm
      · exact hlt
      · exact lt_trans hlt (hfirst m hm)
    · subst heq
      exact List.pairwise_cons.mpr ⟨hfirst, hrest⟩
    · have hgt : first.1 < name := lt_of_le_of_ne (not_lt.mp hlt) (Ne.symm heq)
      refine List.pairwise_cons.mpr ⟨?_, ih hrest⟩
      intro m hm
      rcases mem_of_mem_insert hm with rfl | hm
      · exact hgt
      · exact hfirst m hm

/-- A member with a new name is only put in its place. -/
lemma insert_perm (h : name ∉ members.map Prod.fst) :
    (Members.insert name v members).Perm ((name, v) :: members) := by
  induction members with
  | nil => exact List.Perm.refl _
  | cons first rest ih =>
    rw [List.map_cons, List.mem_cons, not_or] at h
    unfold Members.insert
    split_ifs with hlt heq
    · exact List.Perm.refl _
    · exact absurd heq h.1
    · exact ((ih h.2).cons first).trans (List.Perm.swap _ _ _)

/-- A member that is found stands among the members. -/
lemma mem_of_lookup (h : members.lookup name = some v) : (name, v) ∈ members := by
  induction members with
  | nil => cases h
  | cons first rest ih =>
    unfold lookup at h
    split_ifs at h with hfirst
    · cases h
      exact hfirst ▸ List.mem_cons_self
    · exact List.mem_cons_of_mem _ (ih h)

/-- A member that is not found does not stand there under any value. -/
lemma ne_of_lookup_eq_none (h : members.lookup name = none) : ∀ m ∈ members, m.1 ≠ name := by
  induction members with
  | nil => simp
  | cons first rest ih =>
    unfold lookup at h
    split_ifs at h with hfirst
    exact List.forall_mem_cons.mpr ⟨hfirst, ih h⟩

/-- A member that is taken out of sorted members goes back to its place. -/
lemma Sorted.insert_filter (h : members.Sorted) (hmember : members.lookup name = some v) :
    Members.insert name v (members.filter fun m => m.1 ≠ name) = members := by
  induction members with
  | nil => cases hmember
  | cons first rest ih =>
    obtain ⟨hfirst, hrest⟩ := List.pairwise_cons.mp h
    unfold lookup at hmember
    split_ifs at hmember with heq
    · obtain ⟨key, value⟩ := first
      obtain rfl : key = name := heq
      obtain rfl := Option.some.inj hmember
      have hothers : rest.filter (fun m => m.1 ≠ key) = rest :=
        List.filter_eq_self.mpr fun m hm => by simpa using (hfirst m hm).ne'
      rw [List.filter_cons_of_neg (by simp), hothers]
      cases rest with
      | nil => rfl
      | cons second others => exact if_pos (hfirst second List.mem_cons_self)
    · have hlt : first.1 < name := hfirst (name, v) (mem_of_lookup hmember)
      rw [List.filter_cons_of_pos (by simpa using heq), Members.insert, if_neg hlt.not_gt,
        if_neg hlt.ne', ih hrest hmember]

/-- A member whose name comes after all others goes to the end. -/
lemma insert_eq_concat (h : ∀ m ∈ members, m.1 < name) :
    Members.insert name v members = members ++ [(name, v)] := by
  induction members with
  | nil => rfl
  | cons first rest ih =>
    obtain ⟨hfirst, hrest⟩ := List.forall_mem_cons.mp h
    rw [Members.insert, if_neg hfirst.not_gt, if_neg hfirst.ne', ih hrest, List.cons_append]

end Members

/-- A member of an object is found among its members. -/
lemma get?_object (name : String) (members : Members) :
    (Json.object members).get? name = members.lookup name := by
  induction members with
  | nil => rfl
  | cons first rest ih =>
    obtain ⟨key, value⟩ := first
    rw [get?] at ih ⊢
    by_cases hkey : key = name
    · simp [Members.lookup, hkey]
    · have hne : (name == key) = false := beq_false_of_ne (Ne.symm hkey)
      rw [Members.lookup, if_neg hkey, ← ih, List.lookup_cons, hne]

/-! ## Normal forms -/

/-- The value is its own normal form. -/
def IsNormal (v : Json) : Prop :=
  v.normal = v

/-- The members with their values in normal form, each in its place. -/
def normalValues (members : Members) : Members :=
  members.map fun m => (m.1, m.2.normal)

variable {members sorted : Members}

/-- A text is its own normal form. -/
@[simp]
lemma isNormal_text (s : String) : (Json.text s).IsNormal := rfl

/-- An integer is its own normal form. -/
@[simp]
lemma isNormal_integer (n : Int) : (Json.integer n).IsNormal := rfl

/-- The normal form of a list consists of the normal forms of its items. -/
lemma normalItems_eq_map (items : List Json) : normalItems items = items.map normal := by
  induction items with
  | nil => rfl
  | cons item rest ih => rw [normalItems, ih, List.map_cons]

/-- The members of a normal form were there before or stand for members. -/
lemma mem_of_mem_normalMembers {m : String × Json} (h : m ∈ normalMembers sorted members) :
    m ∈ sorted ∨ m ∈ normalValues members := by
  induction members generalizing sorted with
  | nil => exact .inl h
  | cons first rest ih =>
    obtain ⟨name, v⟩ := first
    rcases ih h with hsorted | hrest
    · rcases Members.mem_of_mem_insert hsorted with rfl | hsorted
      · exact .inr List.mem_cons_self
      · exact .inl hsorted
    · exact .inr (List.mem_cons_of_mem _ hrest)

/-- The members of a normal form are sorted. -/
lemma sorted_normalMembers (h : sorted.Sorted) : Members.Sorted (normalMembers sorted members) := by
  induction members generalizing sorted with
  | nil => exact h
  | cons first rest ih => exact ih h.insert

/-- Putting members with distinct names among others changes their order only. -/
lemma perm_normalMembers_append (h : ((sorted ++ members).map Prod.fst).Nodup) :
    (normalMembers sorted members).Perm (sorted ++ normalValues members) := by
  induction members generalizing sorted with
  | nil => simp [normalMembers, normalValues]
  | cons first rest ih =>
    obtain ⟨name, v⟩ := first
    have hmoved : (((name, v) :: (sorted ++ rest)).map Prod.fst).Nodup :=
      (List.perm_middle.map Prod.fst).nodup_iff.mp h
    obtain ⟨hnew, hothers⟩ := List.nodup_cons.mp hmoved
    have hinsert : (Members.insert name v.normal sorted).Perm ((name, v.normal) :: sorted) := by
      refine Members.insert_perm fun hmem => hnew ?_
      rw [List.map_append]
      exact List.mem_append_left _ hmem
    have hnext : ((Members.insert name v.normal sorted ++ rest).map Prod.fst).Nodup :=
      ((hinsert.append_right rest).map Prod.fst).nodup_iff.mpr (List.nodup_cons.mpr ⟨hnew, hothers⟩)
    exact (ih hnext).trans ((hinsert.append_right _).trans List.perm_middle.symm)

/-- **Members with distinct names are only put in order.** -/
theorem perm_normalMembers (h : (members.map Prod.fst).Nodup) :
    (normalMembers [] members).Perm (normalValues members) :=
  perm_normalMembers_append h

/-- Members that come after all others stay in their places. -/
lemma normalMembers_append_of_sorted (h : Members.Sorted (sorted ++ members)) :
    normalMembers sorted members = sorted ++ normalValues members := by
  induction members generalizing sorted with
  | nil => simp [normalMembers, normalValues]
  | cons first rest ih =>
    obtain ⟨name, v⟩ := first
    have hlast : ∀ m ∈ sorted, m.1 < name := fun m hm =>
      (List.pairwise_append.mp h).2.2 m hm (name, v) List.mem_cons_self
    have hnext : Members.Sorted (sorted ++ [(name, v.normal)] ++ rest) := by
      -- Being sorted is a matter of the names alone, which are the same.
      refine List.Pairwise.of_map (S := (· < ·)) Prod.fst (fun _ _ => id) ?_
      have hnames := List.Pairwise.map (S := (· < ·)) Prod.fst (fun _ _ => id) h
      simpa using hnames
    calc normalMembers sorted ((name, v) :: rest)
      _ = normalMembers (Members.insert name v.normal sorted) rest := rfl
      _ = sorted ++ [(name, v.normal)] ++ normalValues rest := by
        rw [Members.insert_eq_concat hlast, ih hnext]
      _ = sorted ++ normalValues ((name, v) :: rest) := List.append_assoc _ _ _

/-- Sorted members stay in their places. -/
lemma normalMembers_of_sorted (h : members.Sorted) :
    normalMembers [] members = normalValues members :=
  normalMembers_append_of_sorted h

/-- Values in normal form stay as they are. -/
lemma normalValues_eq_self_iff : normalValues members = members ↔ ∀ m ∈ members, m.2.IsNormal := by
  constructor
  · intro h m hm
    have hkept : (m.1, m.2.normal) = id m :=
      List.map_inj_left.mp (h.trans (List.map_id _).symm) m hm
    exact congrArg Prod.snd hkept
  · intro h
    have hkept : normalValues members = members.map id :=
      List.map_congr_left fun m hm => Prod.ext rfl (h m hm)
    rw [hkept, List.map_id]

/-- **A list is in normal form** when its items are. -/
theorem isNormal_list_iff {items : List Json} :
    (Json.list items).IsNormal ↔ ∀ item ∈ items, item.IsNormal := by
  rw [IsNormal, normal, normalItems_eq_map, Json.list.injEq]
  conv_lhs => rhs; rw [← List.map_id items]
  exact List.map_inj_left

/-- **An object is in normal form** when its members are sorted and their values are in normal
form. -/
theorem isNormal_object_iff :
    (Json.object members).IsNormal ↔ members.Sorted ∧ ∀ m ∈ members, m.2.IsNormal := by
  rw [IsNormal, normal, Json.object.injEq, ← normalValues_eq_self_iff]
  constructor
  · intro h
    have hsorted : members.Sorted := h ▸ sorted_normalMembers List.Pairwise.nil
    exact ⟨hsorted, (normalMembers_of_sorted hsorted).symm.trans h⟩
  · rintro ⟨hsorted, hvalues⟩
    exact (normalMembers_of_sorted hsorted).trans hvalues

/-- **The normal form of a value is in normal form.** -/
theorem isNormal_normal : ∀ v : Json, v.normal.IsNormal
  | .null | .bool _ | .integer _ | .real _ | .text _ => rfl
  | .list items => by
    rw [normal, isNormal_list_iff, normalItems_eq_map, List.forall_mem_map]
    intro item hitem
    exact isNormal_normal item
  | .object members => by
    rw [normal, isNormal_object_iff]
    refine ⟨sorted_normalMembers List.Pairwise.nil, ?_⟩
    intro m hm
    rcases mem_of_mem_normalMembers hm with hnil | hvalue
    · cases hnil
    · obtain ⟨m', hm', rfl⟩ := List.mem_map.mp hvalue
      have := List.sizeOf_lt_of_mem hm'
      have : sizeOf m'.2 < sizeOf m' := by cases m'; simp
      exact isNormal_normal m'.2

end CampusBoard.Json
