import CampusBoard.Toml.Value
import Mathlib.Data.List.Forall2
import Mathlib.Tactic.Common
import Mathlib.Tactic.Lemma

/-!
# Tables as objects

All parts of a value are looked at when it is taken as a JSON value, so it is one unless it holds a
number that is too large, wherever that stands. The entries of a table are then the members of an
object.

## Main definitions

* `CampusBoard.Toml.Value.HoldsTooLarge`: a value that holds a number that is too large.

## Main results

* `CampusBoard.Toml.Value.toJson?_eq_none_iff`: which values are no JSON values.
* `CampusBoard.Toml.entriesToJson?_eq_some_iff`: the entries of a table as members.
-/

set_option autoImplicit false

namespace CampusBoard.Toml

/-- The value holds a number that is too large: it is one, or an item of it or the value of an entry
holds one. -/
inductive Value.HoldsTooLarge : Value → Prop
  /-- It is one itself. -/
  | self : HoldsTooLarge .tooLarge
  /-- An item holds one. -/
  | item {items : List Value} {item : Value} (hitem : item ∈ items) (h : HoldsTooLarge item) :
    HoldsTooLarge (.list items)
  /-- The value of an entry holds one. -/
  | entry {entries : List (String × Value)} {entry : String × Value} (hentry : entry ∈ entries)
    (h : HoldsTooLarge entry.2) : HoldsTooLarge (.table entries)

/-! ## Lists and tables part by part -/

/-- Items are no JSON values if one of them is none. -/
lemma itemsToJson?_eq_none_iff (items : List Value) :
    itemsToJson? items = none ↔ ∃ item ∈ items, item.toJson? = none := by
  induction items with
  | nil => simp [itemsToJson?]
  | cons item rest ih =>
    rw [itemsToJson?, List.exists_mem_cons_iff, ← ih]
    cases item.toJson? <;> cases itemsToJson? rest <;> simp

/-- An entry is a member if its value is a JSON value. -/
lemma entryToJson?_eq_some_iff {entry : String × Value} {m : String × Json} :
    entryToJson? entry = some m ↔ m.1 = entry.1 ∧ entry.2.toJson? = some m.2 := by
  obtain ⟨name, v⟩ := entry
  obtain ⟨name', json⟩ := m
  rw [entryToJson?, Option.map_eq_some_iff]
  constructor
  · rintro ⟨json, hv, hm⟩
    cases hm
    exact ⟨rfl, hv⟩
  · rintro ⟨rfl, hv⟩
    exact ⟨json, hv, rfl⟩

/-- **Entries are members one by one.** -/
theorem entriesToJson?_eq_some_iff (entries : List (String × Value)) (members : Json.Members) :
    entriesToJson? entries = some members ↔
      List.Forall₂ (fun entry m => m.1 = entry.1 ∧ entry.2.toJson? = some m.2) entries members := by
  induction entries generalizing members with
  | nil => simp [entriesToJson?, eq_comm]
  | cons entry rest ih =>
    rw [entriesToJson?, List.forall₂_cons_left_iff]
    simp only [← entryToJson?_eq_some_iff] at ih ⊢
    simp only [← ih]
    cases entryToJson? entry <;> cases entriesToJson? rest <;> simp [eq_comm]

/-- Entries are no members if the value of one is no JSON value. -/
lemma entriesToJson?_eq_none_iff (entries : List (String × Value)) :
    entriesToJson? entries = none ↔ ∃ entry ∈ entries, entry.2.toJson? = none := by
  induction entries with
  | nil => simp [entriesToJson?]
  | cons entry rest ih =>
    have hentry : entryToJson? entry = none ↔ entry.2.toJson? = none := by
      rw [entryToJson?.eq_def]
      exact Option.map_eq_none_iff
    rw [entriesToJson?, List.exists_mem_cons_iff, ← ih, ← hentry]
    cases entryToJson? entry <;> cases entriesToJson? rest <;> simp

/-! ## Numbers that are too large -/

namespace Value

/-- What holds a number that is too large is no JSON value. -/
lemma HoldsTooLarge.toJson?_eq_none {v : Value} (h : v.HoldsTooLarge) : v.toJson? = none := by
  induction h with
  | self => rfl
  | item hitem _ ih =>
    rw [toJson?, Option.map_eq_none_iff, itemsToJson?_eq_none_iff]
    exact ⟨_, hitem, ih⟩
  | entry hentry _ ih =>
    rw [toJson?, Option.map_eq_none_iff, entriesToJson?_eq_none_iff]
    exact ⟨_, hentry, ih⟩

/-- What is no JSON value holds a number that is too large. -/
lemma holdsTooLarge_of_toJson?_eq_none : ∀ v : Value, v.toJson? = none → v.HoldsTooLarge
  | .plain v, h => by cases h
  | .tooLarge, _ => .self
  | .list items, h => by
    rw [toJson?, Option.map_eq_none_iff, itemsToJson?_eq_none_iff] at h
    obtain ⟨item, hitem, h⟩ := h
    exact .item hitem (holdsTooLarge_of_toJson?_eq_none item h)
  | .table entries, h => by
    rw [toJson?, Option.map_eq_none_iff, entriesToJson?_eq_none_iff] at h
    obtain ⟨entry, hentry, h⟩ := h
    have := List.sizeOf_lt_of_mem hentry
    have : sizeOf entry.2 < sizeOf entry := by
      obtain ⟨name, v⟩ := entry
      simp only [Prod.mk.sizeOf_spec]
      omega
    exact .entry hentry (holdsTooLarge_of_toJson?_eq_none entry.2 h)

/-- **A value is no JSON value** if it holds a number that is too large. -/
theorem toJson?_eq_none_iff (v : Value) : v.toJson? = none ↔ v.HoldsTooLarge :=
  ⟨holdsTooLarge_of_toJson?_eq_none v, HoldsTooLarge.toJson?_eq_none⟩

end Value

end CampusBoard.Toml
