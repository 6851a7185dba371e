import CampusBoard.Proofs.Settings.Overlay
import CampusBoard.Proofs.Toml.Members
import CampusBoard.Proofs.Toml.Tables
import CampusBoard.Settings.Document
import Mathlib

/-!
# Settings that are loaded

A document is read over the defaults as the table that it stands for, unless it holds a number that
is too large, be it under a key that nobody knows.

## Design

A document becomes an object before any setting is read, so there are two questions. Which documents
become objects is answered by `Toml.Value.toJson?_eq_none_iff`; that the object is a table in which
nothing stands twice follows from the way in which documents are filled
(`Toml.distinct_parse?`). The rest is said of tables in general (`Settings.read_eq_ok_iff`).

## Main results

* `CampusBoard.Settings.isTable_of_entries`: the object of a document is a table.
* `CampusBoard.Settings.ofDocument?_eq_some_iff`: which settings a document stands for.
* `CampusBoard.Settings.tables_overlay_defaults`: tables and documents over the defaults.
-/

set_option autoImplicit false

namespace CampusBoard.Settings

open Toml (Value)

/-- The sections of a document are tables. -/
def SectionsAreTables (entries : List (String × Value)) : Prop :=
  ∀ entry ∈ entries, entry.1 ∈ sectionNames → ∃ inner, entry.2 = .table inner

variable {entries : List (String × Value)} {members : Json.Members}

/-- What has a number of fields is a section. -/
lemma mem_sectionNames_of_fieldCount? {name : String} {count : Nat}
    (h : fieldCount? name = some count) : name ∈ sectionNames := by
  unfold fieldCount? at h
  split at h
  case h_6 => cases h
  all_goals decide

/-- Of sections that are tables everything is looked at. -/
lemma map_looked (h : SectionsAreTables entries) : entries.map looked = entries := by
  refine (List.map_congr_left fun entry hentry => ?_).trans (List.map_id _)
  obtain ⟨name, v⟩ := entry
  unfold looked
  split
  · rename_i count items hcount hitems
    obtain ⟨inner, hinner⟩ := h _ hentry (mem_sectionNames_of_fieldCount? hcount)
    rw [hitems] at hinner
    cases hinner
  · rfl

/-- The members of an object have the names of the entries that they stand for. -/
lemma names_of_entries (h : Toml.entriesToJson? entries = some members) :
    members.map Prod.fst = entries.map Prod.fst := by
  rw [Toml.entriesToJson?_eq_some_iff] at h
  induction h with
  | nil => rfl
  | cons hentry _ ih => rw [List.map_cons, List.map_cons, hentry.1, ih]

/-- A member stands for an entry. -/
lemma exists_entry_of_mem (h : Toml.entriesToJson? entries = some members) {m : String × Json}
    (hm : m ∈ members) : ∃ entry ∈ entries, m.1 = entry.1 ∧ entry.2.toJson? = some m.2 := by
  rw [Toml.entriesToJson?_eq_some_iff] at h
  obtain ⟨i, hi, rfl⟩ := List.getElem_of_mem hm
  have hi' : i < entries.length := h.length_eq ▸ hi
  exact ⟨entries[i], List.getElem_mem hi', h.get hi' hi⟩

/-- **The object of a document is a table.** -/
theorem isTable_of_entries (hdistinct : (Value.table entries).Distinct)
    (hsections : SectionsAreTables entries)
    (hmembers : Toml.entriesToJson? entries = some members) : IsTable members := by
  obtain ⟨hnames, hvalues⟩ :
      (entries.map Prod.fst).Nodup ∧ ∀ entry ∈ entries, entry.2.Distinct := by
    cases hdistinct with
    | table hnames hvalues => exact ⟨hnames, hvalues⟩
  refine ⟨Json.Members.atMostOnce_of_nodup _ (names_of_entries hmembers ▸ hnames), ?_⟩
  intro name hname v hv
  obtain ⟨entry, hentry, hkey, hjson⟩ :=
    exists_entry_of_mem hmembers (Json.Members.mem_of_lookup hv)
  obtain ⟨inner, hinner⟩ := hsections entry hentry (hkey ▸ hname)
  have hdistinctInner := hvalues entry hentry
  rw [hinner] at hjson hdistinctInner
  obtain ⟨innerMembers, hinnerMembers, rfl⟩ := Option.map_eq_some_iff.mp hjson
  cases hdistinctInner with
  | table hkeys _ =>
    exact ⟨innerMembers, rfl,
      Json.Members.atMostOnce_of_nodup _ (names_of_entries hinnerMembers ▸ hkeys)⟩

/-- The settings that a document stands for are those of its table. -/
theorem ofDocument?_eq_some_iff {document : String} (hparse : Toml.parse? document = some entries)
    (hsections : SectionsAreTables entries) {s : Settings} :
    ofDocument? document = some s ↔
      ∃ members, Toml.entriesToJson? entries = some members ∧ read (.object members) = .ok s := by
  have htable : (Value.table entries).toJson? = (Toml.entriesToJson? entries).map .object := by
    rw [Value.toJson?]
  simp only [ofDocument?, hparse, map_looked hsections, htable, Option.bind_eq_bind,
    Option.bind_some, Option.bind_map, Option.bind_eq_some_iff, Function.comp_apply]
  refine exists_congr fun members => and_congr_right fun _ => ?_
  cases read (.object members) <;> simp [Except.toOption]

/-- A text that is stored is loaded as a document. -/
lemma load_toUTF8 (document : String) :
    load (.file document.toUTF8) =
      match ofDocument? document with
      | some s => .ok s
      | none => .error .malformed := by
  have htext : String.fromUTF8? document.toUTF8 = some document := dif_pos document.isValidUTF8
  cases hsettings : ofDocument? document <;> simp only [load, htext, hsettings]

/-- **Settings that are given in a table or a document stand over the defaults one by one.** A table
is read if whatever it says of a setting is a value of its kind, and then each setting is what the
table says of it, or its default. Tables that say the same of each setting are read as the same,
whatever else they say and in whatever order. A document is the table that it stands for, unless it
holds a number that is too large, wherever that may be; then it is refused. Where nothing is stored
the settings are those of an empty document.

**Proof sketch.** A section is built field by field over what its members say, and a section that is
missing is what is built from nothing. No table of a document has a name twice, and no section that
is a table is cut when a document is looked at. -/
theorem tables_overlay_defaults :
    (∀ members, IsTable members →
      ((∃ s, read (.object members) = .ok s) ↔
        ∀ (x : Setting) (v : Json), x.given? members = some v → ∃ a, v = x.kind.toJson a) ∧
      (∀ s, read (.object members) = .ok s ↔
        ∀ x : Setting, x.Stands (x.get s) (x.given? members)) ∧
      ∀ members', IsTable members' → (∀ x : Setting, x.given? members' = x.given? members) →
        ∀ s, read (.object members') = .ok s ↔ read (.object members) = .ok s) ∧
    (∀ document entries, Toml.parse? document = some entries → SectionsAreTables entries →
      ((Value.table entries).HoldsTooLarge →
        load (.file document.toUTF8) = .error .malformed) ∧
      (¬(Value.table entries).HoldsTooLarge →
        ∃ members, Toml.entriesToJson? entries = some members ∧ IsTable members ∧
          ∀ s, load (.file document.toUTF8) = .ok s ↔ read (.object members) = .ok s)) ∧
    load .missing = .ok {} ∧ load (.file "".toUTF8) = .ok {} := by
  refine ⟨fun members h => ⟨exists_read_iff h, fun s => read_eq_ok_iff h, fun members' h' =>
    read_congr h h'⟩, fun document entries hparse hsections => ?_, rfl, ?_⟩
  · have hjson := Value.toJson?_eq_none_iff (.table entries)
    rw [Value.toJson?, Option.map_eq_none_iff] at hjson
    rw [load_toUTF8, ← hjson]
    cases hmembers : Toml.entriesToJson? entries with
    | none =>
      have hnone : ofDocument? document = none := by
        refine Option.eq_none_iff_forall_ne_some.mpr fun s hs => ?_
        obtain ⟨members, hsome, -⟩ := (ofDocument?_eq_some_iff hparse hsections).mp hs
        rw [hmembers] at hsome
        cases hsome
      simp [hnone]
    | some members =>
      have hload (s : Settings) :
          ofDocument? document = some s ↔ read (.object members) = .ok s := by
        simp [ofDocument?_eq_some_iff hparse hsections, hmembers]
      have htable : IsTable members :=
        isTable_of_entries (Toml.distinct_parse? hparse) hsections hmembers
      refine ⟨fun hnone => (Option.some_ne_none members hnone).elim,
        fun _ => ⟨members, rfl, htable, fun s => ?_⟩⟩
      rw [← hload]
      cases ofDocument? document <;> simp
  · rw [load_toUTF8]
    rfl

/-- A document with a mark, and with a key that nobody knows in a section that nobody knows. -/
def boldMarks : String := "[search]\nhighlight_pre_tag = \"<b>\"\n[shop]\nopen = true\n"

/-- The table of the document. -/
def boldMarksEntries : List (String × Value) :=
  [("search", .table [("highlight_pre_tag", .plain (.text "<b>"))]),
    ("shop", .table [("open", .plain (.bool true))])]

/-- The document changes the mark and nothing else. -/
theorem tables_overlay_defaults_boldMarks :
    Toml.parse? boldMarks = some boldMarksEntries ∧ SectionsAreTables boldMarksEntries ∧
      ¬(Value.table boldMarksEntries).HoldsTooLarge ∧
      load (.file boldMarks.toUTF8) = .ok { search := { preTag := "<b>" } } := by
  have hparse : Toml.parse? boldMarks = some boldMarksEntries := by cbv
  have hsections : SectionsAreTables boldMarksEntries := by
    intro entry hentry _
    simp only [boldMarksEntries, List.mem_cons, List.not_mem_nil, or_false] at hentry
    rcases hentry with rfl | rfl <;> exact ⟨_, rfl⟩
  have hfits : ¬(Value.table boldMarksEntries).HoldsTooLarge := by
    rw [← Value.toJson?_eq_none_iff]
    exact Option.some_ne_none _
  obtain ⟨htables, hdocuments, -⟩ := tables_overlay_defaults
  obtain ⟨members, hmembers, htable, hload⟩ := (hdocuments _ _ hparse hsections).2 hfits
  obtain rfl := Option.some.inj hmembers
  refine ⟨hparse, hsections, hfits, (hload _).mpr (((htables _ htable).2.1 _).mpr fun x => ?_)⟩
  cases x <;> rfl

/-- A document with a number that is too large under a key that nobody knows. -/
def hugeUnknown : String := "x = 1e400\n"

/-- The number makes a difference, although nobody knows its key. -/
theorem hugeUnknown_is_refused :
    Toml.parse? hugeUnknown = some [("x", .tooLarge)] ∧ "x" ∉ sectionNames ∧
      load (.file hugeUnknown.toUTF8) = .error .malformed ∧ load (.file "".toUTF8) = .ok {} := by
  have hparse : Toml.parse? hugeUnknown = some [("x", .tooLarge)] := by cbv
  refine ⟨hparse, by decide, ?_, ?_⟩
  · rw [load_toUTF8, ofDocument?, hparse]
    rfl
  · rw [load_toUTF8]
    rfl

end CampusBoard.Settings
