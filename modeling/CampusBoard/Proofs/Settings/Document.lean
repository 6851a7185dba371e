import CampusBoard.Proofs.Settings.Sections
import CampusBoard.Proofs.Toml.Lines
import CampusBoard.Settings.Document
import Mathlib.Tactic.Common
import Mathlib.Tactic.Lemma

/-!
# Saved settings are loaded

A written document is read as the sections it was written from, and the document of settings is
read as these settings, whatever their texts and numbers are.

## Design

Lines are read one after another on a supply of steps. How many it takes does not matter, only that
a line takes one and has at least one character: so the supply stays greater than what is left of
the document, and every lemma about several lines says that and nothing else about it.

## Main definitions

* `CampusBoard.Settings.Entry.json`, `CampusBoard.Settings.Section.members`: what a written value
  and a section stand for.
* `CampusBoard.Settings.Section.IsPlain`: a section whose names need no quotes and whose keys
  differ.

## Main results

* `CampusBoard.Settings.parse?_sections`: a document of sections is read as these sections.
* `CampusBoard.Settings.load_saved`: saving and loading settings changes nothing.
-/

set_option autoImplicit false

namespace CampusBoard.Settings

open Toml Toml.Reader

/-! ## What is written -/

/-- The JSON value that a written value stands for. -/
def Entry.json : Entry → Json
  | .number n => Decode.ofNat n.toNat
  | .text s => .text s

/-- The members of the object that a section stands for. -/
def Section.members (s : Section) : Json.Members :=
  s.2.map fun pair => (pair.1, pair.2.json)

/-- **A written value reads back.** -/
theorem Entry.writes (e : Entry) : Writes e.chars (.plain e.json) := by
  cases e with
  | number n => exact writes_writeNat (Nat.lt_trans n.toNat_lt (by decide))
  | text s => simpa [Entry.chars, Entry.json] using writes_writeText s.toList

/-- A section whose names need no quotes and whose keys differ. -/
structure Section.IsPlain (s : Section) : Prop where
  /-- Its name needs no quotes. -/
  name : IsBare s.1
  /-- Nor do its keys. -/
  keys : ∀ pair ∈ s.2, IsBare pair.1
  /-- No two keys are alike. -/
  distinct : (s.2.map Prod.fst).Nodup

/-- The entries of a table under its header. -/
def leaves (pairs : List (String × Entry)) : Entries :=
  pairs.map fun pair => (pair.1, .leaf (.plain pair.2.json))

/-- The entries of a document's table. -/
def tables (ss : List Section) : Entries :=
  ss.map fun s => (s.1, .table .headed (leaves s.2))

/-! ## Reading the lines -/

/-- **The pairs of a section** are added to its table one after another. -/
theorem lines_pairs {table : String} {before : Entries} (htable : table ∉ before.names)
    {pairs : List (String × Entry)} (hkeys : ∀ pair ∈ pairs, IsBare pair.1) (inner : Entries)
    (hdistinct : (inner.names ++ pairs.map Prod.fst).Nodup) (after : List Char) {fuel : Nat}
    (hfuel : (pairs.flatMap pairLine ++ after).length < fuel) :
    ∃ fuel', after.length < fuel' ∧
      lines fuel ⟨[table], before ++ [(table, .table .headed inner)]⟩
          (pairs.flatMap pairLine ++ after) =
        lines fuel' ⟨[table], before ++ [(table, .table .headed (inner ++ leaves pairs))]⟩
          after := by
  induction pairs generalizing inner fuel with
  | nil => exact ⟨fuel, hfuel, by simp [leaves]⟩
  | cons pair pairs ih =>
    obtain ⟨name, entry⟩ := pair
    obtain ⟨fuel, rfl⟩ : ∃ rest, fuel = rest + 1 := ⟨fuel - 1, by omega⟩
    have hnew : name ∉ inner.names := fun hmem =>
      List.disjoint_of_nodup_append hdistinct hmem List.mem_cons_self
    have hline := lines_pair htable (hkeys _ List.mem_cons_self) hnew entry.writes fuel
      (pairs.flatMap pairLine ++ after)
    have hlength : (pairs.flatMap pairLine ++ after).length < fuel := by
      simp [pairLine] at hfuel ⊢
      omega
    obtain ⟨fuel', hfuel', hpairs⟩ := ih
      (fun pair hpair => hkeys pair (List.mem_cons_of_mem _ hpair))
      (inner ++ [(name, .leaf (.plain entry.json))]) (by simpa using hdistinct) hlength
    refine ⟨fuel', hfuel', ?_⟩
    rw [hpairs] at hline
    simpa [pairLine, leaves] using hline

/-- **A section** adds its table. -/
theorem lines_section {s : Section} (hplain : s.IsPlain) {before : Entries}
    (hnew : s.1 ∉ before.names) (path : List String) (after : List Char) {fuel : Nat}
    (hfuel : (sectionLines s ++ after).length < fuel) :
    ∃ fuel', after.length < fuel' ∧
      lines fuel ⟨path, before⟩ (sectionLines s ++ after) =
        lines fuel' ⟨[s.1], before ++ tables [s]⟩ after := by
  obtain ⟨fuel, rfl⟩ : ∃ rest, fuel = rest + 1 := ⟨fuel - 1, by omega⟩
  have hheader := lines_header hplain.name (s := ⟨path, before⟩) hnew fuel
    (s.2.flatMap pairLine ++ after)
  have hlength : (s.2.flatMap pairLine ++ after).length < fuel := by
    simp [sectionLines] at hfuel ⊢
    omega
  obtain ⟨fuel', hfuel', hpairs⟩ := lines_pairs hnew hplain.keys []
    (by simpa using hplain.distinct) after hlength
  refine ⟨fuel', hfuel', ?_⟩
  rw [hpairs] at hheader
  simpa [sectionLines, tables] using hheader

/-- **All sections** add their tables. -/
theorem lines_sections {ss : List Section} (hplain : ∀ s ∈ ss, s.IsPlain) (before : Entries)
    (hdistinct : (before.names ++ ss.map Prod.fst).Nodup) (path : List String) {fuel : Nat}
    (hfuel : (['\n'].intercalate (ss.map sectionLines)).length < fuel) :
    (lines fuel ⟨path, before⟩ (['\n'].intercalate (ss.map sectionLines))).map State.entries =
      some (before ++ tables ss) := by
  induction ss generalizing before path fuel with
  | nil =>
    obtain ⟨fuel, rfl⟩ : ∃ rest, fuel = rest + 1 := ⟨fuel - 1, by omega⟩
    simp [lines, skipGap, tables]
  | cons s ss ih =>
    have hnew : s.1 ∉ before.names := fun hmem =>
      List.disjoint_of_nodup_append hdistinct hmem List.mem_cons_self
    have hself := hplain s List.mem_cons_self
    have hothers : ∀ s' ∈ ss, s'.IsPlain := fun s' hs' => hplain s' (List.mem_cons_of_mem s hs')
    -- what follows the section: nothing, or an empty line and the other sections
    obtain ⟨after, hafter, hread⟩ : ∃ after,
        ['\n'].intercalate ((s :: ss).map sectionLines) = sectionLines s ++ after ∧
        ∀ fuel, after.length < fuel →
          (lines fuel ⟨[s.1], before ++ tables [s]⟩ after).map State.entries =
            some (before ++ tables [s] ++ tables ss) := by
      have hdistinct' : ((before ++ tables [s]).names ++ ss.map Prod.fst).Nodup := by
        simpa [tables] using hdistinct
      have hrest := fun fuel => @ih hothers _ hdistinct' [s.1] fuel
      cases ss with
      | nil => exact ⟨[], by simp, hrest⟩
      | cons s' ss =>
        refine ⟨'\n' :: ['\n'].intercalate ((s' :: ss).map sectionLines), by simp, ?_⟩
        intro fuel hfuel
        rw [lines_blank]
        exact hrest fuel (by simp at hfuel ⊢; omega)
    rw [hafter] at hfuel ⊢
    obtain ⟨fuel', hfuel', hsection⟩ := lines_section hself hnew path after hfuel
    rw [hsection, hread fuel' hfuel']
    simp [tables]

/-! ## The document -/

/-- The value of a section in the document's table. -/
def Section.value (s : Section) : Value :=
  .table (s.members.map fun member => (member.1, .plain member.2))

/-- A document of sections begins with no mark. -/
lemma withoutMark_sections (ss : List Section) :
    withoutMark (['\n'].intercalate (ss.map sectionLines)) =
      ['\n'].intercalate (ss.map sectionLines) := by
  cases ss with
  | nil => rfl
  | cons s ss => cases ss <;> simp [sectionLines, withoutMark]

/-- **A document of sections is read as these sections.** -/
theorem parse?_sections {ss : List Section} (hplain : ∀ s ∈ ss, s.IsPlain)
    (hdistinct : (ss.map Prod.fst).Nodup) :
    parse? (String.ofList (['\n'].intercalate (ss.map sectionLines))) =
      some (ss.map fun s => (s.1, s.value)) := by
  have hread := lines_sections hplain [] hdistinct [] (Nat.lt_succ_self _)
  obtain ⟨state, hstate, hentries⟩ := Option.map_eq_some_iff.mp hread
  have hfinished : finished (tables ss) = ss.map fun s => (s.1, s.value) := by
    simp [finished_eq_map, tables, leaves, Node.toValue, Section.value, Section.members]
  simpa [parse?, withoutMark_sections, hstate, hentries] using hfinished

/-- A section stands for the object of its members. -/
lemma toJson?_value (s : Section) : s.value.toJson? = some (.object s.members) := by
  have hplain : ∀ member ∈ s.members, (Value.plain member.2).toJson? = some member.2 :=
    fun _ _ => rfl
  have hmembers := entriesToJson?_map s.members Prod.fst hplain
  simp [Section.value, Value.toJson?, hmembers]

/-! ## Settings -/

/-- A section is plain if its names are. -/
lemma isPlain_of_keys {name : String} {pairs : List (String × Entry)} (keys : List String)
    (hkeys : pairs.map Prod.fst = keys)
    (h : IsBare name ∧ (∀ key ∈ keys, IsBare key) ∧ keys.Nodup) :
    Section.IsPlain (name, pairs) := by
  subst hkeys
  exact ⟨h.1, fun pair hpair => h.2.1 _ (List.mem_map_of_mem hpair), h.2.2⟩

/-- The sections of settings are plain. -/
lemma isPlain_of_mem_sections (s : Settings) : ∀ sec ∈ s.sections, sec.IsPlain := by
  simp only [sections, List.forall_mem_cons]
  refine ⟨?_, ?_, ?_, ?_, ?_, List.forall_mem_nil _⟩
  · exact isPlain_of_keys ["page_size", "highlight_pre_tag", "highlight_post_tag"] rfl (by decide)
  · exact isPlain_of_keys ["max_chars", "min_password_length", "code_length", "email_domain",
      "error_max_chars"] rfl (by decide)
  · exact isPlain_of_keys ["min_chars", "max_chars", "max_thumbs", "thumbs_flush_ms"] rfl
      (by decide)
  · exact isPlain_of_keys ["auth_cooldown_ms", "post_cooldown_ms"] rfl (by decide)
  · cases s.endpoints.indexKey with
    | none =>
      exact isPlain_of_keys ["meili_url", "swap_backend", "housing_backend", "home_backend"] rfl
        (by decide)
    | some key =>
      exact isPlain_of_keys ["meili_url", "meili_key", "swap_backend", "housing_backend",
        "home_backend"] rfl (by decide)

/-- Of a section that is written as a table everything is looked at. -/
lemma looked_value (s : Section) : looked (s.1, s.value) = (s.1, s.value) := by
  unfold looked Section.value
  split <;> simp_all

/-- The members of the section of addresses, which may lack a key. -/
lemma members_endpoints (s : EndpointSettings) :
    Section.members ("endpoints", [("meili_url", .text s.indexUrl)] ++
        (match s.indexKey with
          | some key => [("meili_key", .text key)]
          | none => []) ++
        [("swap_backend", .text s.swapBackend), ("housing_backend", .text s.housingBackend),
          ("home_backend", .text s.homeBackend)]) =
      [("meili_url", .text s.indexUrl)] ++ Decode.member? "meili_key" Json.text s.indexKey ++
        [("swap_backend", .text s.swapBackend), ("housing_backend", .text s.housingBackend),
          ("home_backend", .text s.homeBackend)] := by
  cases s.indexKey <;> rfl

/-- The sections of settings are read as these settings. -/
lemma read_sections (s : Settings) :
    read (.object (s.sections.map fun sec => (sec.1, .object sec.members))) = .ok s := by
  have hendpoints := EndpointSettings.reads s.endpoints
  rw [← members_endpoints] at hendpoints
  exact (Settings.reads (SearchSettings.reads s.search) (AccountSettings.reads s.account)
    (ReviewSettings.reads s.reviews) (LimitSettings.reads s.limits) hendpoints).read

/-- A document whose table is read as settings is read as these settings. -/
lemma ofDocument?_eq_some {document : String} {entries : List (String × Value)} {table : Json}
    {s : Settings} (hparse : parse? document = some entries)
    (htable : (Value.table (entries.map looked)).toJson? = some table)
    (hread : read table = .ok s) : ofDocument? document = some s := by
  simp [ofDocument?, hparse, htable, hread, Except.toOption]

/-- **The document of settings is read as these settings.** -/
theorem ofDocument?_document (s : Settings) : ofDocument? s.document = some s := by
  have hdistinct : (s.sections.map Prod.fst).Nodup := by simp [sections]
  have hlooked : (s.sections.map fun sec => (sec.1, sec.value)).map looked =
      s.sections.map fun sec => (sec.1, sec.value) := by
    simp [looked_value]
  have hjson := entriesToJson?_map s.sections Prod.fst fun sec _ => toJson?_value sec
  refine ofDocument?_eq_some (parse?_sections (isPlain_of_mem_sections s) hdistinct) ?_
    (read_sections s)
  rw [hlooked, Value.toJson?, hjson, Option.map_some]

/-- **Saving and loading settings changes nothing**, whatever their texts and numbers are: the
document that is saved is loaded, and as the settings that were saved. -/
theorem load_saved (s : Settings) :
    ∃ document, save true s = .ok document ∧ load (.file document.toUTF8) = .ok s := by
  refine ⟨s.document, rfl, ?_⟩
  have htext : String.fromUTF8? s.document.toUTF8 = some s.document :=
    dif_pos s.document.isValidUTF8
  simp only [load, htext, ofDocument?_document]

end CampusBoard.Settings
