import CampusBoard.Proofs.Toml.Values
import Mathlib.Tactic.Common
import Mathlib.Tactic.Lemma

/-!
# Lines of a written document

Headers and pairs whose names need no quotes are read back, and each fills the document's table as
its writer means it to: a header that is new opens a table at the end, and a pair whose key is new
adds a value at the end of the table that was opened last.

## Main definitions

* `CampusBoard.Toml.Reader.IsBare`: a name that needs no quotes.

## Main results

* `CampusBoard.Toml.Reader.line_header`, `CampusBoard.Toml.Reader.line_pair`: the two kinds of lines
  read back.
* `CampusBoard.Toml.Reader.lines_header`, `CampusBoard.Toml.Reader.lines_pair`: what they do to the
  document's table.
-/

set_option autoImplicit false

namespace CampusBoard.Toml

/-! ## Tables that grow at their end -/

section Tables

variable {name : String} {entries : Entries}

/-- The names of the entries of a table. -/
abbrev Entries.names (entries : Entries) : List String := entries.map Prod.fst

/-- A change to a missing entry puts a new one at the end. -/
lemma alter?_of_notMem (h : name ∉ entries.names) (change : Option Node → Option Node) :
    entries.alter? name change = (change none).map fun node => entries ++ [(name, node)] := by
  induction entries with
  | nil => rfl
  | cons entry entries ih =>
    simp only [Entries.names, List.map_cons, List.mem_cons, not_or] at h
    have hentry : entry.1 ≠ name := Ne.symm h.1
    cases hchange : change none <;> simp [Entries.alter?, hentry, ih h.2, hchange]

/-- A change to the last entry leaves those before it alone. -/
lemma alter?_last (h : name ∉ entries.names) (change : Option Node → Option Node) (node : Node) :
    Entries.alter? name change (entries ++ [(name, node)]) =
      (change (some node)).map fun node => entries ++ [(name, node)] := by
  induction entries with
  | nil => simp [Entries.alter?]
  | cons entry entries ih =>
    simp only [Entries.names, List.map_cons, List.mem_cons, not_or] at h
    have hentry : entry.1 ≠ name := Ne.symm h.1
    cases hchange : change (some node) <;> simp [Entries.alter?, hentry, ih h.2, hchange]

/-- A new header opens an empty table at the end. -/
lemma openTable?_of_notMem (h : name ∉ entries.names) :
    openTable? [name] entries = some (entries ++ [(name, .table .headed [])]) := by
  simp [openTable?, underPath?, alter?_of_notMem h]

/-- A new key adds a value at the end of the last table. -/
lemma insertUnder?_last (h : name ∉ entries.names) {key : String} {inner : Entries}
    (hkey : key ∉ inner.names) (v : Value) :
    insertUnder? [key] v [name] (entries ++ [(name, .table .headed inner)]) =
      some (entries ++ [(name, .table .headed (inner ++ [(key, .leaf v)]))]) := by
  simp [insertUnder?, insertPair?, alter?_last h, alter?_of_notMem hkey]

end Tables

/-- The entries of a finished table are those of the table, finished one by one. -/
lemma finished_eq_map (entries : Entries) :
    finished entries = entries.map fun entry => (entry.1, entry.2.toValue) := by
  induction entries with
  | nil => rfl
  | cons entry entries ih =>
    obtain ⟨name, node⟩ := entry
    simp [finished, finishedEntry, ih]

namespace Reader

/-! ## Names -/

/-- A name that needs no quotes: it has characters, all of which may stand in a key. -/
def IsBare (name : String) : Prop :=
  name.toList ≠ [] ∧ name.toList.all isBareChar = true

instance : DecidablePred IsBare := fun name =>
  inferInstanceAs (Decidable (name.toList ≠ [] ∧ name.toList.all isBareChar = true))

variable {name : String}

/-- The characters of a name may stand in a key. -/
lemma IsBare.chars (h : IsBare name) : ∀ c ∈ name.toList, isBareChar c = true :=
  List.all_eq_true.mp h.2

/-- A name begins with a character that may stand in a key. -/
lemma IsBare.exists_toList_eq_cons (h : IsBare name) :
    ∃ c cs, name.toList = c :: cs ∧ isBareChar c = true := by
  obtain ⟨c, cs, hcons⟩ := List.exists_cons_of_ne_nil h.1
  exact ⟨c, cs, hcons, h.chars c (hcons ▸ List.mem_cons_self)⟩

/-- A name is read up to the first character that may not stand in a key. -/
lemma keyPart_append (h : IsBare name) {c : Char} (hc : isBareChar c = false) (after : List Char) :
    keyPart (name.toList ++ c :: after) = some (name, c :: after) := by
  have hend : ∀ d ∈ (c :: after).head?, isBareChar d = false := by simpa using hc
  have htake := Text.takeWhile_append_of_head? h.chars hend
  have hdrop := Text.dropWhile_append_of_head? h.chars hend
  obtain ⟨d, ds, hcons, hd⟩ := h.exists_toList_eq_cons
  have hname : String.ofList (d :: ds) = name := by rw [← hcons, String.ofList_toList]
  have hdouble : d ≠ '"' := ne_of_class hd (by decide)
  have hsingle : d ≠ '\x27' := ne_of_class hd (by decide)
  rw [hcons, List.cons_append] at htake hdrop ⊢
  simp [keyPart, hdouble, hsingle, htake, hdrop, hname]

/-- A name is no blank. -/
lemma IsBare.skipSpace (h : IsBare name) (after : List Char) :
    skipSpace (name.toList ++ after) = name.toList ++ after := by
  obtain ⟨c, cs, hcons, hc⟩ := h.exists_toList_eq_cons
  rw [hcons]
  exact skipSpace_cons (ne_of_class hc (by decide)) (ne_of_class hc (by decide)) _

/-- A name without a point after it is a whole key. -/
lemma key_append (h : IsBare name) {c d : Char} (hc : isBareChar c = false) {after rest : List Char}
    (hd : d ≠ '.') (hrest : skipSpace (c :: after) = d :: rest) :
    key (name.toList ++ c :: after) = some ([name], d :: rest) := by
  have hparts : ∀ fuel, keyParts (fuel + 1) (name.toList ++ c :: after) =
      some ([name], d :: rest) := by
    intro fuel
    simp [keyParts, h.skipSpace, keyPart_append h hc, hrest, hd]
  simp [key, hparts, depthLimit]

/-! ## Lines -/

/-- **A header reads back.** -/
theorem line_header (h : IsBare name) (after : List Char) :
    line ('[' :: (name.toList ++ ']' :: '\n' :: after)) = some (.header [name], after) := by
  obtain ⟨c, cs, hcons, hc⟩ := h.exists_toList_eq_cons
  have hbracket : c ≠ '[' := ne_of_class hc (by decide)
  have hkey : key (name.toList ++ ']' :: '\n' :: after) = some ([name], ']' :: '\n' :: after) :=
    key_append h (by decide) (by decide) (skipSpace_cons (by decide) (by decide) _)
  rw [hcons, List.cons_append] at hkey ⊢
  simp [line, hbracket, hkey, endOfLine]

/-- **A pair reads back.** -/
theorem line_pair (h : IsBare name) {chars : List Char} {v : Value} (hv : Writes chars v)
    (after : List Char) :
    line (name.toList ++ ' ' :: '=' :: ' ' :: (chars ++ '\n' :: after)) =
      some (.pair [name] v, after) := by
  obtain ⟨c, cs, hcons, hc⟩ := h.exists_toList_eq_cons
  have hbracket : c ≠ '[' := ne_of_class hc (by decide)
  have hkey : key (name.toList ++ ' ' :: '=' :: ' ' :: (chars ++ '\n' :: after)) =
      some ([name], '=' :: ' ' :: (chars ++ '\n' :: after)) :=
    key_append h (by decide) (by decide) rfl
  have hspace : skipSpace (' ' :: (chars ++ '\n' :: after)) = chars ++ '\n' :: after :=
    hv.skipSpace after
  rw [hcons, List.cons_append] at hkey ⊢
  simp [line, hbracket, hkey, hspace, hv.value, endOfLine]

/-! ## Documents -/

/-- No gap is passed over in front of a header or a name. -/
lemma skipGap_cons {c : Char} (hc : isBareChar c = true ∨ c = '[') (cs : List Char) :
    skipGap false (c :: cs) = some (c :: cs) := by
  have hne : ∀ d, isBareChar d = false → d ≠ '[' → c ≠ d := by
    rintro d hd hbracket rfl
    rcases hc with hc | rfl
    · exact ne_of_class hc hd rfl
    · exact hbracket rfl
  have hfeed : c ≠ '\n' := hne '\n' (by decide) (by decide)
  have hreturn : c ≠ '\r' := hne '\r' (by decide) (by decide)
  have hspace : c ≠ ' ' := hne ' ' (by decide) (by decide)
  have htab : c ≠ '\t' := hne '\t' (by decide) (by decide)
  have hcomment : c ≠ '#' := hne '#' (by decide) (by decide)
  simp [skipGap, hreturn, hspace, htab, hcomment]

/-- Empty lines say nothing. -/
lemma lines_blank (fuel : Nat) (s : State) (cs : List Char) :
    lines fuel s ('\n' :: cs) = lines fuel s cs := by
  cases fuel <;> rfl

/-- **A new header opens a table at the end.** -/
theorem lines_header (h : IsBare name) {s : State} (hnew : name ∉ s.entries.names) (fuel : Nat)
    (after : List Char) :
    lines (fuel + 1) s ('[' :: (name.toList ++ ']' :: '\n' :: after)) =
      lines fuel ⟨[name], s.entries ++ [(name, .table .headed [])]⟩ after := by
  simp [lines, skipGap_cons, line_header h, State.add?, openTable?_of_notMem hnew]

/-- **A new key adds its value at the end of the last table.** -/
theorem lines_pair {table : String} {before inner : Entries} (htable : table ∉ before.names)
    (h : IsBare name) (hnew : name ∉ inner.names) {chars : List Char} {v : Value}
    (hv : Writes chars v) (fuel : Nat) (after : List Char) :
    lines (fuel + 1) ⟨[table], before ++ [(table, .table .headed inner)]⟩
        (name.toList ++ ' ' :: '=' :: ' ' :: (chars ++ '\n' :: after)) =
      lines fuel ⟨[table], before ++ [(table, .table .headed (inner ++ [(name, .leaf v)]))]⟩
        after := by
  obtain ⟨c, cs, hcons, hc⟩ := h.exists_toList_eq_cons
  have hline := line_pair h hv after
  rw [hcons, List.cons_append] at hline ⊢
  simp [lines, skipGap_cons (.inl hc), hline, State.add?, insertUnder?_last htable hnew]

end Reader

end CampusBoard.Toml
