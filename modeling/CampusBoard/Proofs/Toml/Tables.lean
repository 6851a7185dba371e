import CampusBoard.Proofs.Toml.Lines
import CampusBoard.Toml.Reader
import Mathlib.Data.List.Nodup

/-!
# No table of a document has a name twice

A name that is set again makes a document malformed, in every table, at every depth and however the
table came about. So the names of what a document holds are distinct.

## Design

All changes to a table go through `Entries.alter?`, which changes an entry in its place or adds one
with a new name. What it does to names is said once (`Entries.names_alter?`); pairs, headers and
inline tables follow by induction on the key. Values are read with a supply of steps, and the
induction on it carries the values and pairs that were read before the rest of a list or table.

## Main definitions

* `CampusBoard.Toml.Value.Distinct`, `CampusBoard.Toml.Entries.Distinct`: no table has a name twice.

## Main results

* `CampusBoard.Toml.Entries.Distinct.insertPair?`, `CampusBoard.Toml.Entries.Distinct.openTable?`,
  `CampusBoard.Toml.Entries.Distinct.openItem?`, `CampusBoard.Toml.Entries.Distinct.insertUnder?`:
  what a line does to tables.
* `CampusBoard.Toml.Reader.distinct_of_reads`: the values that are read.
* `CampusBoard.Toml.distinct_parse?`: the table of a document.
-/

set_option autoImplicit false

namespace CampusBoard.Toml

/-! ## Distinct names -/

/-- No table in the value has a name twice. -/
inductive Value.Distinct : Value → Prop
  /-- A plain value holds no table. -/
  | plain (v : Json) : Distinct (.plain v)
  /-- Nor does a number that is too large. -/
  | tooLarge : Distinct .tooLarge
  /-- It holds for a list if it does for its items. -/
  | list {items : List Value} (h : ∀ item ∈ items, Distinct item) : Distinct (.list items)
  /-- A table has each name once, and it holds for the values. -/
  | table {entries : List (String × Value)} (hnames : (entries.map Prod.fst).Nodup)
    (hvalues : ∀ entry ∈ entries, Distinct entry.2) : Distinct (.table entries)

/-- No table in what may still grow has a name twice. -/
inductive Node.Distinct : Node → Prop
  /-- A value that cannot grow. -/
  | leaf {v : Value} (h : v.Distinct) : Distinct (.leaf v)
  /-- A table. -/
  | table {origin : Origin} {entries : Entries} (hnames : entries.names.Nodup)
    (hnodes : ∀ entry ∈ entries, Distinct entry.2) : Distinct (.table origin entries)
  /-- A list of tables. -/
  | tables {earlier : List Value} {last : Entries} (hearlier : ∀ v ∈ earlier, v.Distinct)
    (hnames : last.names.Nodup) (hnodes : ∀ entry ∈ last, Distinct entry.2) :
    Distinct (.tables earlier last)

/-- The entries of a table have distinct names, and so have the tables in them. -/
structure Entries.Distinct (entries : Entries) : Prop where
  /-- Each name stands once. -/
  names : entries.names.Nodup
  /-- It holds in each entry. -/
  nodes : ∀ entry ∈ entries, entry.2.Distinct

/-- An empty table has no names. -/
lemma Entries.Distinct.nil : Entries.Distinct [] :=
  ⟨List.nodup_nil, by simp⟩

/-- A table that is finished keeps its names. -/
lemma names_finished (entries : Entries) : (finished entries).map Prod.fst = entries.names := by
  rw [finished_eq_map, List.map_map]
  rfl

/-- What may still grow is as distinct when it is finished. -/
lemma Node.Distinct.toValue {node : Node} (h : node.Distinct) : node.toValue.Distinct := by
  have hfinished {entries : Entries} (hnames : entries.names.Nodup)
      (hvalues : ∀ entry ∈ entries, entry.2.toValue.Distinct) :
      (Value.table (finished entries)).Distinct := by
    refine .table (names_finished entries ▸ hnames) ?_
    rw [finished_eq_map, List.forall_mem_map]
    exact hvalues
  induction h with
  | leaf h => exact h
  | table hnames _ ih => exact hfinished hnames ih
  | tables hearlier hnames _ ih =>
    refine .list ?_
    rw [List.forall_mem_append, List.forall_mem_singleton]
    exact ⟨hearlier, hfinished hnames ih⟩

/-- A table is distinct if its entries are. -/
lemma Entries.Distinct.node {origin : Origin} {entries : Entries} (h : entries.Distinct) :
    (Node.table origin entries).Distinct :=
  .table h.names h.nodes

/-- A list of tables is distinct if they are. -/
lemma Entries.Distinct.lastNode {earlier : List Value} {last : Entries} (h : last.Distinct)
    (hearlier : ∀ v ∈ earlier, v.Distinct) : (Node.tables earlier last).Distinct :=
  .tables hearlier h.names h.nodes

/-- The entries of a distinct table are distinct. -/
lemma Node.Distinct.entries {origin : Origin} {entries : Entries}
    (h : (Node.table origin entries).Distinct) : entries.Distinct := by
  cases h with
  | table hnames hnodes => exact ⟨hnames, hnodes⟩

/-- So are the tables of a list. -/
lemma Node.Distinct.earlier_last {earlier : List Value} {last : Entries}
    (h : (Node.tables earlier last).Distinct) : (∀ v ∈ earlier, v.Distinct) ∧ last.Distinct := by
  cases h with
  | tables hearlier hnames hnodes => exact ⟨hearlier, hnames, hnodes⟩

/-- A finished table is distinct. -/
lemma Entries.Distinct.finished {entries : Entries} (h : entries.Distinct) :
    (Value.table (finished entries)).Distinct := by
  have hnode : (Node.table .headed entries).Distinct := h.node
  exact hnode.toValue

/-! ## Changes to tables -/

namespace Entries

variable {name : String} {change : Option Node → Option Node} {entries entries' : Entries}

/-- **A change adds no name but a new one.** -/
theorem names_alter? (h : entries.alter? name change = some entries') :
    entries'.names = entries.names ∨
      name ∉ entries.names ∧ entries'.names = entries.names ++ [name] := by
  induction entries generalizing entries' with
  | nil =>
    obtain ⟨node, -, rfl⟩ := Option.map_eq_some_iff.mp h
    exact .inr ⟨List.not_mem_nil, rfl⟩
  | cons entry rest ih =>
    obtain ⟨key, node⟩ := entry
    unfold alter? at h
    split_ifs at h with hkey
    · obtain ⟨changed, -, rfl⟩ := Option.map_eq_some_iff.mp h
      exact .inl rfl
    · obtain ⟨others, hothers, rfl⟩ := Option.map_eq_some_iff.mp h
      rcases ih hothers with hsame | ⟨hnew, hadded⟩
      · exact .inl (congrArg (key :: ·) hsame)
      · exact .inr ⟨List.not_mem_cons_of_ne_of_not_mem (Ne.symm hkey) hnew,
          congrArg (key :: ·) hadded⟩

/-- A change that keeps an entry distinct keeps the table distinct. -/
lemma Distinct.alter? (h : entries.Distinct)
    (hchange : ∀ node? changed, (∀ node ∈ node?, node.Distinct) → change node? = some changed →
      changed.Distinct)
    (halter : entries.alter? name change = some entries') : entries'.Distinct where
  names := by
    rcases names_alter? halter with hsame | ⟨hnew, hadded⟩
    · rw [hsame]
      exact h.names
    · rw [hadded, ← List.concat_eq_append]
      exact List.Nodup.concat hnew h.names
  nodes := by
    have hnodes := h.nodes
    clear h
    induction entries generalizing entries' with
    | nil =>
      obtain ⟨changed, hchanged, rfl⟩ := Option.map_eq_some_iff.mp halter
      rw [List.forall_mem_singleton]
      exact hchange none changed (by simp) hchanged
    | cons entry rest ih =>
      obtain ⟨key, node⟩ := entry
      obtain ⟨hnode, hrest⟩ := List.forall_mem_cons.mp hnodes
      unfold Entries.alter? at halter
      split_ifs at halter with hkey
      · obtain ⟨changed, hchanged, rfl⟩ := Option.map_eq_some_iff.mp halter
        exact List.forall_mem_cons.mpr ⟨hchange (some node) changed (by simpa using hnode) hchanged,
          hrest⟩
      · obtain ⟨others, hothers, rfl⟩ := Option.map_eq_some_iff.mp halter
        exact List.forall_mem_cons.mpr ⟨hnode, ih hothers hrest⟩

/-- A change to a table of its own leaves a distinct entry. -/
lemma node_of_map {act : Entries → Option Entries} {origin : Origin} {inner : Entries}
    {changed : Node} (h : inner.Distinct)
    (hact : ∀ inner', inner.Distinct → act inner = some inner' → inner'.Distinct)
    (hchange : (act inner).map (.table origin) = some changed) : changed.Distinct := by
  obtain ⟨inner', hinner', rfl⟩ := Option.map_eq_some_iff.mp hchange
  exact (hact inner' h hinner').node

/-- So does a change to the last table of a list. -/
lemma node_of_map_last {act : Entries → Option Entries} {earlier : List Value} {last : Entries}
    {changed : Node} (h : (Node.tables earlier last).Distinct)
    (hact : ∀ last', last.Distinct → act last = some last' → last'.Distinct)
    (hchange : (act last).map (.tables earlier) = some changed) : changed.Distinct := by
  obtain ⟨hearlier, hlast⟩ := h.earlier_last
  obtain ⟨last', hlast', rfl⟩ := Option.map_eq_some_iff.mp hchange
  exact (hact last' hlast hlast').lastNode hearlier

/-- **A pair** keeps tables distinct. -/
theorem Distinct.insertPair? {v : Value} (hv : v.Distinct) : ∀ {key : List String}
    {entries entries' : Entries}, entries.Distinct → insertPair? v key entries = some entries' →
      entries'.Distinct
  | [], _, _, _, hset => by cases hset
  | [name], entries, entries', h, hset => by
    refine h.alter? (fun node? changed _ hchange => ?_) hset
    cases node? with
    | none => cases hchange; exact .leaf hv
    | some node => cases hchange
  | name :: next :: rest, entries, entries', h, hset => by
    refine h.alter? (fun node? changed hnode hchange => ?_) hset
    split at hchange
    · exact node_of_map .nil (fun _ => Distinct.insertPair? hv) hchange
    · exact node_of_map (hnode _ rfl).entries (fun _ => Distinct.insertPair? hv) hchange
    · split_ifs at hchange
      exact node_of_map (hnode _ rfl).entries (fun _ => Distinct.insertPair? hv) hchange
    · split_ifs at hchange
      exact node_of_map_last (hnode _ rfl) (fun _ => Distinct.insertPair? hv) hchange
    · cases hchange

/-- What is done below the path of a header keeps tables distinct if it does so there. -/
lemma Distinct.underPath? {act : String → Entries → Option Entries}
    (hact : ∀ {name entries entries'}, entries.Distinct → act name entries = some entries' →
      entries'.Distinct) : ∀ {path : List String} {entries entries' : Entries}, entries.Distinct →
      underPath? act path entries = some entries' → entries'.Distinct
  | [], _, _, _, hset => by cases hset
  | [name], _, _, h, hset => hact h hset
  | name :: next :: rest, entries, entries', h, hset => by
    refine h.alter? (fun node? changed hnode hchange => ?_) hset
    split at hchange
    · exact node_of_map .nil (fun _ => Distinct.underPath? hact) hchange
    · exact node_of_map (hnode _ rfl).entries (fun _ => Distinct.underPath? hact) hchange
    · exact node_of_map_last (hnode _ rfl) (fun _ => Distinct.underPath? hact) hchange
    · cases hchange

/-- **A header** keeps tables distinct. -/
theorem Distinct.openTable? {path : List String} (h : entries.Distinct)
    (hopen : openTable? path entries = some entries') : entries'.Distinct := by
  refine Distinct.underPath? (fun h hset => ?_) h hopen
  refine h.alter? (fun node? changed hnode hchange => ?_) hset
  split at hchange
  · cases hchange
    exact Distinct.nil.node
  · cases hchange
    exact (hnode _ rfl).entries.node
  · cases hchange

/-- **The header of a list** keeps tables distinct. -/
theorem Distinct.openItem? {path : List String} (h : entries.Distinct)
    (hopen : openItem? path entries = some entries') : entries'.Distinct := by
  refine Distinct.underPath? (fun h hset => ?_) h hopen
  refine h.alter? (fun node? changed hnode hchange => ?_) hset
  split at hchange
  · cases hchange
    exact Distinct.nil.lastNode (by simp)
  · cases hchange
    obtain ⟨hearlier, hlast⟩ := (hnode _ rfl).earlier_last
    refine Distinct.nil.lastNode ?_
    rw [List.forall_mem_append, List.forall_mem_singleton]
    exact ⟨hearlier, hlast.finished⟩
  · cases hchange

/-- **A pair under a header** keeps tables distinct. -/
theorem Distinct.insertUnder? {key : List String} {v : Value} (hv : v.Distinct) :
    ∀ {path : List String} {entries entries' : Entries}, entries.Distinct →
      insertUnder? key v path entries = some entries' → entries'.Distinct
  | [], _, _, h, hset => h.insertPair? hv hset
  | name :: rest, entries, entries', h, hset => by
    refine h.alter? (fun node? changed hnode hchange => ?_) hset
    split at hchange
    · exact node_of_map (hnode _ rfl).entries (fun _ => Distinct.insertUnder? hv) hchange
    · exact node_of_map_last (hnode _ rfl) (fun _ => Distinct.insertUnder? hv) hchange
    · cases hchange

end Entries

/-- Pairs one after another keep tables distinct. -/
lemma Entries.Distinct.foldlM_insertPair? {pairs : List (List String × Value)}
    (hpairs : ∀ pair ∈ pairs, pair.2.Distinct) {entries entries' : Entries} (h : entries.Distinct)
    (hset : pairs.foldlM (fun entries pair => Toml.insertPair? pair.2 pair.1 entries) entries =
      some entries') : entries'.Distinct := by
  induction pairs generalizing entries with
  | nil =>
    obtain rfl := Option.some.inj hset
    exact h
  | cons pair rest ih =>
    obtain ⟨hpair, hrest⟩ := List.forall_mem_cons.mp hpairs
    rw [List.foldlM_cons] at hset
    obtain ⟨next, hnext, hset⟩ := Option.bind_eq_some_iff.mp hset
    exact ih hrest (h.insertPair? hpair hnext) hset

/-- **An inline table is distinct** if the values of its pairs are. -/
theorem distinct_inlineTable? {pairs : List (List String × Value)} {v : Value}
    (hpairs : ∀ pair ∈ pairs, pair.2.Distinct) (htable : inlineTable? pairs = some v) :
    v.Distinct := by
  obtain ⟨entries, hentries, rfl⟩ := Option.map_eq_some_iff.mp htable
  exact (Entries.Distinct.nil.foldlM_insertPair? hpairs hentries).finished

/-! ## Values that are read -/

namespace Scalar

/-- A whole number is no table. -/
lemma distinct_ofInteger (n : Int) : (ofInteger n).Distinct := by
  unfold ofInteger
  split_ifs
  · exact .plain _
  · exact .tooLarge

/-- A number that was rounded is no table. -/
lemma distinct_ofReal (x? : Option Binary64) : (ofReal x?).Distinct := by
  cases x? with
  | none => exact .tooLarge
  | some x => exact .plain _

/-- A number with a point or an exponent is rounded. -/
lemma exists_of_decimal? {cs : List Char} {v : Value} (h : decimal? cs = some v) :
    ∃ x?, v = ofReal x? := by
  obtain ⟨digits, -, h⟩ := Option.bind_eq_some_iff.mp h
  dsimp only at h
  split at h <;>
  · obtain ⟨fraction, -, h⟩ := Option.bind_eq_some_iff.mp h
    split at h
    · split_ifs at h
      · cases h
      · exact ⟨_, (Option.some.inj h).symm⟩
    · obtain ⟨exponent, -, h⟩ := Option.bind_eq_some_iff.mp h
      exact ⟨_, (Option.some.inj h).symm⟩

/-- Nor is any other number. -/
lemma distinct_float? {cs : List Char} {v : Value} (h : float? cs = some v) : v.Distinct := by
  unfold float? at h
  dsimp only at h
  split_ifs at h
  · cases h
    exact .plain _
  · cases h
    exact .plain _
  · obtain ⟨x?, rfl⟩ := exists_of_decimal? h
    exact distinct_ofReal x?

/-- A plain word stands for no table. -/
lemma distinct_read? {cs : List Char} {v : Value} (h : read? cs = some v) : v.Distinct := by
  unfold read? at h
  split at h
  · cases h
    exact .plain _
  split at h
  · cases h
    exact .plain _
  split at h
  · cases h
    exact distinct_ofInteger _
  split at h
  · rename_i hfloat
    cases h
    exact distinct_float? hfloat
  split at h
  · cases h
    exact .plain _
  · cases h

end Scalar

namespace Reader

/-- What is read with some steps is distinct, if what was read before it is. -/
structure Distincts (fuel : Nat) : Prop where
  /-- Values. -/
  value : ∀ {depth : Nat} {cs after : List Char} {v : Value},
    value fuel depth cs = some (v, after) → v.Distinct
  /-- The items of lists. -/
  items : ∀ {depth : Nat} {before : List Value} {cs after : List Char} {v : Value},
    (∀ item ∈ before, item.Distinct) → items fuel depth before cs = some (v, after) → v.Distinct
  /-- The pairs of inline tables. -/
  pairs : ∀ {depth : Nat} {before : List (List String × Value)} {cs after : List Char} {v : Value},
    (∀ pair ∈ before, pair.2.Distinct) → pairs fuel depth before cs = some (v, after) →
      v.Distinct

/-- **No table that is read has a name twice.** -/
theorem distinct_of_reads : ∀ fuel : Nat, Distincts fuel
  | 0 => ⟨nofun, nofun, nofun⟩
  | fuel + 1 => by
    have ih := distinct_of_reads fuel
    constructor
    case value =>
      intro depth cs after v h
      unfold Reader.value at h
      split at h
      · cases h
      · split_ifs at h
        exact ih.items (by simp) h
      · split_ifs at h
        exact ih.pairs (by simp) h
      · split_ifs at h
        · obtain ⟨⟨body, after'⟩, -, hboth⟩ := Option.map_eq_some_iff.mp h
          cases hboth
          exact .plain _
        · obtain ⟨v', hv', hboth⟩ := Option.map_eq_some_iff.mp h
          cases hboth
          exact Scalar.distinct_read? hv'
    case items =>
      intro depth before cs after v hbefore h
      unfold Reader.items at h
      obtain ⟨start, -, h⟩ := Option.bind_eq_some_iff.mp h
      split at h
      · cases h
        exact .list hbefore
      · obtain ⟨⟨item, rest⟩, hitem, h⟩ := Option.bind_eq_some_iff.mp h
        obtain ⟨next, -, h⟩ := Option.bind_eq_some_iff.mp h
        have hread : ∀ v ∈ before ++ [item], v.Distinct := by
          rw [List.forall_mem_append, List.forall_mem_singleton]
          exact ⟨hbefore, ih.value hitem⟩
        split at h
        · exact ih.items hread h
        · cases h
          exact .list hread
        · cases h
    case pairs =>
      intro depth before cs after v hbefore h
      unfold Reader.pairs at h
      obtain ⟨start, -, h⟩ := Option.bind_eq_some_iff.mp h
      split at h
      · obtain ⟨table, htable, h⟩ := Option.bind_eq_some_iff.mp h
        cases h
        exact distinct_inlineTable? hbefore htable
      · obtain ⟨⟨name, afterName⟩, -, h⟩ := Option.bind_eq_some_iff.mp h
        obtain ⟨sign, -, h⟩ := Option.bind_eq_some_iff.mp h
        split at h
        · obtain ⟨afterSign, -, h⟩ := Option.bind_eq_some_iff.mp h
          obtain ⟨⟨item, rest⟩, hitem, h⟩ := Option.bind_eq_some_iff.mp h
          obtain ⟨next, -, h⟩ := Option.bind_eq_some_iff.mp h
          have hread : ∀ pair ∈ before ++ [(name, item)], pair.2.Distinct := by
            rw [List.forall_mem_append, List.forall_mem_singleton]
            exact ⟨hbefore, ih.value hitem⟩
          split at h
          · exact ih.pairs hread h
          · obtain ⟨table, htable, h⟩ := Option.bind_eq_some_iff.mp h
            cases h
            exact distinct_inlineTable? hread htable
          · cases h
        · cases h

/-! ## Lines -/

/-- The value of a pair is distinct. -/
lemma distinct_of_line {cs after : List Char} {name : List String} {v : Value}
    (h : line cs = some (.pair name v, after)) : v.Distinct := by
  unfold line at h
  split at h
  · obtain ⟨⟨path, rest⟩, -, h⟩ := Option.bind_eq_some_iff.mp h
    dsimp only at h
    split at h
    · obtain ⟨next, -, h⟩ := Option.bind_eq_some_iff.mp h
      cases h
    · cases h
  · obtain ⟨⟨path, rest⟩, -, h⟩ := Option.bind_eq_some_iff.mp h
    dsimp only at h
    split at h
    · obtain ⟨next, -, h⟩ := Option.bind_eq_some_iff.mp h
      cases h
    · cases h
  · obtain ⟨⟨key, rest⟩, -, h⟩ := Option.bind_eq_some_iff.mp h
    dsimp only at h
    split at h
    · obtain ⟨⟨item, rest⟩, hitem, h⟩ := Option.bind_eq_some_iff.mp h
      obtain ⟨next, -, h⟩ := Option.bind_eq_some_iff.mp h
      cases h
      exact (distinct_of_reads _).value hitem
    · cases h

/-- A line keeps what was filled so far distinct. -/
lemma distinct_add? {s s' : State} {read : Line} (h : s.entries.Distinct)
    (hread : ∀ name v, read = .pair name v → v.Distinct) (hadd : s.add? read = some s') :
    s'.entries.Distinct := by
  cases read with
  | pair name v =>
    obtain ⟨entries, hset, rfl⟩ := Option.map_eq_some_iff.mp hadd
    exact h.insertUnder? (hread name v rfl) hset
  | header path =>
    obtain ⟨entries, hopen, rfl⟩ := Option.map_eq_some_iff.mp hadd
    exact h.openTable? hopen
  | itemHeader path =>
    obtain ⟨entries, hopen, rfl⟩ := Option.map_eq_some_iff.mp hadd
    exact h.openItem? hopen

/-- **All lines** keep what was filled so far distinct. -/
theorem distinct_lines (fuel : Nat) {s s' : State} {cs : List Char} (h : s.entries.Distinct)
    (hlines : lines fuel s cs = some s') : s'.entries.Distinct := by
  induction fuel generalizing s cs with
  | zero => cases hlines
  | succ fuel ih =>
    obtain ⟨start, -, hlines⟩ := Option.bind_eq_some_iff.mp hlines
    split at hlines
    · cases hlines
      exact h
    · obtain ⟨⟨read, after⟩, hline, hlines⟩ := Option.bind_eq_some_iff.mp hlines
      obtain ⟨next, hadd, hlines⟩ := Option.bind_eq_some_iff.mp hlines
      refine ih (distinct_add? h (fun name v hpair => ?_) hadd) hlines
      exact distinct_of_line (hpair ▸ hline)

end Reader

/-- **No table of a document has a name twice.** -/
theorem distinct_parse? {document : String} {entries : List (String × Value)}
    (h : parse? document = some entries) : (Value.table entries).Distinct := by
  obtain ⟨s, hlines, rfl⟩ := Option.map_eq_some_iff.mp h
  exact (Reader.distinct_lines _ Entries.Distinct.nil hlines).finished

end CampusBoard.Toml
