import CampusBoard.Json.Records
import CampusBoard.Proofs.Decode.Records

/-!
# Records in values

Whatever text is read as a value can also be read as a record, or as a list of records: the wanted
members are those of the value. So to pass over a member loses nothing but the member itself.

## Design

To pass over a value takes as many steps as to read it, so the two are compared supply by supply.
The converse fails: what can be passed over need not be read, since no value is made of it.

## Main definitions

* `CampusBoard.Json.Reader.ReadsValue`: the ways in which a value is read.
* `CampusBoard.Json.Members.keep`, `CampusBoard.Json.keep`: the wanted members.

## Main results

* `CampusBoard.Json.Reader.skips`: what is read can be passed over.
* `CampusBoard.Json.Reader.record_of_value`, `CampusBoard.Json.Reader.records_of_value`: the wanted
  members of what is read are kept.
* `CampusBoard.Json.record?_of_parse?`, `CampusBoard.Json.records?_of_parse?`: the same of texts.
-/

set_option autoImplicit false

/-! ## Texts -/

namespace CampusBoard.Json.Reader

/-- A code unit that stands for a character together with another one is followed by one. -/
lemma exists_of_unitsToChar? {first : Nat} {second : Option Nat} {char : Char}
    (h : unitsToChar? first second = some (char, true)) : ∃ low, second = some low := by
  unfold unitsToChar? at h
  split_ifs at h with hhigh
  · split at h
    · exact ⟨_, rfl⟩
    · cases h
  · simp at h

/-- An escape with four digits is passed over. -/
lemma skipText_unit {a b c d : Char} {first : Nat} (h : hexQuad? a b c d = some first)
    (rest : List Char) : skipText ('\\' :: 'u' :: a :: b :: c :: d :: rest) = skipText rest := by
  rw [skipText, h]
  rfl

/-- A text that is read can be passed over. -/
theorem skipText_of_textBody {cs body after : List Char} (h : textBody cs = some (body, after)) :
    skipText cs = some after := by
  fun_induction textBody cs generalizing body after with
  | case1 => cases h
  | case2 rest =>
    obtain ⟨-, rfl⟩ := Prod.mk.inj (Option.some.inj h)
    rfl
  | case3 a b c d a' b' c' d' rest ihboth ihfirst =>
    obtain ⟨first, hfirst, h⟩ := Option.bind_eq_some_iff.mp h
    rw [skipText_unit hfirst]
    split at h
    · rename_i char hpair
      obtain ⟨second, hsecond⟩ := exists_of_unitsToChar? hpair
      obtain ⟨⟨others, rest'⟩, hothers, h⟩ := Option.bind_eq_some_iff.mp h
      cases h
      rw [skipText_unit hsecond]
      exact ihboth hothers
    · obtain ⟨⟨others, rest'⟩, hothers, h⟩ := Option.bind_eq_some_iff.mp h
      cases h
      exact ihfirst hothers
    · cases h
  | case4 a b c d rest _ ih =>
    obtain ⟨first, hfirst, h⟩ := Option.bind_eq_some_iff.mp h
    obtain ⟨⟨char, _⟩, -, h⟩ := Option.bind_eq_some_iff.mp h
    obtain ⟨⟨others, rest'⟩, hothers, h⟩ := Option.bind_eq_some_iff.mp h
    cases h
    rw [skipText_unit hfirst]
    exact ih hothers
  | case5 letter rest _ hnotUnit ih =>
    obtain ⟨char, hletter, h⟩ := Option.bind_eq_some_iff.mp h
    obtain ⟨⟨others, rest'⟩, hothers, h⟩ := Option.bind_eq_some_iff.mp h
    cases h
    rw [skipText, hletter]
    · exact ih hothers
    · exact hnotUnit
  | case6 => cases h
  | case7 char rest hquote _ _ _ _ hplain =>
    rename_i ih
    obtain ⟨⟨others, rest'⟩, hothers, h⟩ := Option.bind_eq_some_iff.mp h
    cases h
    have hslash : char ≠ '\\' := by
      rintro rfl
      simp at hplain
    rw [skipText, if_neg hplain]
    · exact ih hothers
    · exact hquote
    · exact fun _ _ _ _ _ heq => absurd heq hslash
    · exact fun _ _ heq => absurd heq hslash

/-! ## What is read at one step -/

/-- How a value is read that begins with these characters. -/
inductive ReadsValue (fuel depth : Nat) : List Char → Json → List Char → Prop
  /-- A null. -/
  | null (rest : List Char) : ReadsValue fuel depth ('n' :: 'u' :: 'l' :: 'l' :: rest) .null rest
  /-- A truth. -/
  | true (rest : List Char) :
    ReadsValue fuel depth ('t' :: 'r' :: 'u' :: 'e' :: rest) (.bool true) rest
  /-- A falsehood. -/
  | false (rest : List Char) :
    ReadsValue fuel depth ('f' :: 'a' :: 'l' :: 's' :: 'e' :: rest) (.bool false) rest
  /-- A text. -/
  | text {rest body after : List Char} (hbody : textBody rest = some (body, after)) :
    ReadsValue fuel depth ('"' :: rest) (.text (String.ofList body)) after
  /-- A list without items. -/
  | noItems {rest after : List Char} (hdepth : ¬depth ≤ 1)
    (hclosed : skipSpace rest = ']' :: after) :
    ReadsValue fuel depth ('[' :: rest) (.list []) after
  /-- A list with items. -/
  | items {rest after : List Char} {read : List Json} (hdepth : ¬depth ≤ 1)
    (hopen : ∀ rest', skipSpace rest ≠ ']' :: rest')
    (hread : Reader.items fuel (depth - 1) (skipSpace rest) = some (read, after)) :
    ReadsValue fuel depth ('[' :: rest) (.list read) after
  /-- An object without members. -/
  | noMembers {rest after : List Char} (hdepth : ¬depth ≤ 1)
    (hclosed : skipSpace rest = '\x7d' :: after) :
    ReadsValue fuel depth ('\x7b' :: rest) (.object []) after
  /-- An object with members. -/
  | members {rest after : List Char} {read : Members} (hdepth : ¬depth ≤ 1)
    (hopen : ∀ rest', skipSpace rest ≠ '\x7d' :: rest')
    (hread : Reader.members fuel (depth - 1) (skipSpace rest) = some (read, after)) :
    ReadsValue fuel depth ('\x7b' :: rest) (.object read) after
  /-- A number, which begins like nothing else. -/
  | number {token after : List Char} {n : Numeral} {v : Json}
    (hnull : ∀ rest, token ≠ 'n' :: 'u' :: 'l' :: 'l' :: rest)
    (htrue : ∀ rest, token ≠ 't' :: 'r' :: 'u' :: 'e' :: rest)
    (hfalse : ∀ rest, token ≠ 'f' :: 'a' :: 'l' :: 's' :: 'e' :: rest)
    (htext : ∀ rest, token ≠ '"' :: rest) (hlist : ∀ rest, token ≠ '[' :: rest)
    (hobject : ∀ rest, token ≠ '\x7b' :: rest) (hnumeral : numeral token = some (n, after))
    (hvalue : n.toJson? = some v) : ReadsValue fuel depth token v after

section Steps

variable {fuel depth : Nat} {cs after : List Char}

/-- A value is read in one of these ways. -/
theorem readsValue_of_value {v : Json} (h : value (fuel + 1) depth cs = some (v, after)) :
    ReadsValue fuel depth (skipSpace cs) v after := by
  rw [value] at h
  split at h
  case h_1 htoken =>
    cases h
    exact htoken ▸ .null _
  case h_2 htoken =>
    cases h
    exact htoken ▸ .true _
  case h_3 htoken =>
    cases h
    exact htoken ▸ .false _
  case h_4 htoken =>
    obtain ⟨⟨body, after'⟩, hbody, h⟩ := Option.map_eq_some_iff.mp h
    cases h
    exact htoken ▸ .text hbody
  case h_5 htoken =>
    split_ifs at h with hdepth
    split at h
    · rename_i hclosed
      cases h
      exact htoken ▸ .noItems hdepth hclosed
    · rename_i hopen
      obtain ⟨⟨read, after'⟩, hread, h⟩ := Option.map_eq_some_iff.mp h
      cases h
      exact htoken ▸ .items hdepth hopen hread
  case h_6 htoken =>
    split_ifs at h with hdepth
    split at h
    · rename_i hclosed
      cases h
      exact htoken ▸ .noMembers hdepth hclosed
    · rename_i hopen
      obtain ⟨⟨read, after'⟩, hread, h⟩ := Option.map_eq_some_iff.mp h
      cases h
      exact htoken ▸ .members hdepth hopen hread
  case h_7 hnull htrue hfalse htext hlist hobject =>
    obtain ⟨⟨n, after'⟩, hnumeral, h⟩ := Option.bind_eq_some_iff.mp h
    obtain ⟨v', hvalue, h⟩ := Option.bind_eq_some_iff.mp h
    cases h
    exact .number hnull htrue hfalse htext hlist hobject hnumeral hvalue

/-- Items are read one by one: after each comes a comma and others, or the bracket. -/
theorem exists_of_items {read : List Json}
    (h : items (fuel + 1) depth cs = some (read, after)) :
    ∃ item cs', value fuel depth cs = some (item, cs') ∧
      ((∃ rest others, skipSpace cs' = ',' :: rest ∧
          items fuel depth rest = some (others, after) ∧ read = item :: others) ∨
        skipSpace cs' = ']' :: after ∧ read = [item]) := by
  rw [items] at h
  obtain ⟨⟨item, cs'⟩, hitem, h⟩ := Option.bind_eq_some_iff.mp h
  refine ⟨item, cs', hitem, ?_⟩
  simp only at h
  split at h
  · rename_i rest hcomma
    obtain ⟨⟨others, after'⟩, hothers, h⟩ := Option.bind_eq_some_iff.mp h
    cases h
    exact .inl ⟨rest, others, hcomma, hothers, rfl⟩
  · rename_i hbracket
    cases h
    exact .inr ⟨hbracket, rfl⟩
  · cases h

/-- Members are read one by one: after each comes a comma and others, or the brace. -/
theorem exists_of_members {read : Members}
    (h : members (fuel + 1) depth cs = some (read, after)) :
    ∃ rest name cs' rest' item cs'', skipSpace cs = '"' :: rest ∧
      textBody rest = some (name, cs') ∧ skipSpace cs' = ':' :: rest' ∧
      value fuel depth rest' = some (item, cs'') ∧
      ((∃ rest'' others, skipSpace cs'' = ',' :: rest'' ∧
          members fuel depth rest'' = some (others, after) ∧
          read = (String.ofList name, item) :: others) ∨
        skipSpace cs'' = '\x7d' :: after ∧ read = [(String.ofList name, item)]) := by
  rw [members] at h
  split at h
  swap
  · cases h
  rename_i rest hquote
  obtain ⟨⟨name, cs'⟩, hname, h⟩ := Option.bind_eq_some_iff.mp h
  simp only at h
  split at h
  swap
  · cases h
  rename_i rest' hcolon
  obtain ⟨⟨item, cs''⟩, hitem, h⟩ := Option.bind_eq_some_iff.mp h
  refine ⟨rest, name, cs', rest', item, cs'', hquote, hname, hcolon, hitem, ?_⟩
  simp only at h
  split at h
  · rename_i rest'' hcomma
    obtain ⟨⟨others, after'⟩, hothers, h⟩ := Option.bind_eq_some_iff.mp h
    cases h
    exact .inl ⟨rest'', others, hcomma, hothers, rfl⟩
  · rename_i hbrace
    cases h
    exact .inr ⟨hbrace, rfl⟩
  · cases h

end Steps

/-! ## Passing over what is read -/

section Skips

variable {fuel : Nat}
  (hvalue : ∀ {depth cs v after}, value fuel depth cs = some (v, after) → skip fuel cs = some after)
  (hitems : ∀ {depth cs read after}, items fuel depth cs = some (read, after) →
    skipItems fuel cs = some after)
  (hmembers : ∀ {depth cs read after}, members fuel depth cs = some (read, after) →
    skipMembers fuel cs = some after)
  {depth : Nat} {cs after : List Char}

include hitems hmembers in
/-- A value can be passed over if items and members that are read with one step less can. -/
lemma skip_of_value {v : Json} (h : value (fuel + 1) depth cs = some (v, after)) :
    skip (fuel + 1) cs = some after := by
  have hreads := readsValue_of_value h
  rw [skip]
  generalize skipSpace cs = token at hreads ⊢
  cases hreads with
  | null | true | false => rfl
  | text hbody => exact skipText_of_textBody hbody
  | noItems _ hclosed => simp only [hclosed]
  | items _ hopen hread =>
    simp only
    exact hitems hread
  | noMembers _ hclosed => simp only [hclosed]
  | members _ hopen hread =>
    simp only
    exact hmembers hread
  | number hnull htrue hfalse htext hlist hobject hnumeral =>
    split
    case h_7 => rw [hnumeral, Option.map_some]
    all_goals simp_all

include hvalue hitems in
/-- Items can be passed over if values and items that are read with one step less can. -/
lemma skipItems_of_items {read : List Json}
    (h : items (fuel + 1) depth cs = some (read, after)) :
    skipItems (fuel + 1) cs = some after := by
  obtain ⟨item, cs', hitem, hnext⟩ := exists_of_items h
  rw [skipItems, hvalue hitem, Option.bind_eq_bind, Option.bind_some]
  rcases hnext with ⟨rest, others, hcomma, hothers, -⟩ | ⟨hbracket, -⟩
  · simp only [hcomma, hitems hothers]
  · simp only [hbracket, pure]

include hvalue hmembers in
/-- Members can be passed over if values and members that are read with one step less can. -/
lemma skipMembers_of_members {read : Members}
    (h : members (fuel + 1) depth cs = some (read, after)) :
    skipMembers (fuel + 1) cs = some after := by
  obtain ⟨rest, name, cs', rest', item, cs'', hquote, hname, hcolon, hitem, hnext⟩ :=
    exists_of_members h
  simp only [skipMembers, hquote, skipText_of_textBody hname, Option.bind_eq_bind, Option.bind_some,
    hcolon, hvalue hitem]
  rcases hnext with ⟨rest'', others, hcomma, hothers, -⟩ | ⟨hbrace, -⟩
  · simp only [hcomma, hmembers hothers]
  · simp only [hbrace, pure]

end Skips

/-- What is read can be passed over.

**Proof sketch.** Induction on the supply of steps, for values, items and members at once. -/
theorem skips (fuel : Nat) :
    (∀ {depth cs v after}, value fuel depth cs = some (v, after) → skip fuel cs = some after) ∧
      (∀ {depth cs read after}, items fuel depth cs = some (read, after) →
        skipItems fuel cs = some after) ∧
      ∀ {depth cs read after}, members fuel depth cs = some (read, after) →
        skipMembers fuel cs = some after := by
  induction fuel with
  | zero =>
    -- Without steps nothing is read.
    exact ⟨nofun, nofun, nofun⟩
  | succ fuel ih =>
    obtain ⟨hvalue, hitems, hmembers⟩ := ih
    exact ⟨skip_of_value hitems hmembers, skipItems_of_items hvalue hitems,
      skipMembers_of_members hvalue hmembers⟩

end CampusBoard.Json.Reader

/-! ## Keeping what is wanted -/

namespace CampusBoard.Json

/-- The wanted ones among some members. -/
def Members.keep (names : List String) (members : Members) : Members :=
  members.filter fun m => m.1 ∈ names

/-- The value with only the wanted members, if it is an object. -/
def keep (names : List String) : Json → Json
  | .object members => .object (Members.keep names members)
  | v => v

namespace Members

variable {names : List String}

/-- A wanted member is found among the wanted ones. -/
lemma lookup_keep {name : String} (h : name ∈ names) (members : Members) :
    (members.keep names).lookup name = members.lookup name := by
  induction members with
  | nil => rfl
  | cons first rest ih =>
    by_cases hfirst : first.1 ∈ names
    · rw [keep, List.filter_cons_of_pos (by simpa using hfirst)]
      simp only [lookup]
      split_ifs
      · rfl
      · exact ih
    · have hne : first.1 ≠ name := fun heq => hfirst (heq ▸ h)
      rw [keep, List.filter_cons_of_neg (by simpa using hfirst)]
      rw [lookup, if_neg hne]
      exact ih

/-- A member that is not wanted does not stand in the way of others. -/
lemma atMostOnce_keep (members : Members) :
    (members.keep names).AtMostOnce names ↔ members.AtMostOnce names := by
  simp only [AtMostOnce, keep, List.filter_map, List.filter_filter, Function.comp_def,
    Bool.and_self]

end Members

namespace Reader

variable (names : List String) {fuel depth : Nat} {cs after : List Char}

/-- A member that is read is kept if it is wanted. -/
lemma wantedMember_of_value {v : Json} (h : value fuel depth cs = some (v, after))
    (name : String) :
    wantedMember names name fuel depth cs = some (Members.keep names [(name, v)], after) := by
  by_cases hname : name ∈ names
  · simp [wantedMember, Members.keep, hname, h]
  · simp [wantedMember, Members.keep, hname, (skips fuel).1 h]

/-- **Of the members that are read the wanted ones are kept.** -/
theorem wantedMembers_of_members {read : Members}
    (h : members fuel depth cs = some (read, after)) :
    wantedMembers names fuel depth cs = some (read.keep names, after) := by
  induction fuel generalizing cs read after with
  | zero => cases h
  | succ fuel ih =>
    obtain ⟨rest, name, cs', rest', item, cs'', hquote, hname, hcolon, hitem, hnext⟩ :=
      exists_of_members h
    simp only [wantedMembers, hquote, hname, Option.bind_eq_bind, Option.bind_some, hcolon,
      wantedMember_of_value names hitem]
    rcases hnext with ⟨rest'', others, hcomma, hothers, rfl⟩ | ⟨hbrace, rfl⟩
    · simp only [hcomma, ih hothers, Option.bind_some]
      exact congrArg some (Prod.ext (List.filter_append [_] others).symm rfl)
    · simp only [hbrace, pure]

/-- A number is a whole number or a real one. -/
lemma Numeral.isNumber_of_toJson? {n : Numeral} {v : Json} (h : n.toJson? = some v) :
    (∃ m, v = .integer m) ∨ ∃ x, v = .real x := by
  have hreal {v : Json} (h : n.toReal? = some v) : ∃ x, v = .real x := by
    obtain ⟨x, -, rfl⟩ := Option.map_eq_some_iff.mp h
    exact ⟨x, rfl⟩
  unfold Numeral.toJson? at h
  simp only at h
  split_ifs at h
  · exact .inl ⟨_, (Option.some.inj h).symm⟩
  · exact .inr (hreal h)
  · exact .inl ⟨_, (Option.some.inj h).symm⟩
  · exact .inr (hreal h)
  · exact .inr (hreal h)

/-- **Of a value that is read the wanted members are kept.** -/
theorem record_of_value {v : Json} (h : value fuel depth cs = some (v, after)) :
    record names fuel depth cs = some (keep names v, after) := by
  cases fuel with
  | zero => cases h
  | succ fuel =>
    have hreads := readsValue_of_value h
    -- Only an object is not read as before.
    rw [record, h]
    generalize skipSpace cs = token at hreads ⊢
    cases hreads with
    | null | true | false => rfl
    | text => rfl
    | noItems => rfl
    | items => rfl
    | noMembers hdepth hclosed =>
      simp only [if_neg hdepth, hclosed]
      rfl
    | members hdepth hopen hread =>
      simp only [if_neg hdepth, wantedMembers_of_members names hread]
      rfl
    | number _ _ _ _ _ hobject _ hvalue =>
      split
      · exact absurd rfl (hobject _)
      · obtain ⟨m, rfl⟩ | ⟨x, rfl⟩ := Numeral.isNumber_of_toJson? hvalue <;> rfl

/-- Of the items of a list that are read the wanted members are kept. -/
lemma recordItems_of_items {read : List Json} (h : items fuel depth cs = some (read, after)) :
    recordItems names fuel depth cs = some (read.map (keep names), after) := by
  induction fuel generalizing cs read after with
  | zero => cases h
  | succ fuel ih =>
    obtain ⟨item, cs', hitem, hnext⟩ := exists_of_items h
    simp only [recordItems, record_of_value names hitem, Option.bind_eq_bind, Option.bind_some]
    rcases hnext with ⟨rest, others, hcomma, hothers, rfl⟩ | ⟨hbracket, rfl⟩
    · simp only [hcomma, ih hothers, Option.bind_some, pure, List.map_cons]
    · simp only [hbracket, pure, List.map_cons, List.map_nil]

/-- **Of a list that is read the wanted members of its items are kept.** -/
theorem records_of_value {read : List Json}
    (h : value fuel depth cs = some (.list read, after)) :
    records names fuel depth cs = some (read.map (keep names), after) := by
  cases fuel with
  | zero => cases h
  | succ fuel =>
    have hreads := readsValue_of_value h
    rw [records]
    generalize skipSpace cs = token at hreads ⊢
    cases hreads with
    | noItems hdepth hclosed => simp only [if_neg hdepth, hclosed, List.map_nil]
    | items hdepth hopen hread =>
      simp only [if_neg hdepth]
      exact recordItems_of_items names hread
    | number _ _ _ _ _ _ _ hvalue =>
      obtain ⟨m, hm⟩ | ⟨x, hx⟩ := Numeral.isNumber_of_toJson? hvalue
      · cases hm
      · cases hx

end Reader

/-- What a reader finds of a value. -/
lemma exists_of_parse? {s : String} {v : Json} (h : parse? s = some v) :
    ∃ rest, Reader.value (2 * s.toList.length + 2) Reader.depthLimit s.toList = some (v, rest) ∧
      (Reader.skipSpace rest).isEmpty = true := by
  simp only [parse?] at h
  split at h
  · rename_i found rest hfound
    split_ifs at h with hrest
    obtain rfl := Option.some.inj h
    exact ⟨rest, hfound, hrest⟩
  · cases h

/-- **A text of a value is one of a record**, with the wanted members kept. -/
theorem record?_of_parse? (names : List String) {s : String} {v : Json} (h : parse? s = some v) :
    record? names s = some (v.keep names) := by
  obtain ⟨rest, hvalue, hrest⟩ := exists_of_parse? h
  simp only [record?, Reader.whole, Reader.record_of_value names hvalue, if_pos hrest]

/-- **A text of a list is one of records**, with the wanted members of its items kept. -/
theorem records?_of_parse? (names : List String) {s : String} {items : List Json}
    (h : parse? s = some (.list items)) : records? names s = some (items.map (keep names)) := by
  obtain ⟨rest, hvalue, hrest⟩ := exists_of_parse? h
  simp only [records?, Reader.whole, Reader.records_of_value names hvalue, if_pos hrest]

end CampusBoard.Json
