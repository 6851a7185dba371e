import CampusBoard.Proofs.Text.Cuts
import CampusBoard.Proofs.Text.Numerals
import CampusBoard.Search.Filter
import Mathlib.Data.List.Basic
import Mathlib.Data.List.Nodup
import Mathlib.Tactic.Common
import Mathlib.Tactic.Lemma

/-!
# A filter control changes one dimension

A filter control gives the name of an attribute and a text. The text is accepted if it stands for no
constraint or names a value of the attribute. Then the expression of that attribute appears, changes
or goes, and nothing else is changed.

## Design

Reading, changing and writing filters go through the dimensions one by one. What a text means to a
dimension is said without the readers: the texts for no constraint are listed, and a value is named
by its label or, if it is a rating, by any numeral of its number. The expressions of filters are
taken apart at the place where a dimension is declared, so what a change leaves alone is said by the
lists before and after that place.

## Main definitions

* `CampusBoard.Dimension.markers`, `CampusBoard.Dimension.IsSpelled`: the texts for no constraint,
  and those that name a value.
* `CampusBoard.Filters.expressionsOf`: the expressions of some dimensions.
* `CampusBoard.Filters.ReplacedAt`: filters that differ in one dimension only.

## Main results

* `CampusBoard.StarRating.parse_eq_ok_iff`: the texts that are read as a rating.
* `CampusBoard.Dimension.parseValue_eq_ok_iff`: the texts that a dimension reads.
* `CampusBoard.FilterUpdate.replacedAt_apply`: what a change does to the expressions.
* `CampusBoard.FilterUpdate.updates_change_one_dimension`: all of it together.
-/

set_option autoImplicit false

namespace CampusBoard

/-! ## Texts of values -/

/-- What is read as some value is what is read as that value. -/
lemma map_some_eq_ok_iff {ε α : Type} {x : Except ε α} {a : α} :
    x.map some = .ok (some a) ↔ x = .ok a := by
  cases x <;> simp [Except.map]

/-- Nothing is read as no value in this way. -/
lemma map_some_ne_ok_none {ε α : Type} (x : Except ε α) : x.map some ≠ .ok none := by
  cases x <;> simp [Except.map]

namespace Labelled

variable {α : Type} [Labelled α] {text : String} {a : α}

/-- Only the label of a member is read as the member. -/
lemma parse_eq_ok_iff : parse text = .ok a ↔ text = label a := by
  constructor
  · intro h
    unfold parse at h
    split at h
    · rename_i b hb
      obtain rfl := Except.ok.inj h
      exact (label_of_ofLabel? hb).symm
    · cases h
  · rintro rfl
    exact parse_label a

/-- In a vocabulary without an empty label, the empty text stands for no constraint and each label
for its member. -/
lemma parseFilter_eq_ok_iff (h : ∀ a : α, label a ≠ "") (text : String) :
    (parseFilter (α := α) text = .ok none ↔ text ∈ [""]) ∧
      ∀ a : α, parseFilter text = .ok (some a) ↔ text = label a := by
  rw [List.mem_singleton]
  unfold parseFilter
  split_ifs with hempty
  · refine ⟨iff_of_true rfl hempty, fun a => iff_of_false (fun heq => by cases heq) ?_⟩
    rintro rfl
    exact h a hempty
  · refine ⟨iff_of_false (map_some_ne_ok_none _) hempty, fun a => ?_⟩
    rw [map_some_eq_ok_iff, parse_eq_ok_iff]

end Labelled

namespace StarRating

variable {text : String} {r : StarRating}

/-- A rating is stored as its own number only. -/
lemma ofHundreds_eq_ok_iff {n : Nat} : ofHundreds n = .ok r ↔ n = r.hundreds.toNat := by
  constructor
  · intro h
    unfold ofHundreds at h
    split at h
    · rename_i s hs
      obtain rfl := Except.ok.inj h
      have hfound := List.find?_some hs
      exact (beq_iff_eq.mp hfound).symm
    · cases h
  · rintro rfl
    exact ofHundreds_hundreds r

/-- **Which texts are read as a rating**: its number, with any number of zeros in front and perhaps
a plus sign before them. -/
theorem parse_eq_ok_iff :
    parse text = .ok r ↔
      ∃ width, text.toList = Text.padded width r.hundreds.toNat ∨
        text.toList = '+' :: Text.padded width r.hundreds.toNat := by
  constructor
  · intro h
    unfold parse at h
    split at h
    · rename_i n hn
      obtain rfl := ofHundreds_eq_ok_iff.mp h
      exact (Text.unsigned?_eq_some_iff.mp hn).2
    · cases h
  · intro h
    rw [parse, Text.unsigned?_eq_some_iff.mpr ⟨r.hundreds.toNat_lt, h⟩]
    exact ofHundreds_hundreds r

/-- The empty text and a zero stand for no constraint. -/
lemma parseFilter_eq_ok_none_iff : parseFilter text = .ok none ↔ text = "" ∨ text = "0" := by
  unfold parseFilter
  split_ifs with hmarker
  · exact iff_of_true rfl hmarker
  · exact iff_of_false (map_some_ne_ok_none _) hmarker

/-- What is read as a rating stands for it. -/
lemma parseFilter_eq_ok_some_iff : parseFilter text = .ok (some r) ↔ parse text = .ok r := by
  unfold parseFilter
  split_ifs with hmarker
  · refine iff_of_false (fun h => by cases h) ?_
    rcases hmarker with rfl | rfl <;> cases r <;> decide
  · exact map_some_eq_ok_iff

end StarRating

namespace Dimension

variable {d : Domain}

/-- The texts that stand for no constraint. -/
def markers : Dimension d → List String
  | .overallRating => ["", "0"]
  | _ => [""]

/-- The texts that name a value: the numerals of a rating, and the label of any other value. -/
def IsSpelled : (dim : Dimension d) → dim.Value → String → Prop
  | .overallRating, r, text =>
    ∃ width, text.toList = Text.padded width (StarRating.hundreds r).toNat ∨
      text.toList = '+' :: Text.padded width (StarRating.hundreds r).toNat
  | dim, value, text => text = dim.valueText value

/-- **What a text says about a dimension**: no constraint, or a value.

**Proof sketch.** By cases on the dimension. Six are read by the label of a vocabulary, in which no
label is empty. A rating is read by its number, and neither the empty text nor a zero is one. -/
theorem parseValue_eq_ok_iff (dim : Dimension d) (text : String) :
    (dim.parseValue text = .ok none ↔ text ∈ dim.markers) ∧
      ∀ value, dim.parseValue text = .ok (some value) ↔ dim.IsSpelled value text := by
  cases dim with
  | overallRating =>
    refine ⟨StarRating.parseFilter_eq_ok_none_iff.trans (by simp [markers]), fun value => ?_⟩
    exact StarRating.parseFilter_eq_ok_some_iff.trans StarRating.parse_eq_ok_iff
  | itemType =>
    exact Labelled.parseFilter_eq_ok_iff (fun a : ItemType => by cases a <;> decide) text
  | location =>
    exact Labelled.parseFilter_eq_ok_iff (fun a : PickupLocation => by cases a <;> decide) text
  | condition =>
    exact Labelled.parseFilter_eq_ok_iff (fun a : Condition => by cases a <;> decide) text
  | housingType =>
    exact Labelled.parseFilter_eq_ok_iff (fun a : HousingType => by cases a <;> decide) text
  | campusType =>
    exact Labelled.parseFilter_eq_ok_iff (fun a : CampusType => by cases a <;> decide) text
  | costSymbol =>
    exact Labelled.parseFilter_eq_ok_iff (fun a : CostSymbol => by cases a <;> decide) text

/-- The text of a value names it. -/
lemma isSpelled_valueText (dim : Dimension d) (value : dim.Value) :
    dim.IsSpelled value (dim.valueText value) := by
  cases dim with
  | overallRating =>
    refine ⟨0, .inl ?_⟩
    rw [Text.padded_zero]
    exact Nat.toList_repr
  | _ => rfl

/-! ## Names of attributes -/

/-- A dimension is found by its attribute. -/
lemma ofAttribute?_attributeName (dim : Dimension d) :
    ofAttribute? d dim.attributeName = some dim := by
  cases dim <;> decide

/-- Only the attribute of a dimension is its name. -/
lemma ofAttribute?_eq_some_iff {name : String} {dim : Dimension d} :
    ofAttribute? d name = some dim ↔ dim.attributeName = name := by
  constructor
  · intro h
    have hfound := List.find?_some h
    exact beq_iff_eq.mp hfound
  · rintro rfl
    exact dim.ofAttribute?_attributeName

/-- Different dimensions have different attributes. -/
lemma eq_of_attributeName_eq {dim other : Dimension d}
    (h : dim.attributeName = other.attributeName) : dim = other :=
  Option.some.inj ((ofAttribute?_eq_some_iff.mpr h).symm.trans other.ofAttribute?_attributeName)

/-- There is no blank in the name of an attribute. -/
lemma blank_notMem_attributeName (dim : Dimension d) : ' ' ∉ dim.attributeName.toList := by
  cases dim <;> decide

/-- No dimension is declared twice. -/
lemma nodup_all (d : Domain) : (all d).Nodup := by
  cases d <;> decide

/-- The place where a dimension is declared. -/
lemma exists_all_eq (dim : Dimension d) :
    ∃ before after, all d = before ++ dim :: after ∧ dim ∉ before ∧ dim ∉ after := by
  obtain ⟨before, after, hall⟩ := List.append_of_mem dim.mem_all
  have hnodup := nodup_all d
  rw [hall, List.nodup_middle, List.nodup_cons, List.mem_append, not_or] at hnodup
  exact ⟨before, after, hall, hnodup.1⟩

end Dimension

/-! ## Expressions -/

namespace Filters

variable {d : Domain}

/-- The expressions of some dimensions, in their order. -/
def expressionsOf (dims : List (Dimension d)) (f : Filters d) : List String :=
  dims.filterMap fun dim => (f.chosen dim).map (expression dim)

/-- Whether an expression binds the attribute `name`. -/
def binds (name : String) (e : String) : Bool :=
  (name ++ " = ").toList.isPrefixOf e.toList

/-- The filters `g` are the filters `f` but for the dimension `dim`, of which `g` has the
expressions `own`. -/
structure ReplacedAt (dim : Dimension d) (own : List String) (f g : Filters d) : Prop where
  /-- The other dimensions are bound as before. -/
  others : ∀ other ≠ dim, g.chosen other = f.chosen other
  /-- The expressions before and after the place where the dimension is declared stay. -/
  place : ∃ before after, Dimension.all d = before ++ dim :: after ∧
    f.expressions = f.expressionsOf before ++ f.expressionsOf [dim] ++ f.expressionsOf after ∧
    g.expressions = f.expressionsOf before ++ own ++ f.expressionsOf after
  /-- The attribute is bound as often as there are expressions of its own. -/
  count : g.expressions.countP (binds dim.attributeName) = own.length

variable {f : Filters d} {dim other : Dimension d}

/-- An expression binds the attribute of its dimension, and no other. -/
lemma binds_expression_iff {value : dim.Value} :
    binds other.attributeName (expression dim value) = true ↔ dim = other := by
  have hchars : (expression dim value).toList =
      dim.attributeName.toList ++ ' ' :: ('=' :: ' ' :: (dim.valueText value).toList) := by
    simp [expression]
  have hname : (other.attributeName ++ " = ").toList =
      other.attributeName.toList ++ [' ', '=', ' '] := by
    simp
  rw [binds, List.isPrefixOf_iff_prefix, hchars, hname]
  constructor
  · rintro ⟨rest, hrest⟩
    rw [List.append_assoc] at hrest
    have hcut := congrArg (Text.cut ' ') hrest
    simp only [List.cons_append, Text.cut_append other.blank_notMem_attributeName,
      Text.cut_append dim.blank_notMem_attributeName, Prod.mk.injEq, String.toList_inj] at hcut
    exact Dimension.eq_of_attributeName_eq hcut.1.symm
  · rintro rfl
    exact ⟨(dim.valueText value).toList, by simp⟩

/-- Dimensions other than `dim` have no expression that binds its attribute. -/
lemma countP_binds_of_notMem {dims : List (Dimension d)} (h : dim ∉ dims) :
    (f.expressionsOf dims).countP (binds dim.attributeName) = 0 := by
  rw [List.countP_eq_zero]
  intro e he hbinds
  obtain ⟨other, hother, hchosen⟩ := List.mem_filterMap.mp he
  obtain ⟨value, -, rfl⟩ := Option.map_eq_some_iff.mp hchosen
  obtain rfl := binds_expression_iff.mp hbinds
  exact h hother

/-- The expressions of some dimensions depend on what these are bound to. -/
lemma expressionsOf_congr {g : Filters d} {dims : List (Dimension d)}
    (h : ∀ other ∈ dims, g.chosen other = f.chosen other) :
    g.expressionsOf dims = f.expressionsOf dims :=
  List.filterMap_congr fun other hother => by rw [h other hother]

/-- The expressions of a dimension and those around it. -/
lemma expressions_eq_append {before after : List (Dimension d)}
    (h : Dimension.all d = before ++ dim :: after) :
    f.expressions =
      f.expressionsOf before ++ f.expressionsOf [dim] ++ f.expressionsOf after := by
  change (Dimension.all d).filterMap _ = _
  rw [h, ← List.singleton_append, ← List.append_assoc, List.filterMap_append,
    List.filterMap_append]
  rfl

end Filters

/-! ## Changes -/

namespace FilterUpdate

variable {d : Domain} {u w : FilterUpdate d} {field text : String}

/-- **Which texts are read as a change**: the attribute of the dimension, with what it says. -/
theorem parse_eq_ok_iff :
    parse d field text = .ok u ↔
      u.dimension.attributeName = field ∧ u.dimension.parseValue text = .ok u.value := by
  constructor
  · intro h
    unfold parse at h
    split at h
    · rename_i dim hdim
      cases hvalue : dim.parseValue text with
      | error e =>
        rw [hvalue] at h
        cases h
      | ok value =>
        rw [hvalue] at h
        obtain rfl := Except.ok.inj h
        exact ⟨Dimension.ofAttribute?_eq_some_iff.mp hdim, hvalue⟩
    · cases h
  · rintro ⟨rfl, hvalue⟩
    rw [parse, u.dimension.ofAttribute?_attributeName]
    change (u.dimension.parseValue text).map _ = _
    rw [hvalue]
    rfl

/-- An attribute that the kind does not have is refused, whatever the text. -/
lemma parse_of_forall_ne (h : ∀ dim : Dimension d, dim.attributeName ≠ field) :
    parse d field text = .error (.unknownValue d.filterKind field) := by
  have hnone : Dimension.ofAttribute? d field = none :=
    Option.eq_none_iff_forall_ne_some.mpr fun dim hdim =>
      h dim (Dimension.ofAttribute?_eq_some_iff.mp hdim)
  rw [parse, hnone]

/-- The dimension of a change is bound to its value. -/
lemma chosen_apply_same (u : FilterUpdate d) (f : Filters d) :
    (u.apply f).chosen u.dimension = u.value :=
  Filters.chosen_set_same _ _ _

/-- Other dimensions are bound as before. -/
lemma chosen_apply_other {other : Dimension d} (h : other ≠ u.dimension) (f : Filters d) :
    (u.apply f).chosen other = f.chosen other :=
  Filters.chosen_set_other h _ _

/-- Changes of different dimensions can be made in either order. -/
lemma apply_comm (h : u.dimension ≠ w.dimension) (f : Filters d) :
    u.apply (w.apply f) = w.apply (u.apply f) := by
  ext dim : 2
  rcases eq_or_ne dim u.dimension with rfl | hu
  · rw [chosen_apply_same, chosen_apply_other h, chosen_apply_same]
  · rcases eq_or_ne dim w.dimension with rfl | hw
    · rw [chosen_apply_other hu, chosen_apply_same, chosen_apply_same]
    · rw [chosen_apply_other hu, chosen_apply_other hw, chosen_apply_other hw,
        chosen_apply_other hu]

/-- Of two changes of one dimension the later one counts. -/
lemma apply_apply_of_eq (h : w.dimension = u.dimension) (f : Filters d) :
    u.apply (w.apply f) = u.apply f := by
  ext dim : 2
  rcases eq_or_ne dim u.dimension with rfl | hu
  · rw [chosen_apply_same, chosen_apply_same]
  · have hw : dim ≠ w.dimension := h ▸ hu
    rw [chosen_apply_other hu, chosen_apply_other hw, chosen_apply_other hu]

/-- The expressions that a change leaves for its own dimension: one if it binds, none if it
frees. -/
def own (u : FilterUpdate d) : List String :=
  (u.value.map (Filters.expression u.dimension)).toList

/-- They bind the attribute of the dimension. -/
lemma countP_binds_own (u : FilterUpdate d) :
    u.own.countP (Filters.binds u.dimension.attributeName) = u.own.length := by
  rw [List.countP_eq_length]
  intro e he
  obtain ⟨value, -, rfl⟩ := Option.map_eq_some_iff.mp (Option.mem_toList.mp he)
  exact Filters.binds_expression_iff.mpr rfl

/-- They are what the dimension has after the change. -/
lemma expressionsOf_apply_own (u : FilterUpdate d) (f : Filters d) :
    (u.apply f).expressionsOf [u.dimension] = u.own := by
  rw [Filters.expressionsOf, List.filterMap_cons, List.filterMap_nil, chosen_apply_same, own]
  cases u.value <;> rfl

/-- **What a change does to the expressions**: its own take the place of those that its dimension
had. -/
theorem replacedAt_apply (u : FilterUpdate d) (f : Filters d) :
    Filters.ReplacedAt u.dimension u.own f (u.apply f) := by
  have hothers : ∀ other ≠ u.dimension, (u.apply f).chosen other = f.chosen other :=
    fun other hother => chosen_apply_other hother f
  obtain ⟨before, after, hall, hbefore, hafter⟩ := u.dimension.exists_all_eq
  have hfront : (u.apply f).expressionsOf before = f.expressionsOf before :=
    Filters.expressionsOf_congr fun other hother =>
      hothers other (ne_of_mem_of_not_mem hother hbefore)
  have hback : (u.apply f).expressionsOf after = f.expressionsOf after :=
    Filters.expressionsOf_congr fun other hother =>
      hothers other (ne_of_mem_of_not_mem hother hafter)
  have hplace : (u.apply f).expressions =
      f.expressionsOf before ++ u.own ++ f.expressionsOf after := by
    rw [Filters.expressions_eq_append hall, hfront, hback, expressionsOf_apply_own]
  refine ⟨hothers, ⟨before, after, hall, Filters.expressions_eq_append hall, hplace⟩, ?_⟩
  rw [hplace, List.countP_append, List.countP_append, Filters.countP_binds_of_notMem hbefore,
    Filters.countP_binds_of_notMem hafter, countP_binds_own, Nat.zero_add, Nat.add_zero]

/-- **A filter control changes one dimension.** A field that names no dimension of the kind is
refused with every text. The field of a dimension is accepted if and only if the text stands for no
constraint or names a value. The change that is then read alters the filters, whatever they are, in
that dimension only: the expressions before and after its place stay as they are, and at its place
there is none if the text stands for no constraint. Otherwise there is the one of the value that the
text names, and the value in this expression, read with the same field, is the same change. Changes
of different dimensions can be made in either order, and of two changes of one dimension the later
one counts.

**Proof sketch.** By cases on the dimension, its reader accepts the texts said to name its values
(`Dimension.parseValue_eq_ok_iff`). The dimensions before and after one in the order of declaration
are others, so a change does not touch their expressions (`replacedAt_apply`); these bind other
attributes, since the name of an attribute ends at the first blank. -/
theorem updates_change_one_dimension (d : Domain) :
    (∀ field text, (∀ dim : Dimension d, dim.attributeName ≠ field) →
      parse d field text = .error (.unknownValue d.filterKind field)) ∧
    (∀ (dim : Dimension d) (text : String),
      (∃ u, parse d dim.attributeName text = .ok u) ↔
        text ∈ dim.markers ∨ ∃ value, dim.IsSpelled value text) ∧
    (∀ field text (u : FilterUpdate d), parse d field text = .ok u →
      u.dimension.attributeName = field ∧
      (text ∈ u.dimension.markers → ∀ f, Filters.ReplacedAt u.dimension [] f (u.apply f)) ∧
      (text ∉ u.dimension.markers → ∃ value, u.dimension.IsSpelled value text ∧
        parse d field (u.dimension.valueText value) = .ok u ∧
        ∀ f, Filters.ReplacedAt u.dimension [field ++ " = " ++ u.dimension.valueText value] f
          (u.apply f))) ∧
    (∀ (u w : FilterUpdate d) (f : Filters d), u.dimension ≠ w.dimension →
      u.apply (w.apply f) = w.apply (u.apply f)) ∧
    ∀ (u w : FilterUpdate d) (f : Filters d), w.dimension = u.dimension →
      u.apply (w.apply f) = u.apply f := by
  refine ⟨fun field text h => parse_of_forall_ne h, ?_, ?_, fun u w f h => apply_comm h f,
    fun u w f h => apply_apply_of_eq h f⟩
  · intro dim text
    obtain ⟨hnone, hsome⟩ := dim.parseValue_eq_ok_iff text
    constructor
    · rintro ⟨⟨other, choice⟩, hu⟩
      obtain ⟨hname, hchoice⟩ := parse_eq_ok_iff.mp hu
      obtain rfl := Dimension.eq_of_attributeName_eq hname
      cases choice with
      | none => exact .inl (hnone.mp hchoice)
      | some value => exact .inr ⟨value, (hsome value).mp hchoice⟩
    · rintro (hmarker | ⟨value, hspelled⟩)
      · exact ⟨⟨dim, none⟩, parse_eq_ok_iff.mpr ⟨rfl, hnone.mpr hmarker⟩⟩
      · exact ⟨⟨dim, some value⟩, parse_eq_ok_iff.mpr ⟨rfl, (hsome value).mpr hspelled⟩⟩
  · rintro field text ⟨dim, choice⟩ hu
    obtain ⟨rfl, hchoice⟩ := parse_eq_ok_iff.mp hu
    obtain ⟨hnone, hsome⟩ := dim.parseValue_eq_ok_iff text
    refine ⟨rfl, ?_, ?_⟩
    · intro hmarker f
      have hfree := (hnone.mpr hmarker).symm.trans hchoice
      obtain rfl := Except.ok.inj hfree
      exact replacedAt_apply ⟨dim, none⟩ f
    · intro hmarker
      cases choice with
      | none => exact absurd (hnone.mp hchoice) hmarker
      | some value =>
        have hown : dim.parseValue (dim.valueText value) = .ok (some value) :=
          ((dim.parseValue_eq_ok_iff _).2 value).mpr (dim.isSpelled_valueText value)
        exact ⟨value, (hsome value).mp hchoice, parse_eq_ok_iff.mpr ⟨rfl, hown⟩,
          replacedAt_apply ⟨dim, some value⟩⟩

/-- Four stars. -/
def fourStars : FilterUpdate .reviews :=
  ⟨.overallRating, some (.four : StarRating)⟩

/-- Any rating. -/
def anyStars : FilterUpdate .reviews :=
  ⟨.overallRating, none⟩

/-- Books, of all items. -/
def books : FilterUpdate .items :=
  ⟨.itemType, some (.books : ItemType)⟩

/-- Items in fair condition. -/
def fairCondition : FilterUpdate .items :=
  ⟨.condition, some (.fair : Condition)⟩

/-- Four stars, written with a plus sign and a zero, are the change that is written plainly in its
expression; a zero frees the rating again; reviews cannot be filtered by what an item is. Books in
fair condition can be asked for in either order. -/
theorem updates_change_one_dimension_fourStars :
    (parse .reviews "overall_rating" "+0400" = .ok fourStars ∧
      "+0400" ∉ fourStars.dimension.markers ∧ ∃ value, fourStars.dimension.IsSpelled value "+0400" ∧
        parse .reviews "overall_rating" (fourStars.dimension.valueText value) = .ok fourStars ∧
        ∀ f, Filters.ReplacedAt fourStars.dimension
          ["overall_rating" ++ " = " ++ fourStars.dimension.valueText value] f
          (fourStars.apply f)) ∧
    (parse .reviews "overall_rating" "0" = .ok anyStars ∧ "0" ∈ anyStars.dimension.markers ∧
      ∀ f, Filters.ReplacedAt anyStars.dimension [] f (anyStars.apply f)) ∧
    (∀ f, anyStars.apply (fourStars.apply f) = anyStars.apply f) ∧
    ((∀ dim : Dimension .reviews, dim.attributeName ≠ "item_type") ∧
      parse .reviews "item_type" "Books" = .error (.unknownValue "review filter" "item_type")) ∧
    (books.dimension ≠ fairCondition.dimension ∧
      ∀ f, books.apply (fairCondition.apply f) = fairCondition.apply (books.apply f)) := by
  obtain ⟨hrefused, -, hchange, -, hlater⟩ := updates_change_one_dimension .reviews
  obtain ⟨-, -, -, hcomm, -⟩ := updates_change_one_dimension .items
  have hfour : parse .reviews "overall_rating" "+0400" = .ok fourStars :=
    parse_eq_ok_iff.mpr ⟨rfl, by rfl⟩
  have hzero : parse .reviews "overall_rating" "0" = .ok anyStars :=
    parse_eq_ok_iff.mpr ⟨rfl, by rfl⟩
  have hnumeral : "+0400" ∉ fourStars.dimension.markers := by decide
  have hmarker : "0" ∈ anyStars.dimension.markers := by decide
  have hforeign : ∀ dim : Dimension .reviews, dim.attributeName ≠ "item_type" := by
    intro dim
    cases dim
    decide
  have hother : books.dimension ≠ fairCondition.dimension := by decide
  exact ⟨⟨hfour, hnumeral, (hchange _ _ _ hfour).2.2 hnumeral⟩,
    ⟨hzero, hmarker, (hchange _ _ _ hzero).2.1 hmarker⟩,
    fun f => hlater anyStars fourStars f rfl,
    ⟨hforeign, hrefused "item_type" "Books" hforeign⟩,
    hother, fun f => hcomm books fairCondition f hother⟩

end FilterUpdate

end CampusBoard
