import CampusBoard.Proofs.Decode.Overlays
import CampusBoard.Proofs.Json.Records
import CampusBoard.Traffic.Bar

/-!
# Which values are bars

A bar of the traffic chart is an object or a list of three values: the text of a site, a number of
visitors and the text of a colour. Everything else is refused.

## Main definitions

* `CampusBoard.Website.word`: the text of a site.
* `CampusBoard.Website.IsNamed`: the values that stand for a site.
* `CampusBoard.TrafficBar.IsWritten`: the values that stand for a bar.

## Main results

* `CampusBoard.Decode.label_eq_ok_iff`: which values are read as a member of a vocabulary.
* `CampusBoard.Decode.Shape.take_required_eq_ok_iff`: one more item of a list that is read as a
  record.
* `CampusBoard.TrafficBar.read_eq_ok_iff`: a bar is read from just the values that stand for it.
-/

set_option autoImplicit false

namespace CampusBoard

/-! ## Labels and lists -/

namespace Decode

/-- A label is looked up in its vocabulary. -/
lemma labelled_eq_ok_iff {α : Type} [Labelled α] {s : String} {a : α} :
    labelled α s = .ok a ↔ Labelled.label a = s := by
  rw [← Labelled.ofLabel?_eq_some_iff, labelled]
  cases Labelled.ofLabel? (α := α) s <;> simp

/-- **A member of a vocabulary is read from its label**, alone or as the name of the only member,
null, of an object. -/
theorem label_eq_ok_iff {α : Type} [Labelled α] {v : Json} {a : α} :
    label v = .ok a ↔
      v = .text (Labelled.label a) ∨ v = .object [(Labelled.label a, .null)] := by
  have hname {name : String} : labelled α name = .ok a ↔ name = Labelled.label a :=
    labelled_eq_ok_iff.trans eq_comm
  unfold label
  split
  · simp [hname]
  · rename_i name value
    have hmember : Json.object [(name, value)] = .object [(Labelled.label a, .null)] ↔
        labelled α name = .ok a ∧ value = .null := by
      simp [hname]
    rw [hmember]
    split
    · rename_i hlabelled
      simp [hlabelled]
    · rename_i hvalue
      simpa using fun _ => hvalue
    · rename_i hlabelled
      simp [hlabelled]
  · rename_i hsingle
    simpa using hsingle _ _
  · rename_i htext hsingle _
    simpa using ⟨htext _, hsingle _ _⟩

variable {α ρ : Type}

/-- **One more item** of a list is the one for the next field. -/
theorem Shape.take_required_eq_ok_iff {s : Shape (α → ρ)} {name : String} {read : Reader α}
    {short : Nat → DecodeError} {items rest : List Json} {x : ρ} :
    (s.required name read).take short items = .ok (x, rest) ↔
      ∃ construct item a, s.take short items = .ok (construct, item :: rest) ∧
        read item = .ok a ∧ x = construct a := by
  constructor
  · intro h
    obtain ⟨⟨construct, left⟩, hearlier, hlast⟩ := exists_of_bind_eq_ok h
    cases left with
    | nil => cases hlast
    | cons item left =>
      obtain ⟨a, hread, hx⟩ := exists_of_map_eq_ok hlast
      cases hx
      exact ⟨construct, item, a, hearlier, hread, rfl⟩
  · rintro ⟨construct, item, a, hearlier, hread, rfl⟩
    simp only [required, field, hearlier]
    simp [bind, Except.bind, hread, Except.map]

end Decode

/-! ## Bars -/

/-- The text of a site. -/
def Website.word : Website → String
  | .swap => "BoilerSwap"
  | .cuts => "BoilerCuts"
  | .voting => "Voting"
  | .home => "Home"

/-- The values that stand for a site: its text, alone or as the name of the only member, null, of an
object. -/
def Website.IsNamed (v : Json) (w : Website) : Prop :=
  v = .text w.word ∨ v = .object [(w.word, .null)]

/-- A value is read as a site if it stands for it. -/
lemma Website.label_eq_ok_iff {v : Json} {w : Website} :
    Decode.label v = .ok w ↔ w.IsNamed v := by
  rw [Decode.label_eq_ok_iff]
  cases w <;> exact Iff.rfl

namespace TrafficBar

/-- The values that stand for a bar: its site, its number of visitors and its colour, as members of
an object, each of them once, or as the items of a list. -/
def IsWritten (v : Json) (bar : TrafficBar) : Prop :=
  ∃ site, bar.website.IsNamed site ∧
    (v = .list [site, .integer bar.visitors.toNat, .text bar.color] ∨
      ∃ members : Json.Members, v = .object members ∧
        members.AtMostOnce ["website", "visitors", "color"] ∧
        members.lookup "website" = some site ∧
        members.lookup "visitors" = some (.integer bar.visitors.toNat) ∧
        members.lookup "color" = some (.text bar.color))

/-- A bar is put together from its three fields. -/
lemma overlays :
    shape.Overlays fun lookup bar => ∃ website visitors color,
      Decode.Given Decode.label none (lookup "website") website ∧
      Decode.Given Decode.uint64 none (lookup "visitors") visitors ∧
      Decode.Given Decode.text none (lookup "color") color ∧ bar = ⟨website, visitors, color⟩ :=
  Decode.Shape.overlays_ofConstructor _ _
    |>.field "website" (by decide) _ _
    |>.field "visitors" (by decide) _ _
    |>.field "color" (by decide) _ _
    |>.congr fun lookup bar => by
      constructor
      · rintro ⟨_, color, ⟨_, visitors, ⟨_, website, rfl, hwebsite, rfl⟩, hvisitors, rfl⟩, hcolor,
          rfl⟩
        exact ⟨website, visitors, color, hwebsite, hvisitors, hcolor, rfl⟩
      · rintro ⟨website, visitors, color, hwebsite, hvisitors, hcolor, rfl⟩
        exact ⟨_, color, ⟨_, visitors, ⟨_, website, rfl, hwebsite, rfl⟩, hvisitors, rfl⟩, hcolor,
          rfl⟩

/-- A list is read as a bar if its items are those of a bar. -/
lemma ofItems_eq_ok_iff {items : List Json} {bar : TrafficBar} :
    shape.ofItems items = .ok bar ↔ ∃ site, bar.website.IsNamed site ∧
      items = [site, .integer bar.visitors.toNat, .text bar.color] := by
  constructor
  · intro h
    obtain ⟨⟨taken, rest⟩, hthree, hend⟩ := Decode.exists_of_bind_eq_ok h
    obtain ⟨_, _, color, htwo, hcolor, rfl⟩ := Decode.Shape.take_required_eq_ok_iff.mp hthree
    obtain ⟨_, _, visitors, hone, hvisitors, rfl⟩ := Decode.Shape.take_required_eq_ok_iff.mp htwo
    obtain ⟨_, site, website, hnone, hwebsite, rfl⟩ := Decode.Shape.take_required_eq_ok_iff.mp hone
    cases hnone
    simp only at hend
    split_ifs at hend with hempty
    obtain rfl := List.isEmpty_iff.mp hempty
    obtain rfl := Except.ok.inj hend
    refine ⟨site, Website.label_eq_ok_iff.mp hwebsite, ?_⟩
    rw [Decode.uint64_eq_ok_iff.mp hvisitors, Decode.text_eq_ok_iff.mp hcolor]
  · rintro ⟨site, hsite, rfl⟩
    have htake (short : Nat → DecodeError) :
        shape.take short [site, .integer bar.visitors.toNat, .text bar.color] = .ok (bar, []) :=
      Decode.Shape.take_required_eq_ok_iff.mpr ⟨_, _, _,
        Decode.Shape.take_required_eq_ok_iff.mpr ⟨_, _, _,
          Decode.Shape.take_required_eq_ok_iff.mpr ⟨_, _, _, rfl,
            Website.label_eq_ok_iff.mpr hsite, rfl⟩,
          Decode.uint64_eq_ok_iff.mpr rfl, rfl⟩,
        Decode.text_eq_ok_iff.mpr rfl, rfl⟩
    simp [Decode.Shape.ofItems, htake, bind, Except.bind]

/-- **A bar is read from just the values that stand for it.** -/
theorem read_eq_ok_iff {v : Json} {bar : TrafficBar} :
    read v = .ok bar ↔ bar.IsWritten v := by
  cases v with
  | list items =>
    rw [read, Decode.Shape.read, ofItems_eq_ok_iff]
    simp [IsWritten]
  | object members =>
    rw [read, Decode.Shape.read, overlays.ofMembers_eq_ok_iff]
    simp only [Decode.given_required_iff, Website.label_eq_ok_iff, Decode.uint64_eq_ok_iff,
      Decode.text_eq_ok_iff]
    constructor
    · rintro ⟨honce, website, visitors, color, ⟨site, hsite, hnamed⟩, ⟨_, hvisitors, rfl⟩,
        ⟨_, hcolor, rfl⟩, rfl⟩
      exact ⟨site, hnamed, .inr ⟨members, rfl, honce, hsite, hvisitors, hcolor⟩⟩
    · rintro ⟨site, hnamed, hlist | ⟨_, heq, honce, hsite, hvisitors, hcolor⟩⟩
      · cases hlist
      · obtain rfl := Json.object.inj heq
        exact ⟨honce, bar.website, bar.visitors, bar.color, ⟨site, hsite, hnamed⟩,
          ⟨_, hvisitors, rfl⟩, ⟨_, hcolor, rfl⟩, rfl⟩
  | _ => simp [read, Decode.Shape.read, IsWritten]

/-- Members that are not those of a bar do not matter. -/
lemma isWritten_keep_iff {v : Json} {bar : TrafficBar} :
    bar.IsWritten (v.keep ["website", "visitors", "color"]) ↔ bar.IsWritten v := by
  cases v with
  | object members =>
    simp only [IsWritten, Json.keep, Json.object.injEq, exists_eq_left',
      Json.Members.atMostOnce_keep, reduceCtorEq, false_or]
    rw [Json.Members.lookup_keep (by decide), Json.Members.lookup_keep (by decide),
      Json.Members.lookup_keep (by decide)]
  | _ => exact Iff.rfl

end TrafficBar

end CampusBoard
