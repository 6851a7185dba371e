import CampusBoard.Forms.Error

/-!
# Closed vocabularies

A vocabulary is a type with finitely many members, each written as a label of its own.

## Main definitions

* `CampusBoard.Labelled`: the class of vocabularies.
* `CampusBoard.Labelled.ofLabel?`: the member with a given label.
* `CampusBoard.Labelled.parse`: the same, naming the vocabulary in the error.
* `CampusBoard.Labelled.parseFilter`: reads the value of a filter control, where the empty text
  stands for no constraint.

## Main results

* `CampusBoard.Labelled.ofLabel?_eq_some_iff`: a label names exactly the member it belongs to.
-/

set_option autoImplicit false

namespace CampusBoard

/-- A finite type whose members are written as labels, no two alike. -/
class Labelled (α : Type) where
  /-- What the vocabulary is called in error messages. -/
  kind : String
  /-- The members in their order of declaration. -/
  all : List α
  /-- The label of a member. -/
  label : α → String
  /-- Looking up the label of a member among all members finds that member. -/
  find?_label : ∀ a, all.find? (fun b => label b == label a) = some a

namespace Labelled

variable {α : Type} [Labelled α]

/-- The labels in their order of declaration. -/
def labels (α : Type) [Labelled α] : List String :=
  (all : List α).map label

/-- The member labelled `s`. -/
def ofLabel? (s : String) : Option α :=
  all.find? fun a => label a == s

/-- The member labelled `s`, or an error that names the vocabulary. -/
def parse (s : String) : Except ValidationError α :=
  match ofLabel? s with
  | some a => .ok a
  | none => .error (.unknownValue (kind α) s)

/-- Reads the value of a filter control. The empty text stands for no constraint. -/
def parseFilter (s : String) : Except ValidationError (Option α) :=
  if s = "" then .ok none else (parse s).map some

/-- Each member is found by its label. -/
theorem ofLabel?_label (a : α) : ofLabel? (label a) = some a :=
  find?_label a

/-- What is found by a label has that label. -/
theorem label_of_ofLabel? {s : String} {a : α} (h : ofLabel? s = some a) : label a = s := by
  have := List.find?_some h
  simpa using this

/-- A label finds the member that has it and no other. -/
theorem ofLabel?_eq_some_iff {s : String} {a : α} : ofLabel? s = some a ↔ label a = s :=
  ⟨label_of_ofLabel?, fun h => h ▸ ofLabel?_label a⟩

/-- Each member is declared. -/
theorem mem_all (a : α) : a ∈ (all : List α) :=
  List.mem_of_find?_eq_some (find?_label a)

/-- The label of a member is parsed as the member. -/
theorem parse_label (a : α) : parse (label a) = .ok a := by
  simp [parse, ofLabel?_label]

end Labelled

end CampusBoard
