import CampusBoard.Display.WalkLink
import CampusBoard.Proofs.Text.Components
import CampusBoard.Proofs.Text.Cuts
import Mathlib.Tactic.Common
import Mathlib.Tactic.Lemma

/-!
# Links carry any address

A link to walking directions carries the address in one parameter of its query, from which the
address can be read again. Whatever characters the address holds, the link has the same parameters
and no fragment.

## Main definitions

* `CampusBoard.Display.Link`: the parts of a link.
* `CampusBoard.Display.Link.ofChars`: the parts that a link is cut into.
* `CampusBoard.Display.originOf?`: what stands in a link as the origin.

## Main results

* `CampusBoard.Display.ofChars_walkLink`: the parts of a link to walking directions.
* `CampusBoard.Display.links_carry_any_address`: how an address is carried.
-/

set_option autoImplicit false

namespace CampusBoard

namespace Display

open Text

/-! ## Links -/

/-- The parts of a link. -/
structure Link where
  /-- What stands before the query. -/
  base : List Char
  /-- The names of the parameters of the query, each with its value if it has one. -/
  parameters : List (List Char × Option (List Char))
  /-- What stands behind the number sign. -/
  fragment : Option (List Char)

/-- The parts that a link is cut into: the fragment begins at the first number sign, before it the
query at the first question mark. The parameters stand between ampersands, and the value of each
begins at its first equals sign. -/
def Link.ofChars (cs : List Char) : Link where
  base := (cut '?' (cut '#' cs).1).1
  parameters := (((cut '?' (cut '#' cs).1).2.getD []).splitOn '&').map (cut '=')
  fragment := (cut '#' cs).2

/-- What stands in a link between the first `origin=` and the next ampersand. -/
def originOf? (cs : List Char) : Option (List Char) :=
  (afterWord? "origin=".toList cs).map fun rest => (cut '&' rest).1

/-! ## Encoded origins -/

variable {origin : List Char}

/-- No mark that divides links stands in an encoded form, nor a plus sign. -/
lemma notMem_of_isEncoded (h : IsEncoded origin) {mark : Char}
    (hmark : mark ∈ ['#', '?', '&', '=', '+']) : mark ∉ origin := by
  have hall : (['#', '?', '&', '=', '+'].all fun c => c != '%' && !isUnreserved c) = true := by
    decide
  have hreserved := List.all_eq_true.mp hall mark hmark
  simp only [Bool.and_eq_true, bne_iff_ne, Bool.not_eq_true'] at hreserved
  intro hmem
  have hplain := h.isUnreserved_of_mem hmem hreserved.1
  simp [hreserved.2] at hplain

/-- The written parameters of a link to walking directions. -/
def walkParameters (origin : List Char) : List (List Char) :=
  ["api=1".toList, "origin=".toList ++ origin, "destination=WALC,+West+Lafayette,+IN".toList,
    "travelmode=walking".toList]

/-- The parameters stand behind a question mark, with ampersands between them. -/
lemma walkLink_eq_intercalate (origin : List Char) :
    walkLinkStart.toList ++ origin ++ walkLinkEnd.toList =
      "https://www.google.com/maps/dir/".toList ++
        '?' :: ['&'].intercalate (walkParameters origin) := by
  simp [walkParameters, walkLinkStart, walkLinkEnd, List.intercalate]

/-- **The parts of a link to walking directions** are the same for each encoded origin, which is the
value of one parameter. -/
theorem ofChars_walkLink (h : IsEncoded origin) :
    Link.ofChars (walkLinkStart.toList ++ origin ++ walkLinkEnd.toList) =
      { base := "https://www.google.com/maps/dir/".toList
        parameters := [("api".toList, some "1".toList), ("origin".toList, some origin),
          ("destination".toList, some "WALC,+West+Lafayette,+IN".toList),
          ("travelmode".toList, some "walking".toList)]
        fragment := none } := by
  have hfragment : '#' ∉ walkLinkStart.toList ++ origin ++ walkLinkEnd.toList := by
    have hstart : '#' ∉ walkLinkStart.toList := by decide
    have hend : '#' ∉ walkLinkEnd.toList := by decide
    simp [hstart, hend, notMem_of_isEncoded h]
  have hparameters : ∀ p ∈ walkParameters origin, '&' ∉ p := by
    simp [walkParameters, notMem_of_isEncoded h]
  have hsplit : (['&'].intercalate (walkParameters origin)).splitOn '&' = walkParameters origin :=
    List.splitOn_intercalate '&' hparameters (by simp [walkParameters])
  have hname : '=' ∉ "origin".toList := by decide
  have horigin : cut '=' ("origin=".toList ++ origin) = ("origin".toList, some origin) :=
    cut_append hname
  simp only [Link.ofChars, cut_of_notMem hfragment]
  rw [walkLink_eq_intercalate, cut_append (by decide), Option.getD_some, hsplit]
  simp only [walkParameters, List.map_cons, List.map_nil, horigin]
  rfl

/-- The origin stands between `origin=` and the next ampersand. -/
lemma originOf?_walkLink (h : IsEncoded origin) :
    originOf? (walkLinkStart.toList ++ origin ++ walkLinkEnd.toList) = some origin := by
  have hafter : afterWord? "origin=".toList (walkLinkStart.toList ++ origin ++ walkLinkEnd.toList) =
      some (origin ++ walkLinkEnd.toList) := rfl
  have hnext : cut '&' (origin ++ walkLinkEnd.toList) =
      (origin, some "destination=WALC,+West+Lafayette,+IN&travelmode=walking".toList) :=
    cut_append (notMem_of_isEncoded h (by decide))
  rw [originOf?, hafter, Option.map_some, hnext]

/-! ## Addresses -/

/-- The characters of a link to walking directions. -/
lemma toList_walkLink (address : String) :
    (walkLink address).toList =
      walkLinkStart.toList ++ (encodeComponent address).toList ++ walkLinkEnd.toList := by
  simp [walkLink]

/-- **Links carry any address.** A link to walking directions is a fixed start, the origin and a
fixed end, and the origin is made up of unreserved characters and of triplets of a per cent sign and
two upper-case hexadecimal digits. Cut out of the link and decoded, it is the bytes of the address;
it holds no plus sign that a reader could take for a blank. Whatever the address, the link has the
same four parameters, of which only the origin has another value, and no fragment. So different
addresses have different links.

**Proof sketch.** No mark that divides links stands in an encoded form, so each cut is made at a
mark of the fixed parts. Each byte is read back from its two digits, and a character that stands
for itself is no per cent sign. -/
theorem links_carry_any_address :
    (∀ address : String, ∃ origin : List Char, IsEncoded origin ∧
      (walkLink address).toList = walkLinkStart.toList ++ origin ++ walkLinkEnd.toList ∧
      originOf? (walkLink address).toList = some origin ∧
      decodeComponent origin = some address.toUTF8.data.toList ∧ '+' ∉ origin ∧
      Link.ofChars (walkLink address).toList =
        { base := "https://www.google.com/maps/dir/".toList
          parameters := [("api".toList, some "1".toList), ("origin".toList, some origin),
            ("destination".toList, some "WALC,+West+Lafayette,+IN".toList),
            ("travelmode".toList, some "walking".toList)]
          fragment := none }) ∧
    Function.Injective walkLink := by
  constructor
  · intro address
    have hencoded := isEncoded_encodeComponent address
    refine ⟨(encodeComponent address).toList, hencoded, toList_walkLink address, ?_,
      decodeComponent_encodeComponent address, notMem_of_isEncoded hencoded (by decide), ?_⟩
    · rw [toList_walkLink, originOf?_walkLink hencoded]
    · rw [toList_walkLink, ofChars_walkLink hencoded]
  · intro address address' h
    have hchars := congrArg String.toList h
    rw [toList_walkLink, toList_walkLink, List.append_left_inj, List.append_right_inj,
      String.toList_inj] at hchars
    exact encodeComponent_injective hchars

end Display

end CampusBoard
