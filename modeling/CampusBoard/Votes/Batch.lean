import CampusBoard.Labelled
import CampusBoard.Reviews.Id

/-!
# Batches of votes

A batch holds at most one vote per review, in the order of the identifiers.

## Main definitions

* `CampusBoard.Vote`: helpful or not.
* `CampusBoard.VoteBatch`: a batch.
* `CampusBoard.VoteBatch.get?`, `CampusBoard.VoteBatch.insert`, `CampusBoard.VoteBatch.erase`: look
  up, set and withdraw a vote.
-/

set_option autoImplicit false

namespace CampusBoard

/-- A vote on a review. -/
inductive Vote
  /-- The review was helpful. -/
  | up
  /-- The review was not helpful. -/
  | down
  deriving DecidableEq, Repr

instance : Labelled Vote where
  kind := "thumbs delta"
  all := [.up, .down]
  label
    | .up => "up"
    | .down => "down"
  find?_label a := by cases a <;> decide

/-! ## The order of identifiers -/

namespace ReviewId

/-- Identifiers with the same text are the same. -/
theorem ext_text {a b : ReviewId} (h : a.text = b.text) : a = b := by
  cases a; cases b; simpa using h

/-- The order of identifiers is transitive. -/
theorem lt_trans {a b c : ReviewId} (h : a < b) (h' : b < c) : a < c :=
  String.lt_trans (a := a.text) h h'

/-- No identifier is below itself. -/
theorem lt_irrefl (a : ReviewId) : ¬a < a :=
  String.lt_irrefl a.text

/-- Of two identifiers one is below the other. -/
theorem lt_of_not_lt {a b : ReviewId} (h : ¬a < b) (hne : a ≠ b) : b < a := by
  have hle : b.text ≤ a.text := String.not_lt.1 h
  refine Classical.byContradiction fun hlt => hne (ext_text ?_)
  exact String.le_antisymm (String.not_lt.1 hlt) hle

end ReviewId

/-! ## Batches -/

/-- At most one vote per review, in the order of the identifiers. -/
structure VoteBatch where
  /-- The votes with their reviews. -/
  entries : List (ReviewId × Vote)
  /-- They are ordered by their reviews. -/
  ordered : entries.Pairwise fun a b => a.1 < b.1
  deriving DecidableEq, Repr

namespace VoteBatch

/-- A batch without votes. -/
def empty : VoteBatch :=
  ⟨[], .nil⟩

instance : Inhabited VoteBatch := ⟨empty⟩

/-- The number of votes. -/
def size (b : VoteBatch) : Nat :=
  b.entries.length

/-- Whether there is no vote. -/
def isEmpty (b : VoteBatch) : Bool :=
  b.entries.isEmpty

/-- The vote on a review among the given ones. -/
def lookup (review : ReviewId) : List (ReviewId × Vote) → Option Vote
  | [] => none
  | entry :: rest => if entry.1 = review then some entry.2 else lookup review rest

/-- The vote on a review. -/
def get? (b : VoteBatch) (review : ReviewId) : Option Vote :=
  lookup review b.entries

/-- Puts a vote at its place among ordered ones, instead of one on the same review. -/
def insertInto (review : ReviewId) (vote : Vote) :
    List (ReviewId × Vote) → List (ReviewId × Vote)
  | [] => [(review, vote)]
  | entry :: rest =>
    if review < entry.1 then (review, vote) :: entry :: rest
    else if entry.1 = review then (review, vote) :: rest
    else entry :: insertInto review vote rest

/-- An inserted vote brings in no other review. -/
theorem fst_of_mem_insertInto {review : ReviewId} {vote : Vote} {entries : List (ReviewId × Vote)}
    {e : ReviewId × Vote} (h : e ∈ insertInto review vote entries) :
    e.1 = review ∨ e ∈ entries := by
  induction entries with
  | nil => simp_all [insertInto]
  | cons entry rest ih =>
    unfold insertInto at h
    split at h
    · rcases List.mem_cons.1 h with rfl | h
      · exact .inl rfl
      · exact .inr h
    · split at h
      · rcases List.mem_cons.1 h with rfl | h
        · exact .inl rfl
        · exact .inr (List.mem_cons_of_mem _ h)
      · rcases List.mem_cons.1 h with rfl | h
        · exact .inr List.mem_cons_self
        · rcases ih h with h | h
          · exact .inl h
          · exact .inr (List.mem_cons_of_mem _ h)

/-- Inserting a vote keeps the entries in order. -/
theorem pairwise_insertInto (review : ReviewId) (vote : Vote) {entries : List (ReviewId × Vote)}
    (h : entries.Pairwise fun a b => a.1 < b.1) :
    (insertInto review vote entries).Pairwise fun a b => a.1 < b.1 := by
  induction entries with
  | nil => simp [insertInto]
  | cons entry rest ih =>
    obtain ⟨hfirst, hrest⟩ := List.pairwise_cons.1 h
    unfold insertInto
    split
    · rename_i hlt
      refine List.pairwise_cons.2 ⟨fun e he => ?_, h⟩
      rcases List.mem_cons.1 he with rfl | he
      · exact hlt
      · exact ReviewId.lt_trans hlt (hfirst e he)
    · split
      · rename_i heq
        exact List.pairwise_cons.2 ⟨fun e he => heq ▸ hfirst e he, hrest⟩
      · rename_i hlt hne
        refine List.pairwise_cons.2 ⟨fun e he => ?_, ih hrest⟩
        rcases fst_of_mem_insertInto he with he | he
        · exact he ▸ ReviewId.lt_of_not_lt hlt fun heq => hne heq.symm
        · exact hfirst e he

/-- Sets the vote on a review. -/
def insert (review : ReviewId) (vote : Vote) (b : VoteBatch) : VoteBatch :=
  ⟨insertInto review vote b.entries, pairwise_insertInto review vote b.ordered⟩

/-- Withdraws the vote on a review. -/
def erase (review : ReviewId) (b : VoteBatch) : VoteBatch :=
  ⟨b.entries.filter fun e => e.1 ≠ review, b.ordered.filter _⟩

/-- The batch of the given votes, of two on the same review the later one. -/
def ofList (votes : List (ReviewId × Vote)) : VoteBatch :=
  votes.foldl (fun b v => b.insert v.1 v.2) empty

/-! ## Looking up votes -/

/-- A vote that was inserted is found, and the votes on other reviews are found as before. -/
theorem lookup_insertInto (review other : ReviewId) (vote : Vote)
    (entries : List (ReviewId × Vote)) :
    lookup other (insertInto review vote entries) =
      if other = review then some vote else lookup other entries := by
  induction entries with
  | nil => simp [insertInto, lookup, eq_comm]
  | cons entry rest ih =>
    unfold insertInto
    split
    · simp [lookup, eq_comm]
    · split
      · rename_i h
        subst h
        by_cases h : other = entry.1
        · simp [lookup, h]
        · simp [lookup, h, Ne.symm h]
      · rename_i h
        by_cases he : entry.1 = other
        · have hne : other ≠ review := fun heq => h (he.trans heq)
          simp [lookup, he, hne]
        · simp [lookup, he, ih]

/-- Once the entries of a review are dropped, the votes on other reviews are found as before. -/
theorem lookup_filter_ne (review other : ReviewId) (entries : List (ReviewId × Vote)) :
    lookup other (entries.filter fun e => e.1 ≠ review) =
      if other = review then none else lookup other entries := by
  induction entries with
  | nil => simp [lookup]
  | cons entry rest ih =>
    by_cases h : entry.1 = review
    · rw [List.filter_cons_of_neg (by simp [h]), ih]
      by_cases ho : other = review
      · simp [ho]
      · simp [lookup, ho, h, Ne.symm ho]
    · rw [List.filter_cons_of_pos (by simp [h])]
      by_cases he : entry.1 = other
      · have hne : other ≠ review := fun heq => h (he.trans heq)
        simp [lookup, he, hne]
      · simpa [lookup, he] using ih

/-- A vote that was set is the vote on its review, and the others stay. -/
theorem get?_insert (review other : ReviewId) (vote : Vote) (b : VoteBatch) :
    (b.insert review vote).get? other = if other = review then some vote else b.get? other :=
  lookup_insertInto review other vote b.entries

/-- A vote that was withdrawn is gone, and the others stay. -/
theorem get?_erase (review other : ReviewId) (b : VoteBatch) :
    (b.erase review).get? other = if other = review then none else b.get? other :=
  lookup_filter_ne review other b.entries

/-- The empty batch has no votes. -/
theorem get?_empty (review : ReviewId) : empty.get? review = none :=
  rfl

/-- Only the empty batch is empty. -/
theorem eq_empty_of_isEmpty {b : VoteBatch} (h : b.isEmpty) : b = empty := by
  obtain ⟨entries, ordered⟩ := b
  obtain rfl : entries = [] := by simpa [isEmpty] using h
  rfl

/-- A batch is empty when no review has a vote. -/
theorem isEmpty_iff_get? (b : VoteBatch) : b.isEmpty ↔ ∀ review, b.get? review = none := by
  refine ⟨fun h review => ?_, fun h => ?_⟩
  · rw [eq_empty_of_isEmpty h, get?_empty]
  · obtain ⟨entries, ordered⟩ := b
    cases entries with
    | nil => rfl
    | cons entry rest =>
      have hnone := h entry.1
      simp [get?, lookup] at hnone

/-! ## Sizes -/

/-- A review below all others is not found. -/
theorem lookup_eq_none_of_lt {review : ReviewId} {entries : List (ReviewId × Vote)}
    (h : ∀ e ∈ entries, review < e.1) : lookup review entries = none := by
  induction entries with
  | nil => rfl
  | cons entry rest ih =>
    have hne : entry.1 ≠ review := by
      intro heq
      exact ReviewId.lt_irrefl review (heq ▸ h entry List.mem_cons_self)
    simpa [lookup, hne] using ih fun e he => h e (List.mem_cons_of_mem _ he)

/-- Inserting a vote adds an entry unless the review has one. -/
theorem length_insertInto {review : ReviewId} (vote : Vote) {entries : List (ReviewId × Vote)}
    (h : entries.Pairwise fun a b => a.1 < b.1) :
    (insertInto review vote entries).length =
      if (lookup review entries).isSome then entries.length else entries.length + 1 := by
  induction entries with
  | nil => rfl
  | cons entry rest ih =>
    obtain ⟨hfirst, hrest⟩ := List.pairwise_cons.1 h
    unfold insertInto
    split
    · rename_i hlt
      have hnone : lookup review (entry :: rest) = none := by
        refine lookup_eq_none_of_lt fun e he => ?_
        rcases List.mem_cons.1 he with rfl | he
        · exact hlt
        · exact ReviewId.lt_trans hlt (hfirst e he)
      simp [hnone]
    · split
      · rename_i heq
        simp [lookup, heq]
      · rename_i hne
        rw [List.length_cons, ih hrest, lookup, if_neg hne]
        split <;> rfl

/-- Setting a vote makes a batch larger by one unless the review has a vote. -/
theorem size_insert (review : ReviewId) (vote : Vote) (b : VoteBatch) :
    (b.insert review vote).size = if (b.get? review).isSome then b.size else b.size + 1 :=
  length_insertInto vote b.ordered

/-- Withdrawing a vote makes no batch larger. -/
theorem size_erase_le (review : ReviewId) (b : VoteBatch) : (b.erase review).size ≤ b.size :=
  List.length_filter_le _ _

/-- A batch has a positive size unless it is empty. -/
theorem size_pos_iff {b : VoteBatch} : 0 < b.size ↔ b.isEmpty = false := by
  obtain ⟨entries, ordered⟩ := b
  cases entries with
  | nil => exact iff_of_false (Nat.lt_irrefl 0) nofun
  | cons entry rest => exact iff_of_true (Nat.succ_pos _) rfl

end VoteBatch

end CampusBoard
