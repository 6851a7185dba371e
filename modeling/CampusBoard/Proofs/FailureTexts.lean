import CampusBoard.Proofs.Account.Successes
import CampusBoard.Proofs.Reviews.Submissions
import CampusBoard.Proofs.Search.Outcomes

/-!
# What a failed call leaves to read

A reply that reports a failure is shown by its body, or by its status when the body is blank, cut to
a greatest length. What is left can be read unless the body has its text behind as many blanks as
may be shown: then the body is not blank, but the part of it that is shown is.

## Design

The cut is apart from the choice of the text: a text that can be read still can be once it is cut if
and only if the cut leaves more than its indent. The text of a status has no indent, so only bodies
are ever cut to blanks.

## Main definitions

* `CampusBoard.IsReadable`, `CampusBoard.indent`: a text has something to read, and the blanks in
  front of that.
* `CampusBoard.TransportError.LeftAs`: what a search, an action or a post leaves of a failed call.

## Main results

* `CampusBoard.isReadable_firstChars_iff`: what can be read of a text that is cut.
* `CampusBoard.TransportError.LeftAs.eq_userMessage`: all failed calls are shown in one way.
* `CampusBoard.TransportError.replies_are_readable_unless_indented`: when a failed call leaves
  something to read.
-/

set_option autoImplicit false

namespace CampusBoard

/-! ## Texts that can be read -/

/-- A text can be read if it holds a character that is not blank. -/
def IsReadable (s : String) : Prop :=
  ∃ c ∈ s.toList, Text.isBlank c = false

/-- The number of blanks at the start of a text. -/
def indent (s : String) : Nat :=
  (s.toList.takeWhile Text.isBlank).length

/-- A text is blank exactly if it cannot be read. -/
lemma isBlankText_eq_false_iff (s : String) : Text.isBlankText s = false ↔ IsReadable s := by
  rw [Text.isBlankText, List.all_eq_false, IsReadable]
  simp only [Bool.not_eq_true]

instance (s : String) : Decidable (IsReadable s) :=
  decidable_of_iff _ (isBlankText_eq_false_iff s)

/-- The first characters of a list have one that is not blank if they go beyond the blanks at its
start. -/
lemma exists_mem_take_iff {cs : List Char} (h : ∃ c ∈ cs, Text.isBlank c = false) (n : Nat) :
    (∃ c ∈ cs.take n, Text.isBlank c = false) ↔ (cs.takeWhile Text.isBlank).length < n := by
  induction cs generalizing n with
  | nil => simp at h
  | cons c rest ih =>
    cases n with
    | zero => simp
    | succ n =>
      cases hc : Text.isBlank c with
      | false => simp [hc]
      | true =>
        have hrest : ∃ c ∈ rest, Text.isBlank c = false := by simpa [hc] using h
        simpa [hc] using ih hrest n

/-- **What can be read of a text that is cut.** A text that can be read still can be once it is cut
if and only if the cut leaves more than its indent. -/
theorem isReadable_firstChars_iff {s : String} (h : IsReadable s) (n : Nat) :
    IsReadable (firstChars n s) ↔ indent s < n := by
  rw [IsReadable, firstChars, String.toList_ofList]
  exact exists_mem_take_iff h n

/-- A text that is cut is not too long. -/
lemma length_firstChars_le (n : Nat) (s : String) : (firstChars n s).length ≤ n := by
  rw [firstChars, String.length_ofList]
  exact List.length_take_le n _

namespace TransportError

/-! ## Replies that report a failure -/

/-- The text of a status begins with a letter. -/
lemma exists_toList_message (code : Nat) (body : String) :
    ∃ rest, (message (.status code body)).toList = 'H' :: rest := by
  have hfirst : "HTTP error! status: ".toList = 'H' :: "TTP error! status: ".toList := rfl
  refine ⟨"TTP error! status: ".toList ++ (toString code).toList, ?_⟩
  calc (message (.status code body)).toList
      = "HTTP error! status: ".toList ++ (toString code).toList := String.toList_append
    _ = 'H' :: ("TTP error! status: ".toList ++ (toString code).toList) := by
        rw [hfirst, List.cons_append]

/-- The text of a status can be read, and begins with something to read. -/
lemma isReadable_message (code : Nat) (body : String) :
    IsReadable (message (.status code body)) ∧ indent (message (.status code body)) = 0 := by
  obtain ⟨rest, hrest⟩ := exists_toList_message code body
  have hletter : Text.isBlank 'H' = false := by decide
  rw [IsReadable, indent, hrest]
  exact ⟨⟨'H', List.mem_cons_self, hletter⟩, by simp [hletter]⟩

/-- **When a reply that reports a failure is shown as something to read**: if any character of it is
shown at all, and the body, unless it is blank, has fewer blanks in front than may be shown. -/
theorem isReadable_userMessage_iff (code : Nat) (body : String) (limit : Nat) :
    IsReadable (userMessage limit (.status code body)) ↔
      0 < limit ∧ (IsReadable body → indent body < limit) := by
  by_cases hbody : IsReadable body
  · have hshown : explanation (.status code body) = body := by
      rw [explanation, (isBlankText_eq_false_iff body).mpr hbody]
      rfl
    rw [userMessage, hshown, isReadable_firstChars_iff hbody]
    constructor
    · intro hindent
      exact ⟨Nat.zero_lt_of_lt hindent, fun _ => hindent⟩
    · rintro ⟨-, hindent⟩
      exact hindent hbody
  · have hblank : Text.isBlankText body = true := by
      rwa [← isBlankText_eq_false_iff, Bool.not_eq_false] at hbody
    have hshown : explanation (.status code body) = message (.status code body) := by
      rw [explanation, hblank]
      rfl
    obtain ⟨hreadable, hindent⟩ := isReadable_message code body
    rw [userMessage, hshown, isReadable_firstChars_iff hreadable, hindent]
    simp [hbody]

/-! ## What is left of a failed call -/

/-- A text is what a search, an action on an account or the post of a review leaves for display
when its call failed, if `limit` characters may be shown. -/
inductive LeftAs (failure : TransportError) : Nat → String → Prop
  /-- A search leaves it as the error of its controller. -/
  | search {d : Domain} (e : Engine) (index : SearchRequest → Except TransportError IndexReply)
    (c : Controller d) (hfailed : (e.search index c).result = .error failure) :
    LeftAs failure e.errorMaxChars.toNat (e.search index c).transition.state.error
  /-- An action leaves it as the error of its session. -/
  | action (rules : AccountRules) (service : Service) (now : Nat) (f : Flow) (s : Session)
    (hfailed : (s.perform rules service now f).result = .error (.transport failure)) :
    LeftAs failure rules.forms.errorMaxChars.toNat
      (s.perform rules service now f).session.error
  /-- A post leaves it as the error of its desk. -/
  | post (rules : DeskRules) (service : Service) (now : Nat) (draft : ReviewDraft) (d : Desk)
    (hfailed : (d.submit rules service now draft).result = .error (.transport failure)) :
    LeftAs failure rules.errorMaxChars (d.submit rules service now draft).desk.postError

variable {failure : TransportError}

/-- A search that failed shows its failure. -/
lemma error_search {d : Domain} {e : Engine}
    {index : SearchRequest → Except TransportError IndexReply} {c : Controller d}
    (h : (e.search index c).result = .error failure) :
    (e.search index c).transition.state.error = failure.userMessage e.errorMaxChars.toNat := by
  rw [Engine.search_eq] at h
  cases houtcome : Engine.outcome d (index (e.request c)) with
  | ok results => simp [houtcome, Except.map] at h
  | error failure' =>
    obtain rfl : failure' = failure := by simpa [houtcome, Except.map] using h
    exact congrArg Controller.error (Engine.failed_of_outcome e index c houtcome).2

/-- An action whose call failed shows the failure. -/
lemma error_perform {rules : AccountRules} {service : Service} {now : Nat} {f : Flow} {s : Session}
    (h : (s.perform rules service now f).result = .error (.transport failure)) :
    (s.perform rules service now f).session.error =
      failure.userMessage rules.forms.errorMaxChars.toNat := by
  obtain ⟨gate, -, hleaves⟩ := Session.exists_leaves rules service now f s
  cases gate with
  | cooldown | status | form _ => simp [hleaves.1] at h
  | call =>
    obtain ⟨-, -, hsettled⟩ := hleaves
    cases hreply : service (f.contract rules.forms).call with
    | ok _ =>
      rw [hreply] at hsettled
      simp [hsettled.1] at h
    | error failure' =>
      rw [hreply] at hsettled
      obtain ⟨hresult, herror, -⟩ := hsettled
      obtain rfl : failure' = failure := by simpa [hresult] using h
      exact herror

/-- A post whose call failed shows the failure. -/
lemma postError_submit {rules : DeskRules} {service : Service} {now : Nat} {draft : ReviewDraft}
    {d : Desk} (h : (d.submit rules service now draft).result = .error (.transport failure)) :
    (d.submit rules service now draft).desk.postError =
      failure.userMessage rules.errorMaxChars := by
  have hreached := DeskGate.reached_iff.mpr (rfl : _ = DeskGate.comesTo rules now draft d)
  have hleaves := DeskGate.leaves_of_reached service hreached
  cases hgate : DeskGate.comesTo rules now draft d with
  | cooldown | form _ =>
    rw [hgate] at hleaves
    simp [hleaves.1] at h
  | call payload =>
    rw [hgate] at hleaves
    obtain ⟨-, -, -, hsettled⟩ := hleaves
    cases hreply : service ⟨.post, "/review", some payload.toJson⟩ with
    | ok _ =>
      rw [hreply] at hsettled
      simp [hsettled.1] at h
    | error failure' =>
      rw [hreply] at hsettled
      obtain ⟨hresult, herror⟩ := hsettled
      obtain rfl : failure' = failure := by simpa [hresult] using h
      exact herror

/-- **All failed calls are shown in one way.** -/
theorem LeftAs.eq_userMessage {limit : Nat} {text : String} (h : LeftAs failure limit text) :
    text = failure.userMessage limit := by
  cases h with
  | search e index c hfailed => exact error_search hfailed
  | action rules service now f s hfailed => exact error_perform hfailed
  | post rules service now draft d hfailed => exact postError_submit hfailed

/-- **A failed call leaves something to read unless its body is indented too far.** What is shown
of a reply that reports a failure, and so what a failed search, action or post leaves of it, has at
most as many characters as may be shown. It can be read if any character may be shown at all, the
only exception being a body that is not blank and begins with at least as many blanks as characters
may be shown; then only blanks are shown.

**Proof sketch.** The text that is chosen can be read, so it can be read once it is cut if the cut
leaves more than its indent (`isReadable_firstChars_iff`). The text of a status has no indent. -/
theorem replies_are_readable_unless_indented (code : Nat) (body : String) (limit : Nat) :
    (userMessage limit (.status code body)).length ≤ limit ∧
    (IsReadable (userMessage limit (.status code body)) ↔
      0 < limit ∧ (IsReadable body → indent body < limit)) ∧
    ∀ text, LeftAs (.status code body) limit text →
      text.length ≤ limit ∧
        (IsReadable text ↔ 0 < limit ∧ (IsReadable body → indent body < limit)) := by
  have hlength := length_firstChars_le limit (explanation (.status code body))
  have hreadable := isReadable_userMessage_iff code body limit
  refine ⟨hlength, hreadable, ?_⟩
  intro text htext
  rw [htext.eq_userMessage]
  exact ⟨hlength, hreadable⟩

/-- A text behind `n` blanks. -/
def padded (n : Nat) (s : String) : String :=
  String.ofList (List.replicate n ' ') ++ s

/-- The blanks add to the indent of the text. -/
lemma indent_padded (n : Nat) (s : String) : indent (padded n s) = n + indent s := by
  have hblanks : ∀ c ∈ List.replicate n ' ', Text.isBlank c = true := by
    intro c hc
    rw [List.eq_of_mem_replicate hc]
    decide
  rw [indent, indent, padded, String.toList_append, String.toList_ofList,
    List.takeWhile_append_of_pos hblanks, List.length_append, List.length_replicate]

/-- A text that can be read still can be behind blanks, but as a body behind as many blanks as
characters may be shown it is shown as blanks. -/
lemma not_isReadable_userMessage_padded (code limit : Nat) {s : String} (h : IsReadable s) :
    IsReadable (padded limit s) ∧
      ¬IsReadable (userMessage limit (.status code (padded limit s))) := by
  have hpadded : IsReadable (padded limit s) := by
    obtain ⟨c, hc, hreadable⟩ := h
    refine ⟨c, ?_, hreadable⟩
    rw [padded, String.toList_append]
    exact List.mem_append_right _ hc
  refine ⟨hpadded, fun hshown => ?_⟩
  obtain ⟨-, hroom⟩ := (isReadable_userMessage_iff code _ limit).mp hshown
  have hindent := hroom hpadded
  rw [indent_padded] at hindent
  omega

/-- **A padded reply leaves nothing to read.** Fifty characters may be shown, and the body says that
the service is not available, but what is shown of it is blank. -/
theorem padded_reply_shows_blanks :
    1 ≤ 50 ∧ IsReadable (padded 50 "Service unavailable") ∧
      ¬IsReadable (userMessage 50 (.status 503 (padded 50 "Service unavailable"))) :=
  ⟨by decide, not_isReadable_userMessage_padded 503 50 (by decide)⟩

/-- A login that fails with a body that begins with a line break leaves the first word of it, if
eight characters may be shown. -/
theorem replies_are_readable_unless_indented_login :
    LeftAs (.status 503 "\nService unavailable") 8 "\nService" ∧
      "\nService".length ≤ 8 ∧ IsReadable "\nService" := by
  have hleft : LeftAs (.status 503 "\nService unavailable") 8 "\nService" :=
    .action (.ofSettings { account := { errorMaxChars := 8 } })
      (fun _ => .error (.status 503 "\nService unavailable")) 0
      (.login "pete@purdue.edu" "correct-horse") .fresh rfl
  obtain ⟨-, -, hshown⟩ :=
    replies_are_readable_unless_indented 503 "\nService unavailable" 8
  obtain ⟨hlength, hreadable⟩ := hshown "\nService" hleft
  exact ⟨hleft, hlength, hreadable.mpr ⟨by decide, fun _ => by decide⟩⟩

end TransportError

end CampusBoard
