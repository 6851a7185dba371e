import CampusBoard.Proofs.Account.Successes
import CampusBoard.Reviews.Desk

/-!
# Pauses between calls

Sessions and desks hold back what comes too soon after their last call. So over a whole run any two
of their calls are at least a cool-down apart, and nothing is held back but what comes within a
cool-down of a call.

## Design

A log says what was sent at which moment. `Cooldown.Paced` ties a log to the cool-down that it has
left: an entry without a call leaves the cool-down alone, and an entry with a call found it lifted
and started it anew. What there is to say about pauses is said of paced logs, so of a session or a
desk it only has to be shown what one action adds to its log. A moment that comes before an earlier
one in the log does no harm, so nothing here asks for the moments to be in order.

## Main definitions

* `CampusBoard.Sending`, `CampusBoard.sentAt`: what was sent at a moment, and the moments of calls.
* `CampusBoard.Cooldown.Paced`: the logs that a cool-down allows.
* `CampusBoard.Cooldown.Heeds`: what an answer means for the cool-down.
* `CampusBoard.Session.log`, `CampusBoard.Desk.log`: what a run has sent.

## Main results

* `CampusBoard.Cooldown.Paced.isActive_iff`: a cool-down holds within its duration of a call.
* `CampusBoard.Cooldown.Paced.pairwise_sentAt`: the calls of a paced log are its duration apart.
* `CampusBoard.calls_keep_their_distance`: so are those of sessions and of desks.
-/

set_option autoImplicit false

namespace CampusBoard

/-! ## Logs -/

/-- What was sent at a moment. -/
structure Sending where
  /-- The moment in milliseconds. -/
  now : Nat
  /-- The calls that were made. -/
  calls : List Call

/-- The moments at which a log has sent something, one for each call. -/
def sentAt (log : List Sending) : List Nat :=
  log.flatMap fun entry => entry.calls.map fun _ => entry.now

/-- One more entry adds a moment for each of its calls. -/
lemma sentAt_concat (log : List Sending) (entry : Sending) :
    sentAt (log ++ [entry]) = sentAt log ++ entry.calls.map fun _ => entry.now := by
  simp [sentAt]

namespace Cooldown

/-- The logs that a cool-down of the given duration allows, each with the cool-down that it has
left. -/
inductive Paced (duration : Nat) : List Sending → Cooldown → Prop
  /-- At first nothing was sent. -/
  | start : Paced duration [] .idle
  /-- What sends nothing leaves the cool-down alone. -/
  | quiet {log : List Sending} {c : Cooldown} (now : Nat) (h : Paced duration log c) :
    Paced duration (log ++ [⟨now, []⟩]) c
  /-- A call is made while the cool-down does not hold, and starts it. -/
  | call {log : List Sending} {c : Cooldown} {now : Nat} (call : Call) (h : Paced duration log c)
    (hlifted : c.isActive now = false) :
    Paced duration (log ++ [⟨now, [call]⟩]) (c.engage now duration)

namespace Paced

variable {duration : Nat} {log : List Sending} {c : Cooldown}

/-- **A cool-down holds within its duration of a call**, and at no other moment; at its very end it
holds no longer.

**Proof sketch.** Induction on the log. A call is made when the cool-down of all earlier ones is
over, so whatever comes within the duration of an earlier call comes within that of the last. -/
theorem isActive_iff (h : Paced duration log c) (now : Nat) :
    c.isActive now = true ↔ ∃ moment ∈ sentAt log, now < moment + duration := by
  induction h generalizing now with
  | start => simp [isActive, idle, sentAt]
  | quiet _ _ ih => simpa [sentAt_concat] using ih now
  | @call log c last _ _ hlifted ih =>
    have hover : ∀ moment ∈ sentAt log, moment + duration ≤ last := by
      intro moment hmoment
      by_contra hlater
      have hheld := (ih last).mpr ⟨moment, hmoment, by omega⟩
      rw [hlifted] at hheld
      cases hheld
    rw [sentAt_concat]
    constructor
    · intro hheld
      refine ⟨last, by simp, ?_⟩
      simpa [isActive, engage] using hheld
    · rintro ⟨moment, hmoment, hnow⟩
      have hlast : now < last + duration := by
        rcases List.mem_append.mp hmoment with hmoment | hmoment
        · have := hover moment hmoment
          omega
        · obtain rfl : moment = last := by simpa using hmoment
          exact hnow
      simpa [isActive, engage] using hlast

/-- **The calls of a paced log are at least its duration apart.** -/
theorem pairwise_sentAt (h : Paced duration log c) :
    (sentAt log).Pairwise fun earlier later => earlier + duration ≤ later := by
  induction h with
  | start => exact List.Pairwise.nil
  | quiet _ _ ih => simpa [sentAt_concat] using ih
  | @call log c last _ hpaced hlifted ih =>
    rw [sentAt_concat, List.pairwise_append]
    refine ⟨ih, by simp, ?_⟩
    intro earlier hearlier later hlater
    obtain rfl : later = last := by simpa using hlater
    by_contra hclose
    have hheld := (hpaced.isActive_iff later).mpr ⟨earlier, hearlier, by omega⟩
    rw [hlifted] at hheld
    cases hheld

end Paced

/-! ## Answers -/

/-- What the answer to an action at `now` means for the cool-down: an action that came to its call
found the cool-down lifted and has started it anew, and one that was refused before has sent nothing
and left it as it was. -/
def Heeds {α : Type} (now duration : Nat) (before after : Cooldown) (sent : List Call) :
    Except FlowError α → Prop
  | .ok _ | .error (.transport _) =>
    before.isActive now = false ∧ (∃ call, sent = [call]) ∧ after = before.engage now duration
  | .error .limited | .error .notPermitted | .error (.validation _) => sent = [] ∧ after = before

/-- An action that heeds the cool-down adds to a paced log. -/
lemma Paced.concat {α : Type} {duration now : Nat} {log : List Sending} {before after : Cooldown}
    {sent : List Call} {answer : Except FlowError α} (h : Paced duration log before)
    (hheeds : Heeds now duration before after sent answer) :
    Paced duration (log ++ [⟨now, sent⟩]) after := by
  match answer, hheeds with
  | .ok _, ⟨hlifted, ⟨made, hsent⟩, hafter⟩
  | .error (.transport _), ⟨hlifted, ⟨made, hsent⟩, hafter⟩ =>
    rw [hsent, hafter]
    exact .call made h hlifted
  | .error .limited, ⟨hsent, hafter⟩ | .error .notPermitted, ⟨hsent, hafter⟩
  | .error (.validation _), ⟨hsent, hafter⟩ =>
    rw [hsent, hafter]
    exact .quiet now h

end Cooldown

/-! ## Sessions -/

namespace Session

/-- An action that is held back is told so, and no other is. -/
lemma result_eq_limited_iff (rules : AccountRules) (service : Service) (now : Nat) (f : Flow)
    (s : Session) :
    (s.perform rules service now f).result = .error .limited ↔ s.HeldBack now f := by
  obtain ⟨gate, hreached, hleaves⟩ := exists_leaves rules service now f s
  cases gate with
  | cooldown => exact iff_of_true hleaves.1 hreached
  | status => exact iff_of_false (by simp [hleaves.1]) hreached.1
  | form reason => exact iff_of_false (by simp [hleaves.1]) hreached.1
  | call =>
    refine iff_of_false ?_ hreached.1
    have hsettled := hleaves.2.2
    cases hreply : service (f.contract rules.forms).call <;> rw [hreply] at hsettled <;>
      simp [hsettled.1]

/-- **What one action does to the cool-down** follows from its answer. -/
theorem heeds_perform (rules : AccountRules) (service : Service) (now : Nat) (f : Flow)
    (s : Session) :
    Cooldown.Heeds now rules.cooldown s.cooldown (s.perform rules service now f).session.cooldown
      (s.perform rules service now f).sent (s.perform rules service now f).result := by
  obtain ⟨gate, hreached, hleaves⟩ := exists_leaves rules service now f s
  cases gate with
  | cooldown | status | form _ =>
    obtain ⟨hresult, hsent, hsession⟩ := hleaves
    rw [hresult, hsession]
    exact ⟨hsent, rfl⟩
  | call =>
    obtain ⟨hsent, hlifts, hsettled⟩ := hleaves
    have hlifted : s.cooldown.isActive now = false := by
      have hheld := hreached.1
      rw [heldBack_iff, Bool.or_eq_true, not_or] at hheld
      exact Bool.not_eq_true _ ▸ hheld.2
    have hafter : (s.perform rules service now f).session.cooldown =
        s.cooldown.engage now rules.cooldown := congrArg Cooldown.mk hlifts
    cases hreply : service (f.contract rules.forms).call with
    | ok _ | error e =>
      rw [hreply] at hsettled
      rw [hsettled.1]
      exact ⟨hlifted, ⟨_, hsent⟩, hafter⟩

variable (rules : AccountRules) (s : Session) (events : List Event) (e : Event)

/-- What the actions of a run have sent. -/
def log : List Sending :=
  (events.zip (s.run rules events)).map fun (e, attempt) => ⟨e.now, attempt.sent⟩

/-- The last action of a run adds what it has sent. -/
lemma log_concat :
    s.log rules (events ++ [e]) =
      s.log rules events ++
        [⟨e.now, ((s.after rules events).perform rules e.service e.now e.flow).sent⟩] := by
  unfold log
  rw [run_concat, List.zip_append (s.length_run rules events).symm, List.map_append]
  rfl

/-- **The log of a session is paced.** -/
theorem paced_log :
    Cooldown.Paced rules.cooldown (fresh.log rules events) (fresh.after rules events).cooldown := by
  induction events using List.reverseRecOn with
  | nil => exact .start
  | append_singleton events e ih =>
    rw [log_concat, after_concat]
    exact ih.concat (heeds_perform rules e.service e.now e.flow _)

end Session

/-! ## Desks -/

/-- What is asked of a desk. -/
inductive DeskRequest
  /-- To remember a residence. -/
  | prefill (residence : Residence)
  /-- To post the review of a draft. -/
  | submit (draft : ReviewDraft)
  deriving DecidableEq, Repr

namespace Desk

/-- What is asked at a moment, with what would answer the call. -/
structure Event where
  /-- The moment in milliseconds. -/
  now : Nat
  /-- What is asked. -/
  request : DeskRequest
  /-- What would answer the call. -/
  service : Service

/-- A submission that is held back is told so, and no other is. -/
lemma result_eq_limited_iff (rules : DeskRules) (service : Service) (now : Nat)
    (draft : ReviewDraft) (d : Desk) :
    (d.submit rules service now draft).result = .error .limited ↔
      d.cooldown.isActive now = true := by
  unfold submit
  split
  · simp_all
  · split
    · simp_all
    · split <;> simp_all

/-- **What one submission does to the cool-down** follows from its answer. -/
theorem heeds_submit (rules : DeskRules) (service : Service) (now : Nat) (draft : ReviewDraft)
    (d : Desk) :
    Cooldown.Heeds now rules.cooldown d.cooldown (d.submit rules service now draft).desk.cooldown
      (d.submit rules service now draft).sent (d.submit rules service now draft).result := by
  unfold submit
  split
  · exact ⟨rfl, rfl⟩
  · rename_i hlifted
    rw [Bool.not_eq_true] at hlifted
    split
    · exact ⟨rfl, rfl⟩
    · split
      · exact ⟨hlifted, ⟨_, rfl⟩, rfl⟩
      · exact ⟨hlifted, ⟨_, rfl⟩, rfl⟩

variable (rules : DeskRules) (d : Desk)

/-- The desk after what is asked at a moment. -/
def next (e : Event) : Desk :=
  match e.request with
  | .prefill residence => d.prefill residence
  | .submit draft => (d.submit rules e.service e.now draft).desk

/-- What is sent for what is asked at a moment. -/
def sent (e : Event) : List Call :=
  match e.request with
  | .prefill _ => []
  | .submit draft => (d.submit rules e.service e.now draft).sent

/-- The desk at the end of a run. -/
def after (events : List Event) : Desk :=
  events.foldl (next rules) d

/-- What a run has sent. -/
def log (d : Desk) : List Event → List Sending
  | [] => []
  | e :: rest => ⟨e.now, d.sent rules e⟩ :: log (d.next rules e) rest

variable (events : List Event) (e : Event)

/-- The last request of a run is made to the desk after the others. -/
lemma after_concat : d.after rules (events ++ [e]) = (d.after rules events).next rules e := by
  simp [after]

/-- The last request of a run adds what is sent for it. -/
lemma log_concat :
    d.log rules (events ++ [e]) =
      d.log rules events ++ [⟨e.now, (d.after rules events).sent rules e⟩] := by
  induction events generalizing d with
  | nil => rfl
  | cons first events ih => exact congrArg (List.cons _) (ih _)

/-- **The log of a desk is paced.** -/
theorem paced_log :
    Cooldown.Paced rules.cooldown (fresh.log rules events) (fresh.after rules events).cooldown := by
  induction events using List.reverseRecOn with
  | nil => exact .start
  | append_singleton events e ih =>
    rw [log_concat, after_concat]
    obtain ⟨now, request, service⟩ := e
    cases request with
    | prefill residence => exact .quiet now ih
    | submit draft => exact ih.concat (heeds_submit rules service now draft _)

end Desk

/-! ## Runs -/

/-- **Calls keep their distance.** Whatever is asked of a session or of a desk, at whatever moments
and with whatever replies: any two of its calls are at least a cool-down apart. The next action is
held back exactly if it comes within a cool-down of a call, or is itself still counting down. An
action that is refused, for whatever reason, sends nothing and leaves the cool-down as it was, and
any other makes one call and starts it.

**Proof sketch.** Each action adds to the log what the cool-down allows (`Session.heeds_perform`,
`Desk.heeds_submit`), so the logs are paced, and paced logs keep their distance. -/
theorem calls_keep_their_distance :
    (∀ (rules : AccountRules) (events : List Session.Event),
      (sentAt (Session.fresh.log rules events)).Pairwise
        (fun earlier later => earlier + rules.cooldown ≤ later) ∧
      ∀ (service : Service) (now : Nat) (f : Flow),
        let s := Session.fresh.after rules events
        let attempt := s.perform rules service now f
        (attempt.result = .error .limited ↔
          (∃ moment ∈ sentAt (Session.fresh.log rules events), now < moment + rules.cooldown) ∨
            ∃ countdown, f = .resend countdown ∧ countdown ≠ 0) ∧
        s.cooldown.Heeds now rules.cooldown attempt.session.cooldown attempt.sent attempt.result) ∧
    ∀ (rules : DeskRules) (events : List Desk.Event),
      (sentAt (Desk.fresh.log rules events)).Pairwise
        (fun earlier later => earlier + rules.cooldown ≤ later) ∧
      ∀ (service : Service) (now : Nat) (draft : ReviewDraft),
        let d := Desk.fresh.after rules events
        let submission := d.submit rules service now draft
        (submission.result = .error .limited ↔
          ∃ moment ∈ sentAt (Desk.fresh.log rules events), now < moment + rules.cooldown) ∧
        d.cooldown.Heeds now rules.cooldown submission.desk.cooldown submission.sent
          submission.result := by
  constructor
  · intro rules events
    have hpaced := Session.paced_log rules events
    refine ⟨hpaced.pairwise_sentAt, fun service now f => ⟨?_, Session.heeds_perform ..⟩⟩
    rw [Session.result_eq_limited_iff, Session.HeldBack, ← hpaced.isActive_iff now,
      Cooldown.isActive]
    cases (Session.fresh.after rules events).cooldown.lifts <;> simp
  · intro rules events
    have hpaced := Desk.paced_log rules events
    refine ⟨hpaced.pairwise_sentAt, fun service now draft => ⟨?_, Desk.heeds_submit ..⟩⟩
    rw [Desk.result_eq_limited_iff, hpaced.isActive_iff now]

/-- With half a second between two calls the second of these is held back, and the third is not. -/
example :
    sentAt (Session.fresh.log (.ofSettings {})
      [⟨0, .resend 0, fun _ => .error (.client "no connection")⟩, ⟨499, .resend 0, fun _ => .ok ()⟩,
        ⟨500, .resend 0, fun _ => .ok ()⟩]) = [0, 500] := by
  rfl

end CampusBoard
