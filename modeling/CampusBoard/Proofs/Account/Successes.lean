import CampusBoard.Proofs.Account.Gates
import CampusBoard.Proofs.Histories

/-!
# Statuses are what the successful actions have left

Nothing but a successful action moves a session from status to status. So the statuses that hold at
the end of a run can be read off the actions that succeeded in it, and an action that asks for a
status cannot succeed before another one has brought it.

## Design

`Status.setters` and `Status.clearers` say which kinds of actions bring a status and which take it,
apart from what the actions are made of. A run is reduced to the kinds of its successful actions.
Such a list of kinds is `Earned` if each action on it that takes a status found that status at its
place, and everything about the order and the number of actions follows from that alone: neither
the replies of the service nor the moments of the actions play a part any more.

## Main definitions

* `CampusBoard.Session.after`, `CampusBoard.Session.successes`: the end of a run, and the kinds of
  the actions that succeeded in it.
* `CampusBoard.Status.LastBrought`: the last of the actions that bring or take a status brings it.
* `CampusBoard.Earned`: each action that takes a status found it.

## Main results

* `CampusBoard.Session.holds_after`: a status holds if it was brought last.
* `CampusBoard.Session.earned_successes`: the successful actions of a run are earned.
* `CampusBoard.Session.statuses_follow_successes`: what that means for each of the actions.
-/

set_option autoImplicit false

namespace CampusBoard

/-! ## Kinds of actions -/

/-- The kinds of actions, whatever the user typed. -/
inductive FlowKind
  /-- Signs in. -/
  | login
  /-- Signs up. -/
  | signup
  /-- Asks for a code that allows a new password. -/
  | forgot
  /-- Completes signing in. -/
  | verify
  /-- Proves that a new password may be set. -/
  | verifyForget
  /-- Sets a new password. -/
  | update
  /-- Signs out. -/
  | signout
  /-- Asks for another code. -/
  | resend
  deriving DecidableEq, Repr

/-- The kind of an action. -/
def Flow.kind : Flow → FlowKind
  | .login _ _ => .login
  | .signup _ _ _ => .signup
  | .forgot _ => .forgot
  | .verify _ => .verify
  | .verifyForget _ => .verifyForget
  | .update _ => .update
  | .signout => .signout
  | .resend _ => .resend

/-- The actions of different kinds are counted kind by kind. -/
lemma FlowKind.countP_mem_cons {kind : FlowKind} {kinds done : List FlowKind}
    (h : kind ∉ kinds) :
    done.countP (· ∈ kind :: kinds) = done.count kind + done.countP (· ∈ kinds) := by
  induction done with
  | nil => rfl
  | cons first done ih =>
    rw [List.countP_cons, List.countP_cons, List.count_cons, ih]
    by_cases hfirst : first = kind
    · subst hfirst
      simp [h]
      omega
    · simp [hfirst]
      omega

/-- The actions of one kind are counted as they are. -/
lemma FlowKind.countP_mem_singleton (kind : FlowKind) (done : List FlowKind) :
    done.countP (· ∈ [kind]) = done.count kind := by
  rw [FlowKind.countP_mem_cons (List.not_mem_nil)]
  simp

namespace Status

/-- The actions that bring a status. -/
def setters : Status → List FlowKind
  | .signedIn => [.verify, .update]
  | .verifying => [.login, .signup]
  | .verifyingForgot => [.forgot]
  | .verifyingUpdate => [.verifyForget]

/-- The actions that take a status. -/
def clearers : Status → List FlowKind
  | .signedIn => [.signout]
  | .verifying => [.verify]
  | .verifyingForgot => [.verifyForget]
  | .verifyingUpdate => [.update]

/-- The last action that brings or takes a status brings it. -/
def LastBrought (status : Status) : List FlowKind → Prop :=
  Since (fun _ kind => kind ∈ status.setters)
    fun kind => kind ∈ status.setters ∨ kind ∈ status.clearers

variable (status : Status)

/-- A status was brought last if the last action brings it, or if it was before and the last action
does not take it. -/
lemma lastBrought_concat (done : List FlowKind) (kind : FlowKind) :
    status.LastBrought (done ++ [kind]) ↔
      kind ∈ status.setters ∨ status.LastBrought done ∧ kind ∉ status.clearers := by
  rw [LastBrought, since_concat]
  tauto

/-- An action that takes a status does not bring it. -/
lemma notMem_setters_of_mem_clearers {kind : FlowKind} (h : kind ∈ status.clearers) :
    kind ∉ status.setters := by
  cases status <;> cases kind <;> simp_all [setters, clearers]

end Status

/-! ## Earned actions -/

/-- Each action on a list that takes a status found it at its place: the status had been brought and
not been taken since. -/
def Earned (done : List FlowKind) : Prop :=
  ∀ before kind later, done = before ++ kind :: later →
    ∀ status : Status, kind ∈ status.clearers → status.LastBrought before

namespace Earned

/-- At first there is nothing to earn. -/
lemma nil : Earned [] := by
  intro before kind later hdone
  simp at hdone

/-- A list of earned actions grows by one that found what it takes. -/
lemma concat_iff {done : List FlowKind} {kind : FlowKind} :
    Earned (done ++ [kind]) ↔
      Earned done ∧ ∀ status : Status, kind ∈ status.clearers → status.LastBrought done := by
  constructor
  · intro h
    refine ⟨?_, h done kind [] rfl⟩
    intro before other later hdone
    exact h before other (later ++ [kind]) (by simp [hdone])
  · rintro ⟨hdone, hkind⟩ before other later hsplit
    rcases split_concat hsplit with ⟨rfl, rfl, rfl⟩ | ⟨rest, rfl, hrest⟩
    · exact hkind
    · exact hdone before other rest hrest

/-- **A status is taken at most as often as it is brought**, and less often while it holds.

**Proof sketch.** Induction on the list from its end. An action that takes the status found it, so
the status had been brought more often than taken before. -/
theorem countP_clearers_le {done : List FlowKind} (h : Earned done) (status : Status) :
    done.countP (· ∈ status.clearers) ≤ done.countP (· ∈ status.setters) ∧
      (status.LastBrought done →
        done.countP (· ∈ status.clearers) < done.countP (· ∈ status.setters)) := by
  induction done using List.reverseRecOn with
  | nil => exact ⟨Nat.le_refl _, fun hbrought => absurd hbrought (not_since_nil _ _)⟩
  | append_singleton done kind ih =>
    obtain ⟨hdone, hkind⟩ := concat_iff.mp h
    obtain ⟨hle, hlt⟩ := ih hdone
    rw [status.lastBrought_concat, List.countP_append, List.countP_append, List.countP_singleton,
      List.countP_singleton]
    by_cases hclear : kind ∈ status.clearers
    · have hset := status.notMem_setters_of_mem_clearers hclear
      have hfound := hlt (hkind status hclear)
      simp only [hclear, hset, decide_true, decide_false, Bool.false_eq_true, if_true, if_false,
        not_true, and_false, or_false, false_implies, and_true]
      omega
    · by_cases hset : kind ∈ status.setters
      · simp only [hclear, hset, decide_true, decide_false, Bool.false_eq_true, if_true, if_false]
        omega
      · simpa [hclear, hset] using ⟨hle, hlt⟩

/-- **A new password is earned by a proof of its own, and that by a code of its own.** While a new
password may be set, the last proof was not used up by another new password, and the code before
it was not used up by another proof. -/
theorem exists_forgot_verifyForget {done : List FlowKind} (h : Earned done)
    (hupdate : Status.verifyingUpdate.LastBrought done) :
    ∃ first second third, done = first ++ .forgot :: second ++ .verifyForget :: third ∧
      .verifyForget ∉ second ∧ .update ∉ third := by
  obtain ⟨before, kind, third, rfl, hkind, hthird⟩ := hupdate
  obtain rfl : kind = .verifyForget := by simpa [Status.setters] using hkind
  have hforgot : Status.verifyingForgot.LastBrought before :=
    h before .verifyForget third rfl .verifyingForgot (by simp [Status.clearers])
  obtain ⟨first, kind, second, rfl, hkind, hsecond⟩ := hforgot
  obtain rfl : kind = .forgot := by simpa [Status.setters] using hkind
  refine ⟨first, second, third, by simp, ?_, ?_⟩
  · intro hmem
    exact hsecond _ hmem (.inr (by simp [Status.clearers]))
  · intro hmem
    exact hthird _ hmem (.inr (by simp [Status.clearers]))

end Earned

/-! ## One action -/

namespace Flow

/-- An action brings the statuses of its row. -/
lemma kind_mem_setters_iff (a : AccountSettings) (f : Flow) (status : Status) :
    f.kind ∈ status.setters ↔ status ∈ (f.contract a).sets := by
  cases f <;> cases status <;> simp [kind, Status.setters, contract]

/-- An action takes the statuses of its row. -/
lemma kind_mem_clearers_iff (a : AccountSettings) (f : Flow) (status : Status) :
    f.kind ∈ status.clearers ↔ status ∈ (f.contract a).clears := by
  cases f <;> cases status <;> simp [kind, Status.clearers, contract]

/-- An action asks for each status that it takes. -/
lemma requires_of_mem_clearers (a : AccountSettings) (f : Flow) {status : Status}
    (h : f.kind ∈ status.clearers) : (f.contract a).requires = some status := by
  cases f <;> cases status <;> simp_all [kind, Status.clearers, contract]

end Flow

namespace Session

variable {rules : AccountRules} {service : Service} {now : Nat} {f : Flow} {s : Session}

variable (rules service now f s) in
/-- An action does what some gate says. -/
lemma exists_leaves : ∃ gate : Gate, gate.Reached rules now f s ∧
    gate.Leaves rules service now (f.contract rules.forms) s (s.perform rules service now f) := by
  obtain ⟨gate, hreached⟩ := Gate.exists_reached rules now f s
  exact ⟨gate, hreached, Gate.leaves_of_reached hreached⟩

/-- An action that sent something found each status that it takes. -/
lemma holds_of_sent (hsent : (s.perform rules service now f).sent ≠ []) {status : Status}
    (hstatus : f.kind ∈ status.clearers) : s.statuses.holds status = true := by
  obtain ⟨gate, hreached, hleaves⟩ := exists_leaves rules service now f s
  cases gate with
  | cooldown | status | form _ => exact absurd hleaves.2.1 hsent
  | call =>
    obtain ⟨-, hbarred, -⟩ := hreached
    by_contra hholds
    exact hbarred ⟨status, f.requires_of_mem_clearers rules.forms hstatus, by simpa using hholds⟩

/-- Only an action that sent something succeeds. -/
lemma sent_of_result (hresult : (s.perform rules service now f).result = .ok ()) :
    (s.perform rules service now f).sent ≠ [] := by
  obtain ⟨gate, hreached, hleaves⟩ := exists_leaves rules service now f s
  cases gate with
  | cooldown | status | form _ => simp [hleaves.1] at hresult
  | call => simp [hleaves.1]

/-- **What one action does to the statuses.** If it succeeds it brings and takes what its kind says,
and else it leaves them alone. -/
theorem holds_perform (status : Status) :
    (s.perform rules service now f).session.statuses.holds status = true ↔
      if (s.perform rules service now f).result = .ok () then
        f.kind ∈ status.setters ∨ s.statuses.holds status = true ∧ f.kind ∉ status.clearers
      else s.statuses.holds status = true := by
  obtain ⟨gate, hreached, hleaves⟩ := exists_leaves rules service now f s
  cases gate with
  | cooldown | status | form _ => simp [hleaves.1, hleaves.2.2]
  | call =>
    obtain ⟨-, -, hsettled⟩ := hleaves
    cases hreply : service (f.contract rules.forms).call with
    | ok _ =>
      rw [hreply] at hsettled
      obtain ⟨hresult, -, hstatuses⟩ := hsettled
      rw [if_pos hresult, hstatuses, f.kind_mem_setters_iff rules.forms,
        f.kind_mem_clearers_iff rules.forms]
    | error e =>
      rw [hreply] at hsettled
      obtain ⟨hresult, -, hstatuses⟩ := hsettled
      simp [hresult, hstatuses]

end Session

/-! ## Runs -/

namespace Session

variable (rules : AccountRules) (s : Session) (events : List Event) (e : Event)

/-- The session at the end of a run. -/
def after : Session :=
  ((s.run rules events).getLast?.map Attempt.session).getD s

/-- The kinds of the actions of a run that succeeded, in their order. -/
def successes : List FlowKind :=
  (events.zip (s.run rules events)).filterMap fun (e, attempt) =>
    match attempt.result with
    | .ok _ => some e.flow.kind
    | .error _ => none

/-- Each action of a run leads to one attempt. -/
lemma length_run : (s.run rules events).length = events.length := by
  induction events generalizing s with
  | nil => rfl
  | cons e events ih => simp [run, ih]

/-- The last action of a run starts from the session after the others. -/
lemma run_concat :
    s.run rules (events ++ [e]) =
      s.run rules events ++ [(s.after rules events).perform rules e.service e.now e.flow] := by
  induction events generalizing s with
  | nil => rfl
  | cons first events ih =>
    rw [List.cons_append, run, ih, run, List.cons_append]
    congr 4
    unfold after
    rw [run, List.getLast?_cons]
    cases (run rules (s.perform rules first.service first.now first.flow).session events).getLast?
      <;> rfl

/-- A run ends where its last action leaves it. -/
lemma after_concat :
    s.after rules (events ++ [e]) =
      ((s.after rules events).perform rules e.service e.now e.flow).session := by
  rw [after, run_concat, List.getLast?_concat]
  rfl

/-- The last action of a run is one of the successful ones if it succeeds. -/
lemma successes_concat :
    s.successes rules (events ++ [e]) =
      if ((s.after rules events).perform rules e.service e.now e.flow).result = .ok () then
        s.successes rules events ++ [e.flow.kind]
      else s.successes rules events := by
  unfold successes
  rw [run_concat, List.zip_append (s.length_run rules events).symm, List.filterMap_append]
  cases hresult : ((s.after rules events).perform rules e.service e.now e.flow).result <;>
    simp [hresult]

/-- **A status holds at the end of a run if it was brought last.**

**Proof sketch.** Induction on the run from its end; an action that fails changes neither the
statuses nor the successful actions. -/
theorem holds_after (status : Status) :
    (fresh.after rules events).statuses.holds status = true ↔
      status.LastBrought (fresh.successes rules events) := by
  induction events using List.reverseRecOn with
  | nil =>
    refine iff_of_false ?_ (not_since_nil _ _)
    cases status <;> exact Bool.false_ne_true
  | append_singleton events e ih =>
    rw [after_concat, holds_perform, successes_concat]
    split
    · rw [Status.lastBrought_concat, ih]
    · exact ih

/-- **The successful actions of a run are earned.** -/
theorem earned_successes : Earned (fresh.successes rules events) := by
  induction events using List.reverseRecOn with
  | nil => exact Earned.nil
  | append_singleton events e ih =>
    rw [successes_concat]
    split
    · rename_i hresult
      refine Earned.concat_iff.mpr ⟨ih, ?_⟩
      intro status hstatus
      rw [← holds_after]
      exact holds_of_sent (sent_of_result hresult) hstatus
    · exact ih

/-- **Statuses follow the successful actions.** After any actions, with any input, at any moments
and with any replies of the service: a status holds exactly if the last successful action that
brings or takes it brings it. So codes are confirmed at most as often as users sign in or up, new
passwords are set at most as often as proofs succeed, and proofs at most as often as codes for them
are asked for; and whatever comes next, a new password is only ever sent after a proof that no
other new password has used up, which came after a code that no other proof has used up.

**Proof sketch.** The statuses are those that were brought last (`holds_after`), the successful
actions are earned (`earned_successes`), and the rest is true of all lists of earned actions. -/
theorem statuses_follow_successes :
    (∀ status : Status, (fresh.after rules events).statuses.holds status = true ↔
      ∃ before kind later, fresh.successes rules events = before ++ kind :: later ∧
        kind ∈ status.setters ∧
        ∀ other ∈ later, ¬(other ∈ status.setters ∨ other ∈ status.clearers)) ∧
    (fresh.successes rules events).count .verify ≤
      (fresh.successes rules events).count .login + (fresh.successes rules events).count .signup ∧
    (fresh.successes rules events).count .update ≤
      (fresh.successes rules events).count .verifyForget ∧
    (fresh.successes rules events).count .verifyForget ≤
      (fresh.successes rules events).count .forgot ∧
    ∀ (service : Service) (now : Nat) (password : String),
      ((fresh.after rules events).perform rules service now (.update password)).sent ≠ [] →
        ∃ first second third,
          fresh.successes rules events = first ++ .forgot :: second ++ .verifyForget :: third ∧
          .verifyForget ∉ second ∧ .update ∉ third := by
  have hearned := earned_successes rules events
  refine ⟨holds_after rules events, ?_, ?_, ?_, ?_⟩
  · have h := (hearned.countP_clearers_le .verifying).1
    rwa [Status.clearers, Status.setters, FlowKind.countP_mem_singleton,
      FlowKind.countP_mem_cons (by decide), FlowKind.countP_mem_singleton] at h
  · have h := (hearned.countP_clearers_le .verifyingUpdate).1
    rwa [Status.clearers, Status.setters, FlowKind.countP_mem_singleton,
      FlowKind.countP_mem_singleton] at h
  · have h := (hearned.countP_clearers_le .verifyingForgot).1
    rwa [Status.clearers, Status.setters, FlowKind.countP_mem_singleton,
      FlowKind.countP_mem_singleton] at h
  · intro service now password hsent
    refine hearned.exists_forgot_verifyForget ((holds_after rules events _).mp ?_)
    exact holds_of_sent hsent (by simp [Flow.kind, Status.clearers])

/-- A user who forgot the password asks for a code, tries a wrong one too soon, and then proves with
the right one that a new password may be set. -/
def resetPassword : List Event :=
  [⟨0, .forgot "pete@purdue.edu", fun _ => .ok ()⟩,
    ⟨100, .verifyForget "000000", fun _ => .error (.status 401 "wrong code")⟩,
    ⟨1000, .verifyForget "654321", fun _ => .ok ()⟩]

/-- The new password of that user is sent, after one code and one proof. -/
theorem statuses_follow_successes_resetPassword :
    fresh.successes (.ofSettings {}) resetPassword = [.forgot, .verifyForget] ∧
      ((fresh.after (.ofSettings {}) resetPassword).perform (.ofSettings {}) (fun _ => .ok ()) 2000
        (.update "new-password-123")).sent ≠ [] ∧
      ∃ first second third,
        fresh.successes (.ofSettings {}) resetPassword =
          first ++ .forgot :: second ++ .verifyForget :: third ∧
        .verifyForget ∉ second ∧ .update ∉ third := by
  have hsent : ((fresh.after (.ofSettings {}) resetPassword).perform (.ofSettings {})
      (fun _ => .ok ()) 2000 (.update "new-password-123")).sent ≠ [] :=
    List.isEmpty_eq_false_iff.mp rfl
  have hdone : fresh.successes (.ofSettings {}) resetPassword = [.forgot, .verifyForget] := rfl
  exact ⟨hdone, hsent, (statuses_follow_successes _ resetPassword).2.2.2.2 _ _ _ hsent⟩

end Session

end CampusBoard
