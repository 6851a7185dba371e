import CampusBoard.Account.Session
import Mathlib.Tactic.Common
import Mathlib.Tactic.Lemma

/-!
# Every action on an account ends at exactly one gate

An action on an account can be held back by the cool-down, barred by a status that does not hold,
refused for what the user typed, or let through to its call. It always ends at exactly one of these
gates, and each gate says all of what the action answers, what it sends and what it leaves of the
session.

## Design

`Flow.contract` writes down what each of the eight actions asks for and does as one row of a table,
apart from the functions that the actions are made of. The gates are stated over these rows only.
The checks of a form are a list there, so that the reason for a refusal is the first failure of the
list.

## Main definitions

* `CampusBoard.FlowContract`, `CampusBoard.Flow.contract`: what an action asks for and does.
* `CampusBoard.Forms.FirstFailure`: the first check of a list that fails.
* `CampusBoard.Gate`, `CampusBoard.Gate.Reached`, `CampusBoard.Gate.Leaves`: where an action ends,
  when it ends there, and what it leaves.

## Main results

* `CampusBoard.Gate.reached_unique`: an action reaches no two gates.
* `CampusBoard.Session.ends_at_exactly_one_gate`: it reaches one, and does what the gate says.
-/

set_option autoImplicit false

namespace CampusBoard

/-! ## Checks in order -/

namespace Forms

/-- The first check of a list that fails gives this reason. -/
def FirstFailure (checks : List Check) (reason : ValidationError) : Prop :=
  ∃ before after, checks = before ++ .error reason :: after ∧ ∀ check ∈ before, check = .ok ()

/-- Checks one after another, up to the first that fails. -/
def inOrder : List Check → Check
  | [] => .ok ()
  | .ok _ :: rest => inOrder rest
  | .error reason :: _ => .error reason

/-- The later checks are made if the first one succeeds. -/
lemma inOrder_cons (check : Check) (rest : List Check) :
    inOrder (check :: rest) = check >>= fun _ => inOrder rest := by
  cases check <;> rfl

/-- A single check in order is the check itself. -/
lemma inOrder_singleton (check : Check) : inOrder [check] = check := by
  cases check <;> rfl

/-- Checks succeed together when each of them does. -/
lemma inOrder_eq_ok_iff (checks : List Check) :
    inOrder checks = .ok () ↔ ∀ check ∈ checks, check = .ok () := by
  induction checks with
  | nil => simp [inOrder]
  | cons check rest ih => cases check <;> simp [inOrder, ih]

/-- Checks fail together with the reason of the first that fails. -/
lemma inOrder_eq_error_iff (checks : List Check) (reason : ValidationError) :
    inOrder checks = .error reason ↔ FirstFailure checks reason := by
  induction checks with
  | nil => simp [inOrder, FirstFailure]
  | cons check rest ih =>
    cases check with
    | ok _ =>
      rw [inOrder, ih]
      constructor
      · rintro ⟨before, after, rfl, hbefore⟩
        exact ⟨.ok () :: before, after, rfl, by simpa using hbefore⟩
      · rintro ⟨before, after, hchecks, hbefore⟩
        cases before with
        | nil => simp at hchecks
        | cons first before =>
          obtain ⟨-, rfl⟩ := List.cons.inj hchecks
          refine ⟨before, after, rfl, ?_⟩
          intro check hcheck
          exact hbefore check (List.mem_cons_of_mem _ hcheck)
    | error reason' =>
      rw [inOrder]
      constructor
      · intro h
        obtain rfl : reason' = reason := by simpa using h
        exact ⟨[], rest, rfl, by simp⟩
      · rintro ⟨before, after, hchecks, hbefore⟩
        cases before with
        | nil => exact (List.cons.inj hchecks).1
        | cons first before =>
          obtain ⟨rfl, -⟩ := List.cons.inj hchecks
          exact absurd (hbefore _ List.mem_cons_self) (by simp)

end Forms

/-! ## What the actions ask for and do -/

/-- What an action on an account asks for and does. -/
structure FlowContract where
  /-- The status without which it is not permitted. -/
  requires : Option Status
  /-- The checks of what the user typed, in their order. -/
  checks : List Forms.Check
  /-- The method of its call. -/
  method : Method
  /-- The path of its call. -/
  path : String
  /-- What its call sends along. -/
  body : Option Json
  /-- The statuses that it ends. -/
  clears : List Status
  /-- The statuses that it starts. -/
  sets : List Status

/-- The call of an action. -/
def FlowContract.call (k : FlowContract) : Call :=
  ⟨k.method, k.path, k.body⟩

/-- The eight actions. -/
def Flow.contract (a : AccountSettings) : Flow → FlowContract
  | .login email password =>
    { requires := none
      checks := [Forms.email a email, Forms.password a password]
      method := .post
      path := "/authenticate"
      body := some (.object
        [("email", .text email), ("password", .text password), ("action", .text "login")])
      clears := []
      sets := [.verifying] }
  | .signup email password confirm =>
    { requires := none
      checks := [Forms.email a email, Forms.password a password,
        Forms.confirmation password confirm]
      method := .post
      path := "/authenticate"
      body := some (.object
        [("email", .text email), ("password", .text password), ("action", .text "signup")])
      clears := []
      sets := [.verifying] }
  | .forgot email =>
    { requires := none
      checks := [Forms.email a email]
      method := .post
      path := "/forgot"
      body := some (.object [("token", .text email)])
      clears := []
      sets := [.verifyingForgot] }
  | .verify code =>
    { requires := some .verifying
      checks := [Forms.code a code]
      method := .post
      path := "/verify"
      body := some (.object [("token", .text code)])
      clears := [.verifying]
      sets := [.signedIn] }
  | .verifyForget code =>
    { requires := some .verifyingForgot
      checks := [Forms.code a code]
      method := .post
      path := "/verify"
      body := some (.object [("token", .text code)])
      clears := [.verifyingForgot]
      sets := [.verifyingUpdate] }
  | .update password =>
    { requires := some .verifyingUpdate
      checks := [Forms.password a password]
      method := .post
      path := "/verify"
      body := some (.object [("token", .text password)])
      clears := [.verifyingUpdate]
      sets := [.signedIn] }
  | .signout =>
    { requires := some .signedIn
      checks := []
      method := .delete
      path := "/delete"
      body := none
      clears := [.signedIn]
      sets := [] }
  | .resend _ =>
    { requires := none
      checks := []
      method := .post
      path := "/resend"
      body := none
      clears := []
      sets := [] }

namespace Flow

variable (a : AccountSettings) (f : Flow)

/-- An action asks for the status of its row. -/
lemma required?_eq_requires : f.required? = (f.contract a).requires := by
  cases f <;> rfl

/-- An action makes the call of its row. -/
lemma call_eq_call : f.call = (f.contract a).call := by
  cases f <;> rfl

/-- An action checks what its row lists, in that order. -/
lemma check_eq_inOrder : f.check a = Forms.inOrder (f.contract a).checks := by
  cases f with
  | login email password =>
    rw [contract, Forms.inOrder_cons, Forms.inOrder_singleton]
    rfl
  | signup email password confirm =>
    rw [contract, Forms.inOrder_cons, Forms.inOrder_cons, Forms.inOrder_singleton]
    rfl
  | forgot email => exact (Forms.inOrder_singleton _).symm
  | verify code => exact (Forms.inOrder_singleton _).symm
  | verifyForget code => exact (Forms.inOrder_singleton _).symm
  | update password => exact (Forms.inOrder_singleton _).symm
  | signout => rfl
  | resend countdown => rfl

/-- A status holds after an action if the action starts it, or if it held and the action does not
end it. -/
lemma holds_transition (s : Statuses) (status : Status) :
    (f.transition s).holds status = true ↔
      status ∈ (f.contract a).sets ∨
        s.holds status = true ∧ status ∉ (f.contract a).clears := by
  cases f <;> cases status <;>
    simp [transition, clears, sets, contract, Statuses.setIfSome, Statuses.holds_set]

end Flow

/-! ## The gates -/

/-- Where an action ends. -/
inductive Gate
  /-- At the cool-down, or at its own countdown. -/
  | cooldown
  /-- At the status that it asks for. -/
  | status
  /-- At what the user typed, for a reason. -/
  | form (reason : ValidationError)
  /-- At its call. -/
  | call

namespace Session

/-- An action comes too soon: the cool-down lifts later, or its own countdown still runs. -/
def HeldBack (now : Nat) (f : Flow) (s : Session) : Prop :=
  (∃ moment, s.cooldown.lifts = some moment ∧ now < moment) ∨
    ∃ countdown, f = .resend countdown ∧ countdown ≠ 0

/-- The status that an action asks for does not hold. -/
def Barred (k : FlowContract) (s : Session) : Prop :=
  ∃ status, k.requires = some status ∧ s.statuses.holds status = false

end Session

namespace Gate

/-- When an action gets as far as a gate and no further. -/
def Reached (rules : AccountRules) (now : Nat) (f : Flow) (s : Session) : Gate → Prop
  | .cooldown => s.HeldBack now f
  | .status => ¬s.HeldBack now f ∧ s.Barred (f.contract rules.forms)
  | .form reason =>
    ¬s.HeldBack now f ∧ ¬s.Barred (f.contract rules.forms) ∧
      Forms.FirstFailure (f.contract rules.forms).checks reason
  | .call =>
    ¬s.HeldBack now f ∧ ¬s.Barred (f.contract rules.forms) ∧
      ∀ check ∈ (f.contract rules.forms).checks, check = .ok ()

/-- What an action that made its call leaves once the reply is there. -/
def Settled (rules : AccountRules) (k : FlowContract) (s : Session) (attempt : Attempt) :
    Except TransportError Unit → Prop
  | .ok _ =>
    attempt.result = .ok () ∧ attempt.session.error = "" ∧
      ∀ status, attempt.session.statuses.holds status = true ↔
        status ∈ k.sets ∨ s.statuses.holds status = true ∧ status ∉ k.clears
  | .error e =>
    attempt.result = .error (.transport e) ∧
      attempt.session.error = e.userMessage rules.forms.errorMaxChars.toNat ∧
      attempt.session.statuses = s.statuses

/-- What an action that ends at a gate answers, sends and leaves of the session. -/
def Leaves (rules : AccountRules) (service : Service) (now : Nat) (k : FlowContract) (s : Session)
    (attempt : Attempt) : Gate → Prop
  | .cooldown => attempt.result = .error .limited ∧ attempt.sent = [] ∧ attempt.session = s
  | .status => attempt.result = .error .notPermitted ∧ attempt.sent = [] ∧ attempt.session = s
  | .form reason =>
    attempt.result = .error (.validation reason) ∧ attempt.sent = [] ∧
      attempt.session = { s with error := reason.message }
  | .call =>
    attempt.sent = [k.call] ∧ attempt.session.cooldown.lifts = some (now + rules.cooldown) ∧
      Settled rules k s attempt (service k.call)

end Gate

/-! ## An action at each gate -/

section Perform

variable {rules : AccountRules} {service : Service} {now : Nat} {f : Flow} {s : Session}

/-- An action comes too soon exactly if the cool-down or its countdown says so. -/
lemma Session.heldBack_iff :
    s.HeldBack now f ↔ (f.isCountingDown || s.cooldown.isActive now) = true := by
  have hcountdown : (∃ countdown, f = .resend countdown ∧ countdown ≠ 0) ↔
      f.isCountingDown = true := by
    cases f <;> simp [Flow.isCountingDown]
  rw [Session.HeldBack, ← Cooldown.isActive_eq_true_iff, hcountdown, Bool.or_eq_true, or_comm]

/-- An action is barred exactly if the session does not permit it. -/
lemma Session.barred_iff :
    s.Barred (f.contract rules.forms) ↔ s.permits f = false := by
  rw [Session.Barred, Session.permits, ← Flow.required?_eq_requires]
  cases f.required? <;> simp

/-- An action that comes too soon changes nothing. -/
lemma Session.perform_of_heldBack (hheld : s.HeldBack now f) :
    s.perform rules service now f = ⟨s, [], .error .limited⟩ := by
  rw [Session.perform, if_pos (Session.heldBack_iff.mp hheld)]

/-- An action that is barred changes nothing. -/
lemma Session.perform_of_barred (hheld : ¬s.HeldBack now f)
    (hbarred : s.Barred (f.contract rules.forms)) :
    s.perform rules service now f = ⟨s, [], .error .notPermitted⟩ := by
  rw [Session.heldBack_iff] at hheld
  rw [Session.barred_iff] at hbarred
  rw [Session.perform, if_neg hheld, hbarred]
  rfl

/-- An action that is neither held back nor barred comes to its checks. -/
lemma Session.perform_of_permitted (hheld : ¬s.HeldBack now f)
    (hbarred : ¬s.Barred (f.contract rules.forms)) :
    s.perform rules service now f =
      match Forms.inOrder (f.contract rules.forms).checks with
      | .error e => ⟨{ s with error := e.message }, [], .error (.validation e)⟩
      | .ok _ =>
        let waiting := { s with cooldown := s.cooldown.engage now rules.cooldown }
        let (session, result) := Session.settle rules f waiting (service f.call)
        ⟨session, [f.call], result⟩ := by
  rw [Session.heldBack_iff] at hheld
  rw [Session.barred_iff, Bool.not_eq_false] at hbarred
  rw [Session.perform, if_neg hheld, hbarred, ← Flow.check_eq_inOrder]
  rfl

/-- An action whose form is refused reports why. -/
lemma Session.perform_of_firstFailure {reason : ValidationError} (hheld : ¬s.HeldBack now f)
    (hbarred : ¬s.Barred (f.contract rules.forms))
    (hfailure : Forms.FirstFailure (f.contract rules.forms).checks reason) :
    s.perform rules service now f =
      ⟨{ s with error := reason.message }, [], .error (.validation reason)⟩ := by
  rw [Session.perform_of_permitted hheld hbarred, (Forms.inOrder_eq_error_iff _ _).mpr hfailure]

/-- An action whose form is accepted starts the cool-down and makes its call. -/
lemma Session.perform_of_accepted (hheld : ¬s.HeldBack now f)
    (hbarred : ¬s.Barred (f.contract rules.forms))
    (hchecks : ∀ check ∈ (f.contract rules.forms).checks, check = .ok ()) :
    s.perform rules service now f =
      let waiting := { s with cooldown := s.cooldown.engage now rules.cooldown }
      let settled := Session.settle rules f waiting (service f.call)
      ⟨settled.1, [f.call], settled.2⟩ := by
  rw [Session.perform_of_permitted hheld hbarred, (Forms.inOrder_eq_ok_iff _).mpr hchecks]

/-- The reply to the call settles the action as its gate says. -/
lemma Gate.settled_settle (waiting : Session) (hstatuses : waiting.statuses = s.statuses)
    (sent : List Call) (reply : Except TransportError Unit) :
    Gate.Settled rules (f.contract rules.forms) s
      ⟨(Session.settle rules f waiting reply).1, sent, (Session.settle rules f waiting reply).2⟩
      reply := by
  cases reply with
  | ok _ =>
    refine ⟨rfl, rfl, ?_⟩
    intro status
    rw [← hstatuses]
    exact Flow.holds_transition rules.forms f waiting.statuses status
  | error e => exact ⟨rfl, rfl, hstatuses⟩

/-- Settling an action leaves the cool-down alone. -/
lemma Session.cooldown_settle (waiting : Session) (reply : Except TransportError Unit) :
    (Session.settle rules f waiting reply).1.cooldown = waiting.cooldown := by
  cases reply <;> rfl

/-- An action does what the gate that it reaches says. -/
lemma Gate.leaves_of_reached {gate : Gate} (hreached : gate.Reached rules now f s) :
    gate.Leaves rules service now (f.contract rules.forms) s (s.perform rules service now f) := by
  cases gate with
  | cooldown =>
    rw [Session.perform_of_heldBack hreached]
    exact ⟨rfl, rfl, rfl⟩
  | status =>
    obtain ⟨hheld, hbarred⟩ := hreached
    rw [Session.perform_of_barred hheld hbarred]
    exact ⟨rfl, rfl, rfl⟩
  | form reason =>
    obtain ⟨hheld, hbarred, hfailure⟩ := hreached
    rw [Session.perform_of_firstFailure hheld hbarred hfailure]
    exact ⟨rfl, rfl, rfl⟩
  | call =>
    obtain ⟨hheld, hbarred, hchecks⟩ := hreached
    rw [Session.perform_of_accepted hheld hbarred hchecks, Flow.call_eq_call rules.forms]
    refine ⟨rfl, ?_, Gate.settled_settle _ rfl _ _⟩
    exact congrArg Cooldown.lifts (Session.cooldown_settle _ _)

/-- An action always reaches a gate. -/
lemma Gate.exists_reached (rules : AccountRules) (now : Nat) (f : Flow) (s : Session) :
    ∃ gate : Gate, gate.Reached rules now f s := by
  by_cases hheld : s.HeldBack now f
  · exact ⟨.cooldown, hheld⟩
  by_cases hbarred : s.Barred (f.contract rules.forms)
  · exact ⟨.status, hheld, hbarred⟩
  cases hchecks : Forms.inOrder (f.contract rules.forms).checks with
  | ok _ => exact ⟨.call, hheld, hbarred, (Forms.inOrder_eq_ok_iff _).mp hchecks⟩
  | error reason =>
    exact ⟨.form reason, hheld, hbarred, (Forms.inOrder_eq_error_iff _ _).mp hchecks⟩

/-- **An action reaches no two gates.** The checks of a form have one outcome, so a form is not
refused for two reasons, nor refused and accepted.

**Proof sketch.** Each gate comes with the reason why the earlier ones were passed, which leaves the
two gates behind the checks; those are read off one outcome of `inOrder`. -/
theorem Gate.reached_unique {gate other : Gate} (hgate : gate.Reached rules now f s)
    (hother : other.Reached rules now f s) : gate = other := by
  cases gate with
  | cooldown =>
    cases other with
    | cooldown => rfl
    | status | form _ | call => exact absurd hgate hother.1
  | status =>
    cases other with
    | status => rfl
    | cooldown => exact absurd hother hgate.1
    | form _ | call => exact absurd hgate.2 hother.2.1
  | form reason =>
    have houtcome := (Forms.inOrder_eq_error_iff _ _).mpr hgate.2.2
    cases other with
    | cooldown => exact absurd hother hgate.1
    | status => exact absurd hother.2 hgate.2.1
    | form reason' =>
      rw [(Forms.inOrder_eq_error_iff _ _).mpr hother.2.2] at houtcome
      rw [Except.error.inj houtcome]
    | call =>
      rw [(Forms.inOrder_eq_ok_iff _).mpr hother.2.2] at houtcome
      contradiction
  | call =>
    have houtcome := (Forms.inOrder_eq_ok_iff _).mpr hgate.2.2
    cases other with
    | cooldown => exact absurd hother hgate.1
    | status => exact absurd hother.2 hgate.2.1
    | form reason =>
      rw [(Forms.inOrder_eq_error_iff _ _).mpr hother.2.2] at houtcome
      contradiction
    | call => rfl

end Perform

/-- **Every action ends at exactly one gate, and does what that gate says.** Whatever the session,
the settings, the moment, the input and the replies of the service: an action that comes too soon or
is not permitted changes nothing at all; one whose form is refused reports the first failing check
and changes the error only; any other makes its one call, starts the cool-down, and on success
clears the error and moves the statuses on, while on failure it keeps the statuses and reports the
failure.

**Proof sketch.** Some gate is reached, by cases on what each gate asks. The gate that is reached
decides the branch of `Session.perform`, and no two are reached. -/
theorem Session.ends_at_exactly_one_gate (rules : AccountRules) (service : Service) (now : Nat)
    (f : Flow) (s : Session) :
    ∃! gate : Gate, gate.Reached rules now f s ∧
      gate.Leaves rules service now (f.contract rules.forms) s (s.perform rules service now f) := by
  obtain ⟨gate, hreached⟩ := Gate.exists_reached rules now f s
  refine ⟨gate, ⟨hreached, Gate.leaves_of_reached hreached⟩, ?_⟩
  rintro other ⟨hother, -⟩
  exact Gate.reached_unique hother hreached

end CampusBoard
