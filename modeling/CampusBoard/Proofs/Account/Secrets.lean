import CampusBoard.Proofs.Account.Gates
import Mathlib.Data.List.Forall2

/-!
# Secrets stay out of a session

Two users who do the same at the same moments, with the same emails but with other passwords,
confirmations and codes, cannot be told apart by their sessions, as long as their secrets pass the
same checks and their calls get the same replies.

## Design

The two users have runs of their own, with services of their own that may well look at the secrets
in a call. What the runs must have in common besides the actions is what becomes known of the
secrets: the verdicts of the checks that are made, and the replies to the calls that are made. Of a
check it is only asked whether it succeeds. That it also fails for the same reason is shown: each
check of an action has one reason only, which the settings determine (`CampusBoard.Flow.reasons`).

## Main definitions

* `CampusBoard.Flow.Alike`: two actions differ in secrets only.
* `CampusBoard.Call.withoutSecrets`: a call without the secrets in its body.
* `CampusBoard.Attempt.Alike`: two attempts cannot be told apart but by the secrets that were sent.
* `CampusBoard.Session.verdicts`, `CampusBoard.Session.replies`: what becomes known of the secrets
  of a run.

## Main results

* `CampusBoard.Forms.inOrder_eq_of_verdicts_eq`: checks that can fail for the same reasons and have
  the same verdicts have the same outcome.
* `CampusBoard.Session.alike_perform`: one action shows nothing else of its secrets.
* `CampusBoard.Session.secrets_stay_out_of_sessions`: neither does a run.
-/

set_option autoImplicit false

namespace CampusBoard

/-! ## Verdicts -/

namespace Forms

/-- Whether each check that is made succeeds. After one that fails no other is made. -/
def verdicts : List Check → List Bool
  | [] => []
  | .ok _ :: rest => true :: verdicts rest
  | .error _ :: _ => [false]

/-- A check can fail for no other reason than the given one. -/
def FailsOnlyWith (check : Check) (reason : ValidationError) : Prop :=
  check = .ok () ∨ check = .error reason

/-- A condition that does not hold fails for its own reason. -/
lemma failsOnlyWith_accept (condition : Bool) (reason : ValidationError) :
    FailsOnlyWith (accept condition reason) reason := by
  cases condition
  · exact .inr rfl
  · exact .inl rfl

/-- **Checks that can fail for the same reasons and have the same verdicts have the same
outcome.** -/
theorem inOrder_eq_of_verdicts_eq {checks checks' : List Check} {reasons : List ValidationError}
    (h : List.Forall₂ FailsOnlyWith checks reasons)
    (h' : List.Forall₂ FailsOnlyWith checks' reasons)
    (hverdicts : verdicts checks = verdicts checks') : inOrder checks = inOrder checks' := by
  induction h generalizing checks' with
  | nil =>
    cases h'
    rfl
  | cons hcheck _ ih =>
    cases h' with
    | cons hcheck' hrest' =>
      rcases hcheck with rfl | rfl <;> rcases hcheck' with rfl | rfl
      · rw [inOrder, inOrder]
        exact ih hrest' (List.cons.inj hverdicts).2
      · cases (List.cons.inj hverdicts).1
      · cases (List.cons.inj hverdicts).1
      · rfl

end Forms

/-! ## Actions with other secrets -/

/-- Two actions differ in no more than their passwords, confirmations and codes. -/
inductive Flow.Alike : Flow → Flow → Prop
  /-- Signing in with the same email. -/
  | login (email password password' : String) :
    Alike (.login email password) (.login email password')
  /-- Signing up with the same email. -/
  | signup (email password password' confirm confirm' : String) :
    Alike (.signup email password confirm) (.signup email password' confirm')
  /-- Asking for a code for the same email. -/
  | forgot (email : String) : Alike (.forgot email) (.forgot email)
  /-- Completing signing in. -/
  | verify (code code' : String) : Alike (.verify code) (.verify code')
  /-- Proving that a new password may be set. -/
  | verifyForget (code code' : String) : Alike (.verifyForget code) (.verifyForget code')
  /-- Setting a new password. -/
  | update (password password' : String) : Alike (.update password) (.update password')
  /-- Signing out. -/
  | signout : Alike .signout .signout
  /-- Asking for another code at the same countdown. -/
  | resend (countdown : Nat) : Alike (.resend countdown) (.resend countdown)

/-- A JSON object without the values of its members for passwords and tokens. -/
def Json.withoutSecrets : Json → Json
  | .object members =>
    .object (members.map fun m => if m.1 = "password" ∨ m.1 = "token" then (m.1, .null) else m)
  | value => value

/-- A call without the secrets in its body. -/
def Call.withoutSecrets (c : Call) : Call :=
  { c with body := c.body.map Json.withoutSecrets }

/-- The reasons for which the checks of an action can fail, one for each check. -/
def Flow.reasons (a : AccountSettings) : Flow → List ValidationError
  | .login _ _ =>
    [.invalidEmail, .passwordLength a.minPasswordLength.toNat a.maxChars.toNat]
  | .signup _ _ _ =>
    [.invalidEmail, .passwordLength a.minPasswordLength.toNat a.maxChars.toNat, .passwordMismatch]
  | .forgot _ => [.invalidEmail]
  | .verify _ | .verifyForget _ => [.invalidCode a.codeLength.toNat]
  | .update _ => [.passwordLength a.minPasswordLength.toNat a.maxChars.toNat]
  | .signout | .resend _ => []

/-- Each check of an action can fail for its reason only. -/
lemma Flow.failsOnlyWith_reasons (a : AccountSettings) (f : Flow) :
    List.Forall₂ Forms.FailsOnlyWith (f.contract a).checks (f.reasons a) := by
  cases f <;> simp [contract, reasons, Forms.email, Forms.password, Forms.confirmation, Forms.code,
    Forms.failsOnlyWith_accept]

namespace Flow.Alike

variable {f f' : Flow} (h : f.Alike f')

include h

/-- Whether an action starts a countdown does not depend on its secrets. -/
lemma isCountingDown_eq : f.isCountingDown = f'.isCountingDown := by
  cases h <;> rfl

/-- Whether a session permits an action does not depend on its secrets. -/
lemma permits_eq (s : Session) : s.permits f = s.permits f' := by
  cases h <;> rfl

/-- What an action does to the statuses does not depend on its secrets. -/
lemma transition_eq (s : Statuses) : f.transition s = f'.transition s := by
  cases h <;> rfl

/-- The reasons for which an action can fail do not depend on its secrets. -/
lemma reasons_eq (a : AccountSettings) : f.reasons a = f'.reasons a := by
  cases h <;> rfl

/-- The calls of actions that differ in secrets only differ in secrets only. -/
lemma call_withoutSecrets : f.call.withoutSecrets = f'.call.withoutSecrets := by
  cases h <;> rfl

/-- Whether an action comes too soon does not depend on its secrets. -/
lemma heldBack_iff (now : Nat) (s : Session) : s.HeldBack now f ↔ s.HeldBack now f' := by
  rw [Session.heldBack_iff, h.isCountingDown_eq, ← Session.heldBack_iff]

/-- Whether an action is barred does not depend on its secrets. -/
lemma barred_iff (rules : AccountRules) (s : Session) :
    s.Barred (f.contract rules.forms) ↔ s.Barred (f'.contract rules.forms) := by
  rw [Session.barred_iff, h.permits_eq, ← Session.barred_iff]

/-- What a reply leads to does not depend on the secrets of the action. -/
lemma settle_eq (rules : AccountRules) (waiting : Session) (reply : Except TransportError Unit) :
    Session.settle rules f waiting reply = Session.settle rules f' waiting reply := by
  cases reply with
  | ok _ => rw [Session.settle, Session.settle, h.transition_eq]
  | error e => rfl

/-- **Checks with the same verdicts have the same outcome**, whatever secrets they look at. -/
lemma inOrder_checks_eq (a : AccountSettings)
    (hverdicts : Forms.verdicts (f.contract a).checks = Forms.verdicts (f'.contract a).checks) :
    Forms.inOrder (f.contract a).checks = Forms.inOrder (f'.contract a).checks := by
  have hreasons := Flow.failsOnlyWith_reasons a f
  rw [h.reasons_eq] at hreasons
  exact Forms.inOrder_eq_of_verdicts_eq hreasons (Flow.failsOnlyWith_reasons a f') hverdicts

end Flow.Alike

/-! ## Attempts that cannot be told apart -/

/-- Two attempts leave the same session, have the same result, and send the same calls up to the
secrets in their bodies. -/
structure Attempt.Alike (attempt attempt' : Attempt) : Prop where
  /-- The sessions are the same. -/
  session : attempt.session = attempt'.session
  /-- The results are the same. -/
  result : attempt.result = attempt'.result
  /-- The calls are the same but for secrets. -/
  sent : attempt.sent.map Call.withoutSecrets = attempt'.sent.map Call.withoutSecrets

namespace Session

/-- Two actions at the same moment that differ in secrets only. -/
structure Event.Alike (e e' : Event) : Prop where
  /-- The moments are the same. -/
  now : e.now = e'.now
  /-- The actions are the same but for secrets. -/
  flow : e.flow.Alike e'.flow

/-- The verdicts of the checks that an action comes to. -/
def verdict (rules : AccountRules) (e : Event) (s : Session) : List Bool :=
  if e.flow.isCountingDown || s.cooldown.isActive e.now || !s.permits e.flow then []
  else Forms.verdicts (e.flow.contract rules.forms).checks

variable (rules : AccountRules) (s : Session)

/-- The verdicts of the checks that the actions of a run come to. -/
def verdicts (s : Session) : List Event → List (List Bool)
  | [] => []
  | e :: rest =>
    s.verdict rules e :: verdicts (s.perform rules e.service e.now e.flow).session rest

/-- The replies to the calls that the actions of a run make. -/
def replies (events : List Event) : List (List (Except TransportError Unit)) :=
  (events.zip (s.run rules events)).map fun (e, attempt) => attempt.sent.map e.service

/-! ## Two actions -/

section Perform

variable {rules s} {service service' : Service} {now : Nat} {f f' : Flow}

/-- An action that is neither held back nor barred comes to its checks. -/
lemma verdict_of_permitted (hheld : ¬s.HeldBack now f)
    (hbarred : ¬s.Barred (f.contract rules.forms)) :
    s.verdict rules ⟨now, f, service⟩ = Forms.verdicts (f.contract rules.forms).checks := by
  rw [heldBack_iff, Bool.not_eq_true] at hheld
  rw [barred_iff, Bool.not_eq_false] at hbarred
  rw [verdict, hheld, hbarred]
  rfl

/-- **One action shows of its secrets only** the verdicts on them and what the reply says. -/
theorem alike_perform (h : f.Alike f')
    (hverdict : s.verdict rules ⟨now, f, service⟩ = s.verdict rules ⟨now, f', service'⟩)
    (hreply : (s.perform rules service now f).sent.map service =
      (s.perform rules service' now f').sent.map service') :
    (s.perform rules service now f).Alike (s.perform rules service' now f') := by
  by_cases hheld : s.HeldBack now f
  · rw [perform_of_heldBack hheld, perform_of_heldBack ((h.heldBack_iff now s).mp hheld)]
    exact ⟨rfl, rfl, rfl⟩
  by_cases hbarred : s.Barred (f.contract rules.forms)
  · rw [perform_of_barred hheld hbarred, perform_of_barred
      (hheld ∘ (h.heldBack_iff now s).mpr) ((h.barred_iff rules s).mp hbarred)]
    exact ⟨rfl, rfl, rfl⟩
  have hheld' : ¬s.HeldBack now f' := hheld ∘ (h.heldBack_iff now s).mpr
  have hbarred' : ¬s.Barred (f'.contract rules.forms) := hbarred ∘ (h.barred_iff rules s).mpr
  rw [verdict_of_permitted hheld hbarred, verdict_of_permitted hheld' hbarred'] at hverdict
  rw [perform_of_permitted hheld hbarred, perform_of_permitted hheld' hbarred',
    h.inOrder_checks_eq rules.forms hverdict] at hreply ⊢
  generalize Forms.inOrder (f'.contract rules.forms).checks = outcome at hreply ⊢
  cases outcome with
  | error reason => exact ⟨rfl, rfl, rfl⟩
  | ok _ =>
    have hsame : service f.call = service' f'.call := (List.cons.inj hreply).1
    dsimp only
    rw [hsame, h.settle_eq]
    exact ⟨rfl, rfl, congrArg (fun call => [call]) h.call_withoutSecrets⟩

end Perform

/-! ## Two runs -/

/-- **Secrets stay out of sessions.** Two runs from the same session do the same at the same
moments, with the same emails but with other passwords, confirmations and codes, and with services
of their own. If the checks that are made have the same verdicts and the calls that are made get the
same replies, then each action leaves the same session and has the same result in both runs, and
sends the same calls but for the passwords and tokens in their bodies.

**Proof sketch.** Induction on the runs: by `CampusBoard.Session.alike_perform` the first actions
leave the same session, from which the others go on. -/
theorem secrets_stay_out_of_sessions {events events' : List Event}
    (halike : List.Forall₂ Event.Alike events events')
    (hverdicts : s.verdicts rules events = s.verdicts rules events')
    (hreplies : s.replies rules events = s.replies rules events') :
    List.Forall₂ Attempt.Alike (s.run rules events) (s.run rules events') := by
  induction halike generalizing s with
  | nil => exact .nil
  | @cons e e' rest rest' hfirst _ ih =>
    obtain ⟨now, f, service⟩ := e
    obtain ⟨_, f', service'⟩ := e'
    obtain ⟨rfl, hflow⟩ := hfirst
    obtain ⟨hverdict, hverdicts⟩ := List.cons.inj hverdicts
    obtain ⟨hreply, hreplies⟩ := List.cons.inj hreplies
    have hattempts := alike_perform hflow hverdict hreply
    refine .cons hattempts ?_
    rw [← hattempts.session] at hverdicts hreplies ⊢
    exact ih _ hverdicts hreplies

/-- Someone mistypes the confirmation, then is not connected, is too hasty with the next attempt,
and signs in at last. -/
def thirdAttempt (password mistyped hasty code : String) : List Event :=
  [⟨0, .signup "pete@purdue.edu" password mistyped, fun _ => .ok ()⟩,
    ⟨0, .signup "pete@purdue.edu" password password, fun _ => .error (.client "no connection")⟩,
    ⟨499, .login "pete@purdue.edu" hasty, fun _ => .ok ()⟩,
    ⟨500, .login "pete@purdue.edu" password, fun call => if call.body.isSome then .ok () else
      .error (.status 400 "")⟩,
    ⟨1000, .verify code, fun _ => .ok ()⟩]

/-- Two people do so with secrets of their own. One of the hasty passwords would have been refused,
but it is not looked at. -/
theorem secrets_stay_out_of_sessions_thirdAttempt :
    let tulip := thirdAttempt "tulip-tulip" "tulip-tulib" "tulip-tulip" "123456"
    let rose := thirdAttempt "many-more-roses" "many-more-rows" "rose" "654321"
    List.Forall₂ Event.Alike tulip rose ∧
      fresh.verdicts (.ofSettings {}) tulip = fresh.verdicts (.ofSettings {}) rose ∧
      fresh.replies (.ofSettings {}) tulip = fresh.replies (.ofSettings {}) rose ∧
      List.Forall₂ Attempt.Alike (fresh.run (.ofSettings {}) tulip)
        (fresh.run (.ofSettings {}) rose) := by
  intro tulip rose
  have halike : List.Forall₂ Event.Alike tulip rose :=
    .cons ⟨rfl, .signup ..⟩ <| .cons ⟨rfl, .signup ..⟩ <| .cons ⟨rfl, .login ..⟩ <|
      .cons ⟨rfl, .login ..⟩ <| .cons ⟨rfl, .verify ..⟩ .nil
  -- Each run is evaluated by itself: it is slow to unfold the two against each other.
  have htulip : fresh.verdicts (.ofSettings {}) tulip =
      [[true, true, false], [true, true, true], [], [true, true], [true]] := rfl
  have hrose : fresh.verdicts (.ofSettings {}) rose =
      [[true, true, false], [true, true, true], [], [true, true], [true]] := rfl
  have hverdicts : fresh.verdicts (.ofSettings {}) tulip =
      fresh.verdicts (.ofSettings {}) rose := htulip.trans hrose.symm
  have hreplies : fresh.replies (.ofSettings {}) tulip =
      fresh.replies (.ofSettings {}) rose := rfl
  exact ⟨halike, hverdicts, hreplies,
    secrets_stay_out_of_sessions _ _ halike hverdicts hreplies⟩

end Session

end CampusBoard
