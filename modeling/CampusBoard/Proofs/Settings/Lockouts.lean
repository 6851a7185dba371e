import CampusBoard.Proofs.Account.Successes
import CampusBoard.Proofs.Forms.Addresses
import CampusBoard.Proofs.Reviews.Submissions
import CampusBoard.Proofs.Settings.Repair

/-!
# Whom settings lock out

Settings that are reported for nothing leave passwords, codes and descriptions that their forms
accept. They need not leave an email: what an address has after its at sign is never checked, so the
domain may be empty, hold an at sign, or be too long for the greatest length of an entry. Nobody
signs in, signs up or asks for a new password then.

## Design

For each form it is said which settings leave something that it accepts, so the checks of the
settings can be compared with what the forms need. An action comes to its call exactly if its form
accepts what was typed, whatever the session, as long as the session permits it.

## Main definitions

* `CampusBoard.Forms.HasUsableDomain`: an address on the domain can be short enough.
* `CampusBoard.FlowKind.CanReach`, `CampusBoard.DeskRules.CanPost`: an action, or the post of a
  review, can come to its call.
* `CampusBoard.Settings.LocksNobodyOut`: every form can be passed, and all that follows from it.

## Main results

* `CampusBoard.Forms.exists_email_iff`, `CampusBoard.Forms.exists_password_iff`,
  `CampusBoard.Forms.exists_code_iff`, `CampusBoard.Forms.exists_description_iff`: which settings
  leave something to type.
* `CampusBoard.FlowKind.canReach_iff`: which actions can come to their calls.
* `CampusBoard.Settings.only_domains_lock_out`: what settings that are reported for nothing leave.
-/

set_option autoImplicit false

namespace CampusBoard

/-! ## What a form accepts -/

namespace Forms

variable (a : AccountSettings) (r : ReviewSettings)

/-- An address on the configured domain can be short enough: there is a domain, an address can end
in it, and there is room for a mailbox and an at sign before it. -/
structure HasUsableDomain : Prop where
  /-- There is a domain. -/
  domain_ne : a.emailDomain ≠ ""
  /-- It can follow the last at sign of an address. -/
  sign_notMem : '@' ∉ a.emailDomain.toList
  /-- There is room for an address. -/
  length_le : a.emailDomain.length + 2 ≤ a.maxChars.toNat

/-- A text of `n` characters that are all the same. -/
def repeated (n : Nat) (c : Char) : String :=
  String.ofList (List.replicate n c)

/-- Such a text has `n` characters. -/
lemma length_repeated (n : Nat) (c : Char) : (repeated n c).length = n := by
  rw [repeated, String.length_ofList, List.length_replicate]

/-- **Some email is accepted exactly if the domain is usable.** The shortest address on a domain has
a mailbox of one character. -/
theorem exists_email_iff : (∃ value, email a value = .ok ()) ↔ HasUsableDomain a := by
  constructor
  · rintro ⟨value, hvalue⟩
    obtain ⟨⟨mailbox, haddress⟩, hlength⟩ := email_eq_ok_iff.mp hvalue
    have hmailbox : mailbox.length ≠ 0 :=
      fun h => haddress.mailbox_ne (String.length_eq_zero_iff.mp h)
    have hparts : value.length = mailbox.length + 1 + a.emailDomain.length := by
      rw [haddress.eq_append, String.length_append, String.length_append]
      rfl
    exact ⟨haddress.host_ne, haddress.sign_notMem, by omega⟩
  · intro h
    refine ⟨"a" ++ "@" ++ a.emailDomain, email_eq_ok_iff.mpr ⟨⟨"a", ?_⟩, ?_⟩⟩
    · exact ⟨rfl, by decide, by decide, h.domain_ne, h.sign_notMem⟩
    · have hlength := h.length_le
      have hshort : ("a" ++ "@").length = 2 := rfl
      rw [String.length_append, hshort]
      omega

/-- Some password is accepted exactly if the allowed lengths leave one that is not zero. -/
lemma exists_password_iff :
    (∃ value, password a value = .ok ()) ↔
      0 < a.maxChars.toNat ∧ a.minPasswordLength.toNat ≤ a.maxChars.toNat := by
  simp only [password, accept_eq_ok_iff, Bool.and_eq_true, decide_eq_true_eq]
  constructor
  · rintro ⟨value, ⟨hpos, hmin⟩, hmax⟩
    exact ⟨Nat.lt_of_lt_of_le hpos hmax, Nat.le_trans hmin hmax⟩
  · rintro ⟨hpos, hle⟩
    refine ⟨repeated a.maxChars.toNat 'a', ?_⟩
    rw [length_repeated]
    exact ⟨⟨hpos, hle⟩, Nat.le_refl _⟩

/-- Some code is accepted exactly if codes have digits. -/
lemma exists_code_iff : (∃ value, code a value = .ok ()) ↔ 0 < a.codeLength.toNat := by
  simp only [code, accept_eq_ok_iff, Bool.and_eq_true, beq_iff_eq]
  constructor
  · rintro ⟨value, ⟨hsome, -⟩, hlength⟩
    have hne : value.toList ≠ [] := by simpa using hsome
    rw [← hlength, ← String.length_toList]
    exact List.length_pos_iff.mpr hne
  · intro hpos
    refine ⟨repeated a.codeLength.toNat '0', ⟨?_, ?_⟩, length_repeated _ _⟩
    · simp [repeated, Nat.ne_of_gt hpos]
    · have hzero : Text.isDecimalDigit '0' = true := by decide
      simp [repeated, hzero]

/-- Some description is accepted exactly if the least length does not exceed the greatest. -/
lemma exists_description_iff :
    (∃ value, description r value = .ok ()) ↔ r.minChars.toNat ≤ r.maxChars.toNat := by
  simp only [description, accept_eq_ok_iff, Bool.and_eq_true, decide_eq_true_eq]
  constructor
  · rintro ⟨value, hmin, hmax⟩
    exact Nat.le_trans hmin hmax
  · intro hle
    refine ⟨repeated r.maxChars.toNat 'a', ?_⟩
    rw [length_repeated]
    exact ⟨hle, Nat.le_refl _⟩

end Forms

/-! ## Actions on an account -/

/-- Something can be typed with which an action of this kind comes to its call, from any session
that permits it and is not held back by its cool-down. -/
def FlowKind.CanReach (rules : AccountRules) (kind : FlowKind) : Prop :=
  ∃ f : Flow, f.kind = kind ∧ ∀ (service : Service) (now : Nat) (s : Session),
    s.cooldown.isActive now = false → s.permits f = true →
      (s.perform rules service now f).sent = [f.call]

/-- The kinds of actions for which an email is typed. -/
def FlowKind.withEmail : List FlowKind :=
  [.login, .signup, .forgot]

section Actions

variable {rules : AccountRules} {service : Service} {now : Nat} {f : Flow} {s : Session}

/-- A form accepts what was typed if all its checks do. -/
lemma Flow.check_eq_ok_iff :
    f.check rules.forms = .ok () ↔
      ∀ check ∈ (f.contract rules.forms).checks, check = .ok () := by
  rw [Flow.check_eq_inOrder, Forms.inOrder_eq_ok_iff]

/-- An action whose form is accepted comes to its call if nothing else holds it back. -/
lemma Session.sent_of_accepted (hcountdown : f.isCountingDown = false)
    (hlifted : s.cooldown.isActive now = false) (hpermits : s.permits f = true)
    (hcheck : f.check rules.forms = .ok ()) : (s.perform rules service now f).sent = [f.call] := by
  have hheld : ¬s.HeldBack now f := by
    rw [Session.heldBack_iff, hcountdown, hlifted]
    decide
  have hbarred : ¬s.Barred (f.contract rules.forms) := by
    rw [Session.barred_iff, hpermits]
    decide
  rw [Session.perform_of_accepted hheld hbarred (Flow.check_eq_ok_iff.mp hcheck)]

/-- An action whose form is refused sends nothing. -/
lemma Session.check_of_sent (hsent : (s.perform rules service now f).sent ≠ []) :
    f.check rules.forms = .ok () := by
  obtain ⟨gate, hreached, hleaves⟩ := Session.exists_leaves rules service now f s
  cases gate with
  | cooldown | status | form _ => exact absurd hleaves.2.1 hsent
  | call => exact Flow.check_eq_ok_iff.mpr hreached.2.2

/-- An action can come to its call if its form accepts something. -/
lemma FlowKind.canReach_of_check (hcountdown : f.isCountingDown = false)
    (hcheck : f.check rules.forms = .ok ()) : f.kind.CanReach rules :=
  ⟨f, rfl, fun _ _ _ hlifted hpermits =>
    Session.sent_of_accepted hcountdown hlifted hpermits hcheck⟩

/-- An action for which an email is typed needs no status of the session, and its form checks the
email. -/
lemma Flow.asks_for_email (a : AccountSettings) (hkind : f.kind ∈ FlowKind.withEmail) :
    f.required? = none ∧ ∃ value, Forms.email a value ∈ (f.contract a).checks := by
  cases f with
  | login email _ => exact ⟨rfl, email, List.mem_cons_self⟩
  | signup email _ _ => exact ⟨rfl, email, List.mem_cons_self⟩
  | forgot email => exact ⟨rfl, email, List.mem_cons_self⟩
  | verify _ | verifyForget _ | update _ | signout | resend _ =>
    simp [Flow.kind, FlowKind.withEmail] at hkind

/-- If an action for which an email is typed can come to its call, then some email is accepted. -/
lemma FlowKind.CanReach.exists_email {kind : FlowKind} (h : kind.CanReach rules)
    (hkind : kind ∈ withEmail) : ∃ value, Forms.email rules.forms value = .ok () := by
  obtain ⟨f, rfl, hreaches⟩ := h
  obtain ⟨hrequired, email, hemail⟩ := Flow.asks_for_email rules.forms hkind
  have hpermits : Session.fresh.permits f = true := by rw [Session.permits, hrequired]
  have hsent := hreaches (fun _ => .ok ()) 0 .fresh rfl hpermits
  have hcheck := Session.check_of_sent (hsent ▸ List.cons_ne_nil _ _)
  exact ⟨email, Flow.check_eq_ok_iff.mp hcheck _ hemail⟩

/-- **Which actions can come to their calls.** Where some password and some code are accepted, each
action can that asks for no email, and the others can if the domain is usable. -/
theorem FlowKind.canReach_iff (hpassword : ∃ value, Forms.password rules.forms value = .ok ())
    (hcode : ∃ value, Forms.code rules.forms value = .ok ()) (kind : FlowKind) :
    kind.CanReach rules ↔ (kind ∈ withEmail → Forms.HasUsableDomain rules.forms) := by
  constructor
  · intro h hkind
    exact (Forms.exists_email_iff _).mp (h.exists_email hkind)
  · intro husable
    obtain ⟨password, hpassword⟩ := hpassword
    obtain ⟨code, hcode⟩ := hcode
    have hemail : kind ∈ withEmail → ∃ value, Forms.email rules.forms value = .ok () :=
      fun hkind => (Forms.exists_email_iff _).mpr (husable hkind)
    cases kind with
    | login =>
      obtain ⟨email, hemail⟩ := hemail (by decide)
      refine canReach_of_check (f := .login email password) rfl (Flow.check_eq_ok_iff.mpr ?_)
      simp [Flow.contract, hemail, hpassword]
    | signup =>
      obtain ⟨email, hemail⟩ := hemail (by decide)
      refine canReach_of_check (f := .signup email password password) rfl
        (Flow.check_eq_ok_iff.mpr ?_)
      simp [Flow.contract, hemail, hpassword, Forms.confirmation, Forms.accept]
    | forgot =>
      obtain ⟨email, hemail⟩ := hemail (by decide)
      exact canReach_of_check (f := .forgot email) rfl hemail
    | verify => exact canReach_of_check (f := .verify code) rfl hcode
    | verifyForget => exact canReach_of_check (f := .verifyForget code) rfl hcode
    | update => exact canReach_of_check (f := .update password) rfl hpassword
    | signout => exact canReach_of_check (f := .signout) rfl rfl
    | resend => exact canReach_of_check (f := .resend 0) rfl rfl

end Actions

/-! ## Posts of reviews -/

/-- There is a complete review that any desk posts which is not held back by its cool-down. -/
def DeskRules.CanPost (rules : DeskRules) : Prop :=
  ∃ draft : ReviewDraft, draft.IsComplete rules.reviews ∧
    ∀ (service : Service) (now : Nat) (d : Desk), d.cooldown.isActive now = false →
      ∃ payload, draft.CarriedBy payload ∧
        (d.submit rules service now draft).sent = [Desk.call payload]

/-- A review can be posted exactly if some description is accepted. -/
lemma DeskRules.canPost_iff (rules : DeskRules) :
    rules.CanPost ↔ ∃ value, Forms.description rules.reviews value = .ok () := by
  rw [Forms.exists_description_iff]
  constructor
  · rintro ⟨draft, hcomplete, -⟩
    exact Nat.le_trans hcomplete.minChars_le hcomplete.le_maxChars
  · intro hle
    let text := Forms.repeated rules.reviews.maxChars.toNat 'a'
    have htext : text.length = rules.reviews.maxChars.toNat := Forms.length_repeated _ _
    let ratings : Ratings (Option StarRating) :=
      ⟨some .five, some .five, some .five, some .five, some .five⟩
    let draft : ReviewDraft := ⟨some .hawkins, some .five, ratings, text⟩
    have hcomplete : draft.IsComplete rules.reviews :=
      { housing := by simp [draft]
        overallRating := by simp [draft]
        ratings := fun category => by cases category <;> simp [draft, ratings, Ratings.get]
        minChars_le := by rwa [htext]
        le_maxChars := Nat.le_of_eq htext }
    refine ⟨draft, hcomplete, fun service now d hlifted => ?_⟩
    obtain ⟨payload, hpayload⟩ := ReviewDraft.exists_complete_iff.mpr hcomplete
    have hcarried := ReviewDraft.carriedBy_of_complete hpayload
    have hheld : ¬d.HeldBack now := by
      rw [Desk.HeldBack, ← Cooldown.isActive_eq_true_iff, hlifted]
      decide
    have hreached : DeskGate.Reached rules now draft d (.call payload) :=
      ⟨hheld, hcomplete, hcarried⟩
    exact ⟨payload, hcarried, (DeskGate.leaves_of_reached service hreached).1⟩

/-! ## All forms together -/

namespace Settings

/-- Settings lock nobody out if every form accepts something, every action on an account can come to
its call, and a review can be posted. -/
structure LocksNobodyOut (s : Settings) : Prop where
  /-- Some email is accepted. -/
  email : ∃ value, Forms.email s.account value = .ok ()
  /-- Some password is accepted. -/
  password : ∃ value, Forms.password s.account value = .ok ()
  /-- Some code is accepted. -/
  code : ∃ value, Forms.code s.account value = .ok ()
  /-- Some description is accepted. -/
  description : ∃ value, Forms.description s.reviews value = .ok ()
  /-- Every action can come to its call. -/
  actions : ∀ kind : FlowKind, kind.CanReach (.ofSettings s)
  /-- A review can be posted. -/
  review : DeskRules.CanPost (.ofSettings s)

/-- Settings that are reported for nothing leave passwords, codes and descriptions. -/
lemma exists_of_complaints {s : Settings} (h : s.complaints = []) :
    (∃ value, Forms.password s.account value = .ok ()) ∧
      (∃ value, Forms.code s.account value = .ok ()) ∧
        ∃ value, Forms.description s.reviews value = .ok () := by
  have husable := (complaints_eq_nil_iff s).mp h
  have hpassword := husable .passwordLengths
  have hcode := husable .codeLength
  have hdescription := husable .descriptionLengths
  simp only [Part.Unusable, not_or, UInt64.not_lt, UInt64.le_iff_toNat_le,
    ← UInt64.toNat_inj, UInt64.toNat_zero] at hpassword hcode hdescription
  rw [Forms.exists_password_iff, Forms.exists_code_iff, Forms.exists_description_iff]
  exact ⟨⟨by omega, hpassword.2⟩, Nat.pos_of_ne_zero hcode, hdescription⟩

/-- **Nothing but the domain locks out.** Settings that are reported for nothing, repaired ones
among them, leave a password, a code and a description that the forms accept, and a complete review
can be posted. Each action on an account can come to its call if it asks for no email, and if it
does, then exactly if the domain is not empty, holds no at sign and leaves room for a mailbox. So
the settings lock nobody out exactly if the domain is such.

**Proof sketch.** The complaints about lengths are just what the forms for passwords, codes and
descriptions need (`exists_of_complaints`). An email needs a usable domain (`exists_email_iff`). -/
theorem only_domains_lock_out (s : Settings)
    (h : s.complaints = [] ∨ ∃ given : Settings, s = given.repaired) :
    (∃ value, Forms.password s.account value = .ok ()) ∧
    (∃ value, Forms.code s.account value = .ok ()) ∧
    (∃ value, Forms.description s.reviews value = .ok ()) ∧
    (∀ kind : FlowKind, kind.CanReach (.ofSettings s) ↔
      (kind ∈ FlowKind.withEmail → Forms.HasUsableDomain s.account)) ∧
    DeskRules.CanPost (.ofSettings s) ∧
    (s.LocksNobodyOut ↔ Forms.HasUsableDomain s.account) := by
  have hnone : s.complaints = [] := by
    rcases h with h | ⟨given, rfl⟩
    · exact h
    · exact complaints_repaired given
  obtain ⟨hpassword, hcode, hdescription⟩ := exists_of_complaints hnone
  have hreach : ∀ kind : FlowKind, kind.CanReach (.ofSettings s) ↔
      (kind ∈ FlowKind.withEmail → Forms.HasUsableDomain s.account) :=
    FlowKind.canReach_iff hpassword hcode
  have hpost := (DeskRules.canPost_iff (.ofSettings s)).mpr hdescription
  refine ⟨hpassword, hcode, hdescription, hreach, hpost, ?_⟩
  constructor
  · intro hnobody
    exact (Forms.exists_email_iff s.account).mp hnobody.email
  · intro husable
    exact
      { email := (Forms.exists_email_iff s.account).mpr husable
        password := hpassword
        code := hcode
        description := hdescription
        actions := fun kind => (hreach kind).mpr fun _ => husable
        review := hpost }

/-- Settings without a domain. -/
def withoutDomain : Settings :=
  { account := { emailDomain := "" } }

/-- Settings whose domain was written with its at sign. -/
def signedDomain : Settings :=
  { account := { emailDomain := "@purdue.edu" } }

/-- Settings under which an entry is at most as long as the domain. -/
def shortEntries : Settings :=
  { account := { maxChars := 10 } }

/-- **Some settings that are reported for nothing lock everybody out**, and a repair leaves them as
they are: no email is accepted without a domain, with an at sign in it, or without room for a
mailbox. -/
theorem unchecked_domains_lock_out :
    (withoutDomain.complaints = [] ∧ withoutDomain.repaired = withoutDomain ∧
      ¬withoutDomain.LocksNobodyOut) ∧
    (signedDomain.complaints = [] ∧ signedDomain.repaired = signedDomain ∧
      ¬signedDomain.LocksNobodyOut) ∧
    (shortEntries.complaints = [] ∧ shortEntries.repaired = shortEntries ∧
      ¬shortEntries.LocksNobodyOut) := by
  have hunusable : ∀ s : Settings, s.LocksNobodyOut → Forms.HasUsableDomain s.account :=
    fun s hnobody => (Forms.exists_email_iff s.account).mp hnobody.email
  refine ⟨⟨by decide, by decide, fun h => ?_⟩, ⟨by decide, by decide, fun h => ?_⟩,
    ⟨by decide, by decide, fun h => ?_⟩⟩
  · exact absurd (hunusable _ h).domain_ne (by decide)
  · exact absurd (hunusable _ h).sign_notMem (by decide)
  · exact absurd (hunusable _ h).length_le (by decide)

/-- Settings under which the shortest address on the domain is the longest entry. -/
def tightEntries : Settings :=
  { account := { maxChars := 12, minPasswordLength := 12 } }

/-- Settings under which no entry is allowed at all. -/
def noEntries : Settings :=
  { account := { minPasswordLength := 0, maxChars := 0 } }

/-- The former lock nobody out, and nor do the latter once they are repaired. -/
theorem only_domains_lock_out_tight :
    (tightEntries.complaints = [] ∧ tightEntries.LocksNobodyOut) ∧
      noEntries.repaired.LocksNobodyOut := by
  have hnone : tightEntries.complaints = [] := by decide
  obtain ⟨-, -, -, -, -, htight⟩ := only_domains_lock_out tightEntries (.inl hnone)
  obtain ⟨-, -, -, -, -, hrepaired⟩ :=
    only_domains_lock_out noEntries.repaired (.inr ⟨noEntries, rfl⟩)
  exact ⟨⟨hnone, htight.mpr ⟨by decide, by decide, by decide⟩⟩,
    hrepaired.mpr ⟨by decide, by decide, by decide⟩⟩

end Settings

end CampusBoard
