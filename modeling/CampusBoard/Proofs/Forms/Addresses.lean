import CampusBoard.Forms.Check
import CampusBoard.Proofs.Text.Cuts
import Mathlib.Tactic.Common
import Mathlib.Tactic.Lemma

/-!
# Addresses on a domain

An email is accepted if what stands after its last at sign is the configured domain as a whole. What
stands before may hold further at signs, but no line break, and it may not be empty.

## Main definitions

* `CampusBoard.Forms.IsAddress`: an address is made up of a mailbox and a host.

## Main results

* `CampusBoard.Forms.mailboxAndDomain?_eq_some_iff`: where an address is cut.
* `CampusBoard.Forms.isOnDomain_eq_true_iff`: which addresses are on a domain.
* `CampusBoard.Forms.emails_are_on_whole_domain`: which emails are accepted.
-/

set_option autoImplicit false

namespace CampusBoard

namespace Forms

/-- An address made up of a mailbox, an at sign and a host. The host holds no at sign, so it is what
follows the last one. -/
structure IsAddress (mailbox host address : String) : Prop where
  /-- The parts stand one after the other. -/
  eq_append : address = mailbox ++ "@" ++ host
  /-- There is a mailbox. -/
  mailbox_ne : mailbox ≠ ""
  /-- It stands on one line. -/
  newline_notMem : '\n' ∉ mailbox.toList
  /-- There is a host. -/
  host_ne : host ≠ ""
  /-- It follows the last at sign. -/
  sign_notMem : '@' ∉ host.toList

/-! ## The last at sign -/

/-- The last at sign is the first from behind. -/
lemma mailboxAndDomain?_eq (address : List Char) :
    mailboxAndDomain? address = (Text.cut '@' address.reverse).2.map fun mailbox =>
      (mailbox.reverse, (Text.cut '@' address.reverse).1.reverse) := by
  unfold mailboxAndDomain? Text.cut
  cases address.reverse.dropWhile (· != '@') <;> rfl

/-- **An address is cut at its last at sign.** -/
theorem mailboxAndDomain?_eq_some_iff {address mailbox host : List Char} :
    mailboxAndDomain? address = some (mailbox, host) ↔
      address = mailbox ++ '@' :: host ∧ '@' ∉ host := by
  have hbehind : Text.cut '@' address.reverse = (host.reverse, some mailbox.reverse) ↔
      address = mailbox ++ '@' :: host ∧ '@' ∉ host := by
    rw [Text.cut_eq_some_iff, List.reverse_eq_iff, List.mem_reverse]
    simp
  rw [← hbehind, mailboxAndDomain?_eq]
  obtain ⟨before, after⟩ := Text.cut '@' address.reverse
  cases after with
  | none => simp
  | some after =>
    simp [List.reverse_eq_iff, and_comm]

/-- A mailbox and a host are where their address is cut. -/
lemma IsAddress.cut {mailbox host address : String} (h : IsAddress mailbox host address) :
    mailboxAndDomain? address.toList = some (mailbox.toList, host.toList) := by
  refine mailboxAndDomain?_eq_some_iff.mpr ⟨?_, h.sign_notMem⟩
  rw [h.eq_append]
  simp

/-- **The addresses on a domain** are those whose host it is. -/
theorem isOnDomain_eq_true_iff {domain address : String} :
    isOnDomain domain address.toList = true ↔ ∃ mailbox, IsAddress mailbox domain address := by
  constructor
  · intro h
    unfold isOnDomain at h
    split at h
    next mailbox host hcut =>
      simp only [Bool.and_eq_true, Bool.not_eq_true', List.isEmpty_eq_false_iff,
        List.contains_eq_mem, decide_eq_false_iff_not, beq_iff_eq] at h
      obtain ⟨⟨⟨hmailbox, hline⟩, hhost⟩, rfl⟩ := h
      obtain ⟨heq, hsign⟩ := mailboxAndDomain?_eq_some_iff.mp hcut
      exact ⟨String.ofList mailbox,
        { eq_append := String.toList_inj.mp (by simp [heq])
          mailbox_ne := by simpa using hmailbox
          newline_notMem := by simpa using hline
          host_ne := by simpa using hhost
          sign_notMem := hsign }⟩
    next => cases h
  · rintro ⟨mailbox, h⟩
    have hmailbox : mailbox.toList ≠ [] := by simpa using h.mailbox_ne
    have hhost : domain.toList ≠ [] := by simpa using h.host_ne
    simp [isOnDomain, h.cut, hmailbox, hhost, h.newline_notMem]

/-! ## Emails -/

variable {account : AccountSettings} {value : String}

/-- An email is accepted if it is on the configured domain and not too long. -/
lemma email_eq_ok_iff :
    email account value = .ok () ↔ (∃ mailbox, IsAddress mailbox account.emailDomain value) ∧
      value.length ≤ account.maxChars.toNat := by
  rw [email, accept_eq_ok_iff, Bool.and_eq_true, isOnDomain_eq_true_iff, decide_eq_true_iff]

/-- Otherwise it is refused for one reason. -/
lemma email_eq_error_iff :
    email account value = .error .invalidEmail ↔ ¬email account value = .ok () := by
  unfold email accept
  split <;> simp

/-- **The host of an accepted email is the configured domain.** -/
theorem host_eq_of_email {mailbox host : String} (h : email account value = .ok ())
    (heq : value = mailbox ++ "@" ++ host) (hsign : '@' ∉ host.toList) :
    host = account.emailDomain ∧ IsAddress mailbox host value := by
  obtain ⟨⟨mailbox', haddress⟩, -⟩ := email_eq_ok_iff.mp h
  have hcut : mailboxAndDomain? value.toList = some (mailbox.toList, host.toList) := by
    refine mailboxAndDomain?_eq_some_iff.mpr ⟨?_, hsign⟩
    rw [heq]
    simp
  have hsame := haddress.cut.symm.trans hcut
  simp only [Option.some.injEq, Prod.mk.injEq, String.toList_inj] at hsame
  obtain ⟨rfl, hdomain⟩ := hsame
  exact ⟨hdomain.symm, hdomain ▸ haddress⟩

/-- A domain with something in front or behind is another one. -/
lemma append_append_ne {front domain back : String} (h : front ≠ "" ∨ back ≠ "") :
    front ++ domain ++ back ≠ domain := by
  intro heq
  have hlength := congrArg String.length heq
  simp only [String.length_append] at hlength
  rcases h with hfront | hback
  · exact hfront (String.length_eq_zero_iff.mp (by omega))
  · exact hback (String.length_eq_zero_iff.mp (by omega))

/-- **Emails are on the whole domain.** An email is accepted if and only if it is a mailbox, an at
sign and the configured domain, and not too long; the mailbox is not empty and holds no line break,
the domain is not empty and holds no at sign. Any other is refused as no valid email. Whatever
follows the last at sign of an email, if the email is accepted then that is the configured domain;
so none is accepted whose host is the domain with something in front of it, as a subdomain has, or
behind it.

**Proof sketch.** The last at sign is the first from behind, so an address is cut there in one way
only, however many other at signs the mailbox holds. -/
theorem emails_are_on_whole_domain (account : AccountSettings) (value : String) :
    (email account value = .ok () ↔
      (∃ mailbox, IsAddress mailbox account.emailDomain value) ∧
        value.length ≤ account.maxChars.toNat) ∧
    (email account value = .error .invalidEmail ↔ ¬email account value = .ok ()) ∧
    (∀ mailbox host : String, value = mailbox ++ "@" ++ host → '@' ∉ host.toList →
      (email account value = .ok () ↔
        host = account.emailDomain ∧ IsAddress mailbox host value ∧
          value.length ≤ account.maxChars.toNat)) ∧
    ∀ mailbox front back : String, front ≠ "" ∨ back ≠ "" →
      value = mailbox ++ "@" ++ (front ++ account.emailDomain ++ back) →
      '@' ∉ (front ++ account.emailDomain ++ back).toList →
        email account value = .error .invalidEmail := by
  refine ⟨email_eq_ok_iff, email_eq_error_iff, ?_, ?_⟩
  · intro mailbox host heq hsign
    constructor
    · intro h
      obtain ⟨hhost, haddress⟩ := host_eq_of_email h heq hsign
      exact ⟨hhost, haddress, (email_eq_ok_iff.mp h).2⟩
    · rintro ⟨rfl, haddress, hlength⟩
      exact email_eq_ok_iff.mpr ⟨⟨mailbox, haddress⟩, hlength⟩
  · intro mailbox front back hmore heq hsign
    refine email_eq_error_iff.mpr fun h => ?_
    exact append_append_ne hmore (host_eq_of_email h heq hsign).1

/-- An address with two at signs, with the configured domain after both of them, and the same with
something behind that. -/
theorem emails_are_on_whole_domain_twoSigns :
    email {} "pete@purdue.edu@purdue.edu" = .ok () ∧
    email {} "pete@purdue.edu@purdue.edu.evil" = .error .invalidEmail := by
  obtain ⟨-, -, haccepted, -⟩ := emails_are_on_whole_domain {} "pete@purdue.edu@purdue.edu"
  obtain ⟨-, -, -, hrefused⟩ := emails_are_on_whole_domain {} "pete@purdue.edu@purdue.edu.evil"
  have haddress : IsAddress "pete@purdue.edu" "purdue.edu" "pete@purdue.edu@purdue.edu" :=
    ⟨by decide, by decide, by decide, by decide, by decide⟩
  exact ⟨(haccepted "pete@purdue.edu" "purdue.edu" (by decide) (by decide)).mpr
      ⟨rfl, haddress, by decide⟩,
    hrefused "pete@purdue.edu" "" ".evil" (by decide) (by decide) (by decide)⟩

end Forms

end CampusBoard
