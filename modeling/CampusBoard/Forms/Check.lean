import CampusBoard.Forms.Error
import CampusBoard.Settings.Basic
import CampusBoard.Text.Digit

/-!
# Checking form values

Lengths are counted in characters.

## Main definitions

* `CampusBoard.Forms.email`, `CampusBoard.Forms.password`, `CampusBoard.Forms.confirmation`,
  `CampusBoard.Forms.code`, `CampusBoard.Forms.description`: the checks.

## Main results

* `CampusBoard.Forms.accept_eq_ok_iff`: a check succeeds exactly when its condition holds.
-/

set_option autoImplicit false

namespace CampusBoard.Forms

/-- The outcome of a check. -/
abbrev Check := Except ValidationError Unit

/-- Accepts when the condition holds. -/
def accept (condition : Bool) (otherwise : ValidationError) : Check :=
  if condition then .ok () else .error otherwise

/-- A check passes exactly under its condition. -/
theorem accept_eq_ok_iff (condition : Bool) (otherwise : ValidationError) :
    accept condition otherwise = .ok () ↔ condition = true := by
  cases condition <;> simp [accept]

/-- What stands before and after the last at sign. -/
def mailboxAndDomain? (address : List Char) : Option (List Char × List Char) :=
  match address.reverse.dropWhile (· != '@') with
  | [] => none
  | _ :: mailbox => some (mailbox.reverse, (address.reverse.takeWhile (· != '@')).reverse)

/-- Whether an address has a mailbox of at least one character and no line break, and after its
last at sign exactly the given domain, which is not empty. -/
def isOnDomain (domain : String) (address : List Char) : Bool :=
  match mailboxAndDomain? address with
  | some (mailbox, host) =>
    !mailbox.isEmpty && !mailbox.contains '\n' && !host.isEmpty && host == domain.toList
  | none => false

/-- An email: an address on the configured domain that is not too long. -/
def email (account : AccountSettings) (value : String) : Check :=
  accept (isOnDomain account.emailDomain value.toList && value.length ≤ account.maxChars.toNat)
    .invalidEmail

/-- A password: not empty and of a length within the configured bounds. -/
def password (account : AccountSettings) (value : String) : Check :=
  accept (0 < value.length && account.minPasswordLength.toNat ≤ value.length &&
      value.length ≤ account.maxChars.toNat)
    (.passwordLength account.minPasswordLength.toNat account.maxChars.toNat)

/-- A confirmation: the same as the password. -/
def confirmation (password confirm : String) : Check :=
  accept (password == confirm) .passwordMismatch

/-- A verification code: decimal digits only, exactly as many as configured and at least one. -/
def code (account : AccountSettings) (value : String) : Check :=
  accept (!value.toList.isEmpty && value.toList.all Text.isDecimalDigit &&
      value.length == account.codeLength.toNat)
    (.invalidCode account.codeLength.toNat)

/-- A description: of a length within the configured bounds. -/
def description (reviews : ReviewSettings) (value : String) : Check :=
  accept (reviews.minChars.toNat ≤ value.length && value.length ≤ reviews.maxChars.toNat)
    (.invalidDescription reviews.minChars.toNat reviews.maxChars.toNat)

end CampusBoard.Forms
