import CampusBoard.Text.Blank

/-!
# Failed calls

A call over the network fails either with a reply that reports a failure or without a usable reply.

## Main definitions

* `CampusBoard.TransportError`: the two ways of failing.
* `CampusBoard.TransportError.message`: the full text.
* `CampusBoard.TransportError.userMessage`: the short text for a banner.
-/

set_option autoImplicit false

namespace CampusBoard

/-- How a call over the network failed. -/
inductive TransportError
  /-- The reply had a status that reports a failure. -/
  | status (code : Nat) (body : String)
  /-- There was no reply, or none that could be used. -/
  | client (reason : String)
  deriving DecidableEq, Repr

/-- The first `n` characters of `s`. -/
def firstChars (n : Nat) (s : String) : String :=
  String.ofList (s.toList.take n)

namespace TransportError

/-- The full text of a failure. -/
def message : TransportError → String
  | .status code _ => "HTTP error! status: " ++ toString code
  | .client reason => "client error: " ++ reason

/-- The text a user should read: the body of the reply, or the full text when that body is blank,
or the reason. -/
def explanation : TransportError → String
  | .status code body => if Text.isBlankText body then message (.status code body) else body
  | .client reason => reason

/-- The explanation, cut to `maxChars` characters. -/
def userMessage (maxChars : Nat) (e : TransportError) : String :=
  firstChars maxChars e.explanation

end TransportError

end CampusBoard
