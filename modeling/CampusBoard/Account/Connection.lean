import CampusBoard.Account.Session
import CampusBoard.Http.Client

/-!
# Sessions over the network

A session makes its calls through the client of a service, which learns cookies from the replies.

## Main definitions

* `CampusBoard.Http.Client.exchanges`: makes calls one after another.
* `CampusBoard.Connection`: a session with its client.
* `CampusBoard.Connection.perform`: an action over the network.
* `CampusBoard.Connection.after`: the connection after a sequence of actions.
-/

set_option autoImplicit false

namespace CampusBoard

/-- Makes calls one after another: the requests that were sent, and the client afterwards. -/
def Http.Client.exchanges (network : Http.Network) :
    List Call → Http.Client → List Http.Request × Http.Client
  | [], c => ([], c)
  | call :: rest, c =>
    let first := c.exchange network call
    let (sent, last) := exchanges network rest first.client
    (first.sent :: sent, last)

/-- A session whose calls go through a client. -/
structure Connection where
  /-- The session. -/
  session : Session
  /-- The client of the service. -/
  client : Http.Client
  deriving DecidableEq, Repr

/-- An action over the network with what it did. -/
structure ConnectedAttempt where
  /-- The connection afterwards. -/
  connection : Connection
  /-- The requests that were sent. -/
  sent : List Http.Request
  /-- Whether the action succeeded. -/
  result : Except FlowError Unit

namespace Connection

/-- Does an action at `now`. -/
def perform (rules : AccountRules) (network : Http.Network) (now : Nat) (f : Flow)
    (c : Connection) : ConnectedAttempt :=
  let attempt := c.session.perform rules (c.client.service network) now f
  let (sent, client) := c.client.exchanges network attempt.sent
  ⟨⟨attempt.session, client⟩, sent, attempt.result⟩

/-- An action at a moment, with what would answer its request. -/
structure Event where
  /-- The moment in milliseconds. -/
  now : Nat
  /-- The action. -/
  flow : Flow
  /-- What would answer the request. -/
  network : Http.Network

/-- The connection after a sequence of actions. -/
def after (rules : AccountRules) (c : Connection) (events : List Event) : Connection :=
  events.foldl (fun c e => (c.perform rules e.network e.now e.flow).connection) c

end Connection

end CampusBoard
