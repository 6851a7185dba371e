import CampusBoard.Http.Cookie
import CampusBoard.Http.Message

/-!
# Clients of a service

A client makes the calls to one service, whose paths follow its address. It keeps the cookies that
the service sets, so a session that one call starts is known to the later ones.

## Main definitions

* `CampusBoard.Http.Client`: a client.
* `CampusBoard.Http.Client.url`, `CampusBoard.Http.Client.request`: the address and the request of a
  call.
* `CampusBoard.Http.Client.exchange`: makes a call.
* `CampusBoard.Http.Client.service`: the client as what answers calls.
-/

set_option autoImplicit false

namespace CampusBoard.Http

/-- An address without the slashes at its end. -/
def withoutSlashes (address : String) : String :=
  String.ofList (address.toList.reverse.dropWhile (· == '/')).reverse

/-- A client of a service. -/
structure Client where
  /-- The address of the service, without slashes at its end. -/
  base : String
  /-- The cookies of the service. -/
  jar : CookieJar
  deriving DecidableEq, Repr

/-- A call with what it did. -/
structure Exchange where
  /-- The client afterwards. -/
  client : Client
  /-- The request that was sent. -/
  sent : Request
  /-- The body of the reply to a call that succeeded. -/
  result : Except TransportError String

/-- The failure that stands for a request without a reply. -/
def noReply : TransportError :=
  .client "error sending request"

/-- The body of a reply that reports success; the body of any other reply tells the failure. -/
def bodyOf : Option Reply → Except TransportError String
  | some reply =>
    if reply.isSuccess then .ok reply.body else .error (.status reply.status reply.body)
  | none => .error noReply

namespace Client

/-- A client of the service at an address. -/
def ofBase (address : String) : Client :=
  ⟨withoutSlashes address, .empty⟩

/-- The address of a path. -/
def url (c : Client) (path : String) : String :=
  c.base ++ path

/-- The headers that send cookies along. -/
def cookieHeaders (c : Client) (path : String) : Headers :=
  match c.jar.header? (pathOf (c.url path)) with
  | some value => [("cookie", value)]
  | none => []

/-- The request of a call. -/
def request (c : Client) (call : Call) : Request where
  method := call.method
  url := c.url call.path
  headers := contentHeaders call.body ++ c.cookieHeaders call.path
  body := call.body

/-- The client after a reply to a request for `path`. -/
def learn (c : Client) (path : String) : Option Reply → Client
  | some reply =>
    { c with jar := c.jar.learn (pathOf (c.url path)) (reply.headers.valuesOf "set-cookie") }
  | none => c

/-- Makes a call. -/
def exchange (network : Network) (call : Call) (c : Client) : Exchange :=
  let request := c.request call
  let reply := network request
  ⟨c.learn call.path reply, request, bodyOf reply⟩

/-- The client as what answers calls. -/
def service (network : Network) (c : Client) : Service := fun call =>
  (c.exchange network call).result.map fun _ => ()

end Client

end CampusBoard.Http
