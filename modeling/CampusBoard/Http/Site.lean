import CampusBoard.Http.Client
import CampusBoard.Json.Records
import CampusBoard.Settings.Basic
import CampusBoard.Traffic.Bar
import CampusBoard.Votes.Batch

/-!
# The services of the site

## Main definitions

* `CampusBoard.Http.Client.swap`, `CampusBoard.Http.Client.housing`, `CampusBoard.Http.Client.home`:
  the clients of the three services.
* `CampusBoard.Http.Client.visitors`: asks for the bars of the traffic chart.
* `CampusBoard.VoteBatch.delivery`: the call that delivers a batch of votes.
-/

set_option autoImplicit false

namespace CampusBoard

/-! ## Votes -/

/-- A batch as it is sent: the votes by their reviews. -/
def VoteBatch.toJson (b : VoteBatch) : Json :=
  .object (b.entries.map fun e => (e.1.text, Decode.ofLabel e.2))

/-- The call that delivers a batch. -/
def VoteBatch.delivery (b : VoteBatch) : Call :=
  .postJson "/update-thumbs" b.toJson

namespace Http

/-! ## Visitors -/

/-- The call that asks for the bars of the traffic chart. -/
def visitorsCall : Call :=
  .post "/visitors"

/-- The failure that stands for a body that is no list of bars. -/
def malformedVisitors : TransportError :=
  .client "malformed visitors: error decoding response body"

/-- The bars in a body. Of a bar that is an object nothing but the members for its fields is
read. -/
def readBars (body : String) : Except TransportError (List TrafficBar) :=
  match (Json.records? TrafficBar.shape.fields body).map (List.mapM TrafficBar.read) with
  | some (.ok bars) => .ok bars
  | some (.error _) => .error malformedVisitors
  | none => .error malformedVisitors

namespace Client

/-- A client of the marketplace. -/
def swap (e : EndpointSettings) : Client :=
  .ofBase e.swapBackend

/-- A client of the housing pages. -/
def housing (e : EndpointSettings) : Client :=
  .ofBase e.housingBackend

/-- A client of the home page. -/
def home (e : EndpointSettings) : Client :=
  .ofBase e.homeBackend

/-- The bars of the traffic chart, in the order in which the service sends them. -/
def visitors (network : Network) (c : Client) : Except TransportError (List TrafficBar) := do
  let body ← (c.exchange network visitorsCall).result
  readBars body

end Client

end Http

end CampusBoard
