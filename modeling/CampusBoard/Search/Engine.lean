import CampusBoard.Search.Controller

/-!
# Searching

A search sends the request of a controller to an index and gives the reply back to the controller.
The two halves can be taken apart, so that the controller can be changed in between.

## Main definitions

* `CampusBoard.IndexReply`: what an index answers.
* `CampusBoard.Engine`: the settings of searches.
* `CampusBoard.Engine.outcome`: the hits of a reply as records.
* `CampusBoard.Engine.search`: a whole search.
-/

set_option autoImplicit false

namespace CampusBoard

/-- What an index answers: one page of hits and an estimate of the number of all. -/
structure IndexReply where
  /-- The hits, as the index holds them. -/
  hits : List Json
  /-- The estimated number of all hits. -/
  estimatedTotalHits : Nat

/-- The settings of searches. -/
structure Engine where
  /-- The address of the index. -/
  indexUrl : String
  /-- The key for the index, if it asks for one. -/
  indexKey : Option String
  /-- How results are paged and how matches are marked. -/
  settings : SearchSettings
  /-- The greatest length of an error that is shown. -/
  errorMaxChars : UInt64
  deriving DecidableEq, Repr

/-- A search with what it sent. -/
structure Searched (d : Domain) where
  /-- The requests that were sent to the index. -/
  sent : List SearchRequest
  /-- The controller afterwards. -/
  transition : Transition d
  /-- Whether the search succeeded. -/
  result : Except TransportError Unit

namespace Engine

variable {d : Domain}

/-- The settings of searches among all settings. -/
def ofSettings (s : Settings) : Engine where
  indexUrl := s.endpoints.indexUrl
  indexKey := s.endpoints.indexKey
  settings := s.search
  errorMaxChars := s.account.errorMaxChars

/-- The request of a controller. -/
def request (e : Engine) (c : Controller d) : SearchRequest :=
  c.request e.settings

/-- The failure that stands for a hit that is no record. -/
def malformedHit (e : DecodeError) : TransportError :=
  .client ("malformed hit: " ++ e.message)

/-- The records of a reply. The first hit that is no record makes the whole reply a failure. -/
def records (d : Domain) (reply : IndexReply) : Except TransportError (ResultSet d) :=
  match reply.hits.mapM d.readRecord with
  | .ok records => .ok ⟨records, reply.estimatedTotalHits⟩
  | .error e => .error (malformedHit e)

/-- The outcome of a call to the index. -/
def outcome (d : Domain) (reply : Except TransportError IndexReply) :
    Except TransportError (ResultSet d) :=
  reply.bind (records d)

/-- Gives the outcome of a call to a controller. -/
def apply (e : Engine) (outcome : Except TransportError (ResultSet d)) (c : Controller d) :
    Transition d :=
  c.applyOutcome e.errorMaxChars.toNat outcome

/-- Sends the request of a controller to an index and gives it the reply. -/
def search (e : Engine) (index : SearchRequest → Except TransportError IndexReply)
    (c : Controller d) : Searched d :=
  let request := e.request c
  let outcome := Engine.outcome d (index request)
  ⟨[request], e.apply outcome c, outcome.map fun _ => ()⟩

end Engine

end CampusBoard
