import CampusBoard.Http.Message
import CampusBoard.Search.Engine

/-!
# The search index

A client of the search index asks it through a library, which writes the requests and reads the
replies. The library takes each hit apart into the document and the copy in which matches are
marked; the client puts the two together again.

## Main definitions

* `CampusBoard.IndexHit`: a document with its marked copy.
* `CampusBoard.IndexQuery`: what a library is asked to search.
* `CampusBoard.IndexLibrary`: a library for the index.
* `CampusBoard.IndexClient`, `CampusBoard.IndexClient.search`: a client of the index, and a whole
  search.
-/

set_option autoImplicit false

namespace CampusBoard

/-! ## Hits -/

/-- A hit that was taken apart: a document and its copy in which the matches are marked. -/
structure IndexHit where
  /-- The members of the document. -/
  document : Json.Members
  /-- The members of the marked copy, if there is one. -/
  formatted : Option Json.Members

namespace IndexHit

/-- The name under which the marked copy stands in a hit. -/
def formattedKey : String := "_formatted"

/-- The hit as one object: the document and its marked copy. -/
def toJson (h : IndexHit) : Json :=
  match h.formatted with
  | some copy => .object (h.document.insert formattedKey (.object copy))
  | none => .object h.document

end IndexHit

/-! ## Queries -/

/-- What a library is asked to search. -/
structure IndexQuery where
  /-- The name of the index. -/
  index : String
  /-- The words that are searched. -/
  text : String
  /-- The greatest number of hits in the reply. -/
  limit : Nat
  /-- The number of hits before those in the reply. -/
  offset : Nat
  /-- How matches are marked. -/
  highlight : Highlight
  /-- What must hold of a hit, if anything. -/
  filter : Option String
  /-- The sorts, if there are any. -/
  sort : Option (List String)
  deriving DecidableEq, Repr

/-- The query of a search. The filters are joined; filters and sorts are only set when there are
any. -/
def IndexQuery.ofRequest (r : SearchRequest) : IndexQuery :=
  let filter := " AND ".intercalate r.filters
  { index := r.index
    text := r.text
    limit := r.limit
    offset := r.offset
    highlight := r.highlight
    filter := if filter.isEmpty then none else some filter
    sort := if r.sort.isEmpty then none else some r.sort }

/-! ## Replies -/

/-- What a library reads from a reply that it accepts. -/
structure IndexResults where
  /-- The hits, taken apart. -/
  hits : List IndexHit
  /-- The estimated number of all hits, if the reply has one. -/
  estimatedTotalHits : Option UInt64

/-- The reply as a search takes it. The number of all hits is the one of the given hits when it is
not estimated. -/
def IndexResults.toReply (r : IndexResults) : IndexReply :=
  ⟨r.hits.map IndexHit.toJson, (r.estimatedTotalHits.map UInt64.toNat).getD r.hits.length⟩

/-- Why a library has no results. -/
inductive IndexFailure
  /-- The index reports a failure. -/
  | reported (message : String)
  /-- The index refuses the request with a status, perhaps with a message. -/
  | refused (status : Nat) (message : Option String)
  /-- Anything else, in the words of the library. -/
  | other (words : String)
  deriving DecidableEq, Repr

/-- The failure as the caller sees it. -/
def IndexFailure.toTransportError : IndexFailure → TransportError
  | .reported message => .client message
  | .refused status message => .status status (message.getD "")
  | .other words => .client words

/-! ## Clients -/

/-- A client of the search index. -/
structure IndexClient where
  /-- The address of the index. -/
  url : String
  /-- The key for the index, if it asks for one. -/
  key : Option String
  deriving DecidableEq, Repr

/-- A library for the index. How it writes and reads is left open. -/
structure IndexLibrary where
  /-- The names in a hit that the library keeps for itself. -/
  reserved : List String
  /-- The request that it sends for the query of a client. -/
  write : IndexClient → IndexQuery → Http.Request
  /-- What it reads from a reply, or says when there is none. -/
  read : Option Http.Reply → Except IndexFailure IndexResults

namespace IndexClient

/-- The client for the settings of searches. -/
def ofEngine (e : Engine) : IndexClient :=
  ⟨e.indexUrl, e.indexKey⟩

/-- Asks the index through a library. -/
def search (library : IndexLibrary) (network : Http.Network) (c : IndexClient)
    (r : SearchRequest) : Except TransportError IndexReply :=
  match library.read (network (library.write c (.ofRequest r))) with
  | .ok results => .ok results.toReply
  | .error failure => .error failure.toTransportError

end IndexClient

end CampusBoard
