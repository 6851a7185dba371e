import CampusBoard.Proofs.Decode.Overlays
import CampusBoard.Proofs.Json.Records
import CampusBoard.Proofs.Search.Outcomes
import CampusBoard.Search.Index
import Mathlib

/-!
# Hits on their way from the index

What the index sends for a search arrives unaltered: as many hits, in the same order, each with its
marked copy.

## Design

The library that writes the requests and reads the replies is not part of this development. What is
relied on is said by `IndexLibrary.IsFaithful`: a query is written under the names that the index
asks for, and a hit is taken apart into its document and its marked copy. It is left open which
replies are accepted, and what becomes of hits with other names that the library keeps for itself;
`IndexHit.IsPlain` excludes these. A hit is an object, whose members have no order, so what arrives
is compared with the normal form of what was sent.

## Main definitions

* `CampusBoard.IndexHit.IsPlain`, `CampusBoard.IndexHit.markedCopy`: hits of which nothing is lost,
  and the marked copy in a hit.
* `CampusBoard.Http.Reply.Lists`: the hits that a reply has, and its estimate of their number.
* `CampusBoard.IndexLibrary.IsFaithful`: what is relied on in a library.
* `CampusBoard.IndexClient.Carries`: what the body of a search says.

## Main results

* `CampusBoard.IndexHit.toJson_split`: a plain hit that is taken apart is put together again.
* `CampusBoard.IndexLibrary.IsFaithful.exists_body`: the body of a search.
* `CampusBoard.IndexClient.hits_arrive_unaltered`: a whole search.
-/

set_option autoImplicit false

namespace CampusBoard

/-! ## Hits -/

namespace IndexHit

/-- A hit that says of itself nothing but its marked copy: an object without members whose names are
reserved, marked copies apart. -/
def IsPlain (reserved : List String) (hit : Json) : Prop :=
  ∃ members : Json.Members, hit = .object members ∧
    ∀ m ∈ members, (m.1 = formattedKey ∧ ∃ copy, m.2 = .object copy) ∨
      (m.1 ≠ formattedKey ∧ m.1 ∉ reserved)

/-- The marked copy in a hit, if there is one. -/
def markedCopy (hit : Json) : Option Json.Members :=
  match hit.normal.get? formattedKey with
  | some (.object copy) => some copy
  | _ => none

/-- The members of a hit, sorted by name, without its marked copy. -/
def documentOf (hit : Json) : Json.Members :=
  match hit.normal with
  | .object members => members.filter fun m => m.1 ≠ formattedKey
  | _ => []

/-- A hit taken apart. -/
def split (hit : Json) : IndexHit :=
  ⟨documentOf hit, markedCopy hit⟩

variable {reserved : List String} {hit : Json}

/-- The normal form of a plain hit is an object with sorted members, whose marked copy, if there is
one, is an object. -/
lemma IsPlain.exists_normal (h : IsPlain reserved hit) :
    ∃ members : Json.Members, hit.normal = .object members ∧ members.Sorted ∧
      ∀ v, members.lookup formattedKey = some v → ∃ copy, v = .object copy := by
  obtain ⟨members, rfl, hplain⟩ := h
  refine ⟨_, rfl, Json.sorted_normalMembers List.Pairwise.nil, ?_⟩
  intro v hv
  rcases Json.mem_of_mem_normalMembers (Json.Members.mem_of_lookup hv) with hnil | hvalue
  · cases hnil
  · obtain ⟨member, hmember, heq⟩ := List.mem_map.mp hvalue
    obtain ⟨hname, rfl⟩ := Prod.mk.inj heq
    rcases hplain member hmember with ⟨-, copy, hcopy⟩ | ⟨hother, -⟩
    · exact ⟨Json.normalMembers [] copy, by rw [hcopy, Json.normal]⟩
    · exact absurd hname hother

/-- **A plain hit that is taken apart is put together again**, up to the order of its members.

**Proof sketch.** The members of the normal form are sorted. Without a marked copy there is nothing
to take out; a marked copy that is taken out of sorted members goes back to its place. -/
theorem toJson_split (h : IsPlain reserved hit) : (split hit).toJson = hit.normal := by
  obtain ⟨members, hnormal, hsorted, hcopy⟩ := h.exists_normal
  have hdocument : documentOf hit = members.filter fun m => m.1 ≠ formattedKey := by
    rw [documentOf, hnormal]
  cases hlookup : members.lookup formattedKey with
  | none =>
    have hmarked : markedCopy hit = none := by
      rw [markedCopy, hnormal, Json.get?_object, hlookup]
    have hall : documentOf hit = members := by
      rw [hdocument, List.filter_eq_self]
      intro m hm
      simpa using Json.Members.ne_of_lookup_eq_none hlookup m hm
    rw [toJson, split, hmarked, hall, hnormal]
  | some v =>
    obtain ⟨copy, rfl⟩ := hcopy v hlookup
    have hmarked : markedCopy hit = some copy := by
      rw [markedCopy, hnormal, Json.get?_object, hlookup]
    rw [toJson, split, hmarked, hdocument, hnormal]
    exact congrArg Json.object (hsorted.insert_filter hlookup)

end IndexHit

/-! ## Replies -/

namespace Http.Reply

/-- The estimate of the number of all hits: it may be missing or null, and else is a number. -/
def IsEstimate (v? : Option Json) : Option UInt64 → Prop
  | none => v? = none ∨ v? = some .null
  | some n => v? = some (.integer n.toNat)

/-- A reply has these hits and this estimate of the number of all: its body is an object with a list
of hits and perhaps an estimate, neither of them twice. -/
def Lists (reply : Reply) (raw : List Json) (total : Option UInt64) : Prop :=
  ∃ members : Json.Members,
    Json.record? ["hits", "estimatedTotalHits"] reply.body = some (.object members) ∧
    members.AtMostOnce ["hits", "estimatedTotalHits"] ∧
    members.lookup "hits" = some (.list raw) ∧
    IsEstimate (members.lookup "estimatedTotalHits") total

/-- A reply whose body is read as an object has the hits and the estimate of this object. -/
lemma lists_iff_of_parse? {reply : Reply} {members : Json.Members}
    (h : Json.parse? reply.body = some (.object members)) {raw : List Json}
    {total : Option UInt64} :
    reply.Lists raw total ↔
      members.AtMostOnce ["hits", "estimatedTotalHits"] ∧
      members.lookup "hits" = some (.list raw) ∧
      IsEstimate (members.lookup "estimatedTotalHits") total := by
  rw [Lists, Json.record?_of_parse? _ h]
  simp only [Json.keep, Option.some.injEq, Json.object.injEq, exists_eq_left',
    Json.Members.atMostOnce_keep]
  rw [Json.Members.lookup_keep (by decide), Json.Members.lookup_keep (by decide)]

end Http.Reply

/-! ## Libraries -/

/-- What is relied on in a library for the index. -/
structure IndexLibrary.IsFaithful (library : IndexLibrary) : Prop where
  /-- The request for a query has a body, where the parts of the query stand under the names that
  the index asks for; what is not set is left out. -/
  writes : ∀ client query, ∃ body, (library.write client query).body = some body ∧
    body.get? "q" = some (.text query.text) ∧
    body.get? "limit" = some (.integer query.limit) ∧
    body.get? "offset" = some (.integer query.offset) ∧
    body.get? "attributesToHighlight" =
      some (.list (query.highlight.attributes.map .text)) ∧
    body.get? "highlightPreTag" = some (.text query.highlight.preTag) ∧
    body.get? "highlightPostTag" = some (.text query.highlight.postTag) ∧
    body.get? "filter" = query.filter.map .text ∧
    body.get? "sort" = query.sort.map fun sort => .list (sort.map .text)
  /-- The plain hits of a reply that is accepted are taken apart, and the estimate is kept. -/
  splits : ∀ reply results raw total, library.read (some reply) = .ok results →
    reply.Lists raw total → (∀ hit ∈ raw, IndexHit.IsPlain library.reserved hit) →
    results = ⟨raw.map IndexHit.split, total⟩

/-! ## Requests -/

namespace IndexClient

/-- What the body of a search says. Filters are joined; they are named unless there are none or the
only one is empty. -/
structure Carries (r : SearchRequest) (body : Json) : Prop where
  /-- The words that are searched. -/
  text : body.get? "q" = some (.text r.text)
  /-- The greatest number of hits in the reply. -/
  limit : body.get? "limit" = some (.integer r.limit)
  /-- The number of hits before those in the reply. -/
  offset : body.get? "offset" = some (.integer r.offset)
  /-- The attributes in which matches are marked. -/
  attributes :
    body.get? "attributesToHighlight" = some (.list (r.highlight.attributes.map .text))
  /-- What stands before a match. -/
  preTag : body.get? "highlightPreTag" = some (.text r.highlight.preTag)
  /-- What stands after a match. -/
  postTag : body.get? "highlightPostTag" = some (.text r.highlight.postTag)
  /-- All filters in their order. -/
  filter : body.get? "filter" =
    if r.filters = [] ∨ r.filters = [""] then none
    else some (.text (" AND ".intercalate r.filters))
  /-- The sorts in their order. -/
  sort : body.get? "sort" = if r.sort = [] then none else some (.list (r.sort.map .text))

/-- Joined texts are empty if there are none or the only one is empty. -/
lemma intercalate_eq_empty_iff (texts : List String) :
    " AND ".intercalate texts = "" ↔ texts = [] ∨ texts = [""] := by
  match texts with
  | [] => simp
  | [text] => simp
  | first :: second :: rest => simp [String.intercalate_cons_cons, String.append_eq_empty_iff]

end IndexClient

/-- A query has a filter unless the search has none or the only one is empty. -/
lemma IndexQuery.filter_ofRequest (r : SearchRequest) :
    (ofRequest r).filter =
      if r.filters = [] ∨ r.filters = [""] then none
      else some (" AND ".intercalate r.filters) := by
  simp only [ofRequest, String.isEmpty_iff, IndexClient.intercalate_eq_empty_iff]

/-- A query has sorts if the search does. -/
lemma IndexQuery.sort_ofRequest (r : SearchRequest) :
    (ofRequest r).sort = if r.sort = [] then none else some r.sort := by
  simp only [ofRequest, List.isEmpty_iff]

/-- **The body of a search** says all that the search says. -/
theorem IndexLibrary.IsFaithful.exists_body {library : IndexLibrary} (h : library.IsFaithful)
    (client : IndexClient) (r : SearchRequest) :
    ∃ body, (library.write client (.ofRequest r)).body = some body ∧
      IndexClient.Carries r body := by
  obtain ⟨body, hbody, htext, hlimit, hoffset, hattributes, hpreTag, hpostTag, hfilter, hsort⟩ :=
    h.writes client (.ofRequest r)
  refine ⟨body, hbody, ⟨htext, hlimit, hoffset, hattributes, hpreTag, hpostTag, ?_, ?_⟩⟩
  · rw [hfilter, IndexQuery.filter_ofRequest]
    split_ifs <;> rfl
  · rw [hsort, IndexQuery.sort_ofRequest]
    split_ifs <;> rfl

/-! ## Records -/

/-- An item keeps the marked copy that it is read with. -/
lemma Item.given_formatted {members : Json.Members} {item : Item}
    (h : Item.read (.object members) = .ok item) :
    Decode.Given (Decode.optional Decode.anyObject) (some none) (members.lookup Item.formattedKey)
      item.formatted := by
  simp only [Item.read, Decode.Shape.read, Decode.Shape.ofMembers] at h
  split at h
  · cases h
  obtain ⟨construct, copy, hearlier, hcopy, rfl⟩ := Decode.Shape.build_field_eq_ok_iff.mp h
  have hlast (s : Decode.Shape (Option Json.Members → Item)) (hs : s.Yields (fun _ => True)
      fun construct => ∀ copy, (construct copy).formatted = copy)
      (hbuild : s.build (members.lookup ·) = .ok construct) : (construct copy).formatted = copy :=
    hs.ofBuild _ _ (fun _ _ _ => trivial) hbuild copy
  rw [hlast _ ?_ hearlier]
  · exact hcopy
  · -- What the eight earlier fields hold does not matter.
    iterate 8 refine Decode.Shape.Yields.anyField ?_
    exact Decode.Shape.yields_ofConstructor fun _ _ _ _ _ _ _ _ _ => rfl

/-- An item that is read from a hit has the marked copy of the hit. -/
lemma Item.formatted_of_read {reserved : List String} {hit : Json}
    (hplain : IndexHit.IsPlain reserved hit) {item : Item}
    (h : Item.read hit.normal = .ok item) : item.formatted = IndexHit.markedCopy hit := by
  obtain ⟨members, hnormal, -⟩ := hplain.exists_normal
  rw [hnormal] at h
  have hgiven := Item.given_formatted h
  rw [Decode.given_optional_iff fun _ => by simp [Decode.anyObject_eq_ok_iff]] at hgiven
  have hcopy : IndexHit.markedCopy hit =
      match members.lookup Item.formattedKey with
      | some (.object copy) => some copy
      | _ => none := by
    rw [IndexHit.markedCopy, hnormal, Json.get?_object]
    rfl
  rw [hcopy]
  cases hformatted : item.formatted with
  | none =>
    rw [hformatted] at hgiven
    rcases hgiven with hnone | hnull
    · rw [hnone]
    · rw [hnull]
  | some copy =>
    rw [hformatted] at hgiven
    obtain ⟨v, hv, hread⟩ := hgiven
    rw [hv, Decode.anyObject_eq_ok_iff.mp hread]

namespace Engine

variable {d : Domain} (e : Engine) {index : SearchRequest → Except TransportError IndexReply}
  {c : Controller d} {reply : IndexReply}

/-- A search whose reply has come succeeds if each hit is a record, and then shows these records. -/
lemma search_of_reply (h : index (e.request c) = .ok reply) :
    ((e.search index c).result = .ok () ↔
        ∀ hit ∈ reply.hits, ∃ record, d.readRecord hit = .ok record) ∧
      ((e.search index c).result = .ok () →
        List.Forall₂ (fun hit record => d.readRecord hit = .ok record) reply.hits
          (e.search index c).transition.state.results.records) := by
  have houtcome : outcome d (index (e.request c)) = records d reply := by
    rw [h]
    rfl
  cases hrecords : records d reply with
  | ok results =>
    have htook := tookOver_of_outcome e index c (houtcome.trans hrecords) hrecords
    have hread := ((records_eq_ok_iff reply results).mp hrecords).1
    have hshown : (e.search index c).transition.state.results = results := by
      rw [search_eq, houtcome, hrecords]
      exact congrArg Controller.results
        (Controller.state_applyOutcome_ok e.errorMaxChars.toNat results c)
    refine ⟨⟨fun _ hit hhit => ?_, fun _ => htook.succeeded⟩, fun _ => hshown ▸ hread⟩
    obtain ⟨i, hi, rfl⟩ := List.getElem_of_mem hhit
    exact ⟨_, hread.get hi (hread.length_eq ▸ hi)⟩
  | error failure =>
    have hfailed := (failed_of_outcome e index c (houtcome.trans hrecords)).1
    obtain ⟨_, ⟨before, hit, after, hhits, -, hrefused⟩, -⟩ :=
      (records_eq_error_iff reply failure).mp hrecords
    refine ⟨⟨fun hok => ?_, fun hall => ?_⟩, fun hok => ?_⟩
    · rw [hfailed] at hok
      cases hok
    · obtain ⟨record, hrecord⟩ := hall hit (by simp [hhits])
      rw [hrefused] at hrecord
      cases hrecord
    · rw [hfailed] at hok
      cases hok

end Engine

/-! ## Whole searches -/

namespace IndexClient

/-- **Hits arrive unaltered.** A search sends a request whose body carries all that is searched for.
Nothing but a reply that the library accepts makes it succeed. If the hits of an accepted reply are
plain, it does succeed, with as many hits in the same order, each as it was sent, and with the
estimate of the number of all hits or else the number of these. So a search for items shows them if
each hit is one, and the marked copy of each is that of its hit.

**Proof sketch.** The plain hits are taken apart by the library and put together again one by one,
and the marked copy of an item is its last field. -/
theorem hits_arrive_unaltered (library : IndexLibrary) (hlibrary : library.IsFaithful)
    (network : Http.Network) (client : IndexClient) (r : SearchRequest) :
    ∃ request body, library.write client (.ofRequest r) = request ∧ request.body = some body ∧
      Carries r body ∧
      ∀ reply, network request = some reply →
        (∀ result, client.search library network r = .ok result →
          ∃ results, library.read (some reply) = .ok results) ∧
        ∀ results raw total, library.read (some reply) = .ok results → reply.Lists raw total →
          (∀ hit ∈ raw, IndexHit.IsPlain library.reserved hit) →
          client.search library network r =
            .ok ⟨raw.map Json.normal, (total.map UInt64.toNat).getD raw.length⟩ ∧
          ∀ (e : Engine) (c : Controller .items), c.request e.settings = r →
            ((e.search (client.search library network) c).result = .ok () ↔
              ∀ hit ∈ raw, ∃ item, Item.read hit.normal = .ok item) ∧
            ((e.search (client.search library network) c).result = .ok () →
              List.Forall₂
                (fun hit (item : Item) => Item.read hit.normal = .ok item ∧
                  item.formatted = IndexHit.markedCopy hit)
                raw
                (e.search (client.search library network) c).transition.state.results.records) := by
  obtain ⟨body, hbody, hcarries⟩ := hlibrary.exists_body client r
  refine ⟨_, body, rfl, hbody, hcarries, fun reply hreply => ⟨fun result hresult => ?_, ?_⟩⟩
  · rw [search, hreply] at hresult
    cases hread : library.read (some reply) with
    | ok results => exact ⟨results, rfl⟩
    | error failure =>
      rw [hread] at hresult
      cases hresult
  intro results raw total hread hlists hplain
  obtain rfl := hlibrary.splits reply results raw total hread hlists hplain
  have hsearch : client.search library network r =
      .ok ⟨raw.map Json.normal, (total.map UInt64.toNat).getD raw.length⟩ := by
    have hjson : (raw.map IndexHit.split).map IndexHit.toJson = raw.map Json.normal := by
      rw [List.map_map]
      exact List.map_congr_left fun hit hhit => IndexHit.toJson_split (hplain hit hhit)
    rw [search, hreply, hread]
    simp only [IndexResults.toReply, hjson, List.length_map]
  refine ⟨hsearch, fun e c hrequest => ?_⟩
  obtain ⟨hsucceeds, hshows⟩ := Engine.search_of_reply (c := c) e (hrequest.symm ▸ hsearch)
  rw [List.forall_mem_map] at hsucceeds
  refine ⟨hsucceeds, fun hok => ?_⟩
  have hread := List.forall₂_map_left_iff.mp (hshows hok)
  refine ((List.forall₂_and_left _ _).mpr ⟨hplain, hread⟩).imp ?_
  rintro hit item ⟨hhit, hitem⟩
  exact ⟨hitem, Item.formatted_of_read hhit hitem⟩

/-- A lamp for sale, as an index that found it by its title sends it. -/
def markedLamp : Json :=
  .object [("title", .text "Lamp"), ("condition", .text "Good"), ("description", .text ""),
    ("emoji", .text "Chair"), ("item_type", .text "Furniture"), ("location", .text "WileyHall"),
    ("_formatted", .object [("title", .text "<mark>Lamp</mark>")])]

/-- The reply with the lamp. -/
def markedLampReply : Http.Reply where
  status := 200
  headers := []
  body := "\x7b\"hits\":[\x7b\"title\":\"Lamp\",\"condition\":\"Good\",\"description\":\"\"," ++
    "\"emoji\":\"Chair\",\"item_type\":\"Furniture\",\"location\":\"WileyHall\"," ++
    "\"_formatted\":\x7b\"title\":\"<mark>Lamp</mark>\"\x7d\x7d]," ++
    "\"processingTimeMs\":1,\"query\":\"lamp\"\x7d"

/-- The body of a query as the index asks for it. -/
def queryBody (q : IndexQuery) : Json :=
  .object ([("q", .text q.text), ("limit", .integer q.limit), ("offset", .integer q.offset),
      ("attributesToHighlight", .list (q.highlight.attributes.map .text)),
      ("highlightPreTag", .text q.highlight.preTag),
      ("highlightPostTag", .text q.highlight.postTag)] ++
    Decode.member? "filter" .text q.filter ++
    Decode.member? "sort" (fun sort => .list (sort.map .text)) q.sort)

/-- A library that knows no reply but the one with the lamp. -/
def lampLibrary : IndexLibrary where
  reserved := ["_formatted", "_matchesPosition", "_rankingScore", "_rankingScoreDetails"]
  write client query := ⟨.post, client.url ++ "/indexes/" ++ query.index ++ "/search",
    Http.contentHeaders (some (queryBody query)), some (queryBody query)⟩
  read
    | some reply =>
      if reply = markedLampReply then .ok ⟨[IndexHit.split markedLamp], none⟩
      else .error (.other "Error parsing response JSON")
    | none => .error (.other "HTTP request failed: error sending request")

/-- The reply with the lamp has this hit alone and no estimate. -/
lemma lists_markedLampReply_iff {raw : List Json} {total : Option UInt64} :
    markedLampReply.Lists raw total ↔ raw = [markedLamp] ∧ total = none := by
  have hparse : Json.parse? markedLampReply.body = some (.object [("hits", .list [markedLamp]),
      ("processingTimeMs", .integer 1), ("query", .text "lamp")]) := by cbv
  rw [Http.Reply.lists_iff_of_parse? hparse]
  cases total <;>
    simp [Json.Members.AtMostOnce, Json.Members.lookup, Http.Reply.IsEstimate, eq_comm]

/-- Such a library is faithful. -/
lemma isFaithful_lampLibrary : lampLibrary.IsFaithful where
  writes client query := by
    refine ⟨queryBody query, rfl, ?_⟩
    cases hfilter : query.filter <;> cases hsort : query.sort <;>
      simp [queryBody, hfilter, hsort, Decode.member?, Json.get?_object, Json.Members.lookup]
  splits reply results raw total hread hlists _ := by
    simp only [lampLibrary] at hread
    split_ifs at hread with hreply
    subst hreply
    obtain ⟨rfl, rfl⟩ := lists_markedLampReply_iff.mp hlists
    exact (Except.ok.inj hread).symm

/-- A search that finds the lamp shows it with its marked copy. -/
theorem hits_arrive_unaltered_markedLamp :
    let client : IndexClient := ofEngine (.ofSettings {})
    let network : Http.Network := fun _ => some markedLampReply
    lampLibrary.IsFaithful ∧ markedLampReply.Lists [markedLamp] none ∧
      IndexHit.IsPlain lampLibrary.reserved markedLamp ∧
      client.search lampLibrary network (Engine.noItems.request {}) =
        .ok ⟨[markedLamp.normal], 1⟩ ∧
      List.Forall₂
        (fun hit (item : Item) => Item.read hit.normal = .ok item ∧
          item.formatted = IndexHit.markedCopy hit)
        [markedLamp]
        ((Engine.ofSettings {}).search (client.search lampLibrary network)
          Engine.noItems).transition.state.results.records := by
  intro client network
  have hlists : markedLampReply.Lists [markedLamp] none :=
    lists_markedLampReply_iff.mpr ⟨rfl, rfl⟩
  have hplain : IndexHit.IsPlain lampLibrary.reserved markedLamp :=
    ⟨_, rfl, by simp [lampLibrary, IndexHit.formattedKey]⟩
  have hitem : ∃ item, Item.read markedLamp.normal = .ok item := ⟨_, rfl⟩
  have hread : lampLibrary.read (some markedLampReply) =
      .ok ⟨[IndexHit.split markedLamp], none⟩ := by simp [lampLibrary]
  obtain ⟨_, _, rfl, -, -, hreplies⟩ := hits_arrive_unaltered lampLibrary isFaithful_lampLibrary
    network client (Engine.noItems.request {})
  have hhits : ∀ hit ∈ [markedLamp], IndexHit.IsPlain lampLibrary.reserved hit := by
    simpa using hplain
  obtain ⟨hsearch, hshows⟩ := (hreplies markedLampReply rfl).2 _ _ _ hread hlists hhits
  obtain ⟨hsucceeds, hshown⟩ := hshows (.ofSettings {}) Engine.noItems rfl
  exact ⟨isFaithful_lampLibrary, hlists, hplain, hsearch,
    hshown (hsucceeds.mpr (by simpa using hitem))⟩

/-- A search for a lamp with an empty filter. -/
def emptyFilterRequest : SearchRequest :=
  ⟨"items", "lamp", [""], [], 12, 0, ⟨["title", "description"], "<mark>", "</mark>"⟩⟩

/-- An empty filter is left out, although it is there. -/
theorem emptyFilter_left_out :
    ∃ body, (lampLibrary.write (ofEngine (.ofSettings {})) (.ofRequest emptyFilterRequest)).body =
        some body ∧
      ¬((∃ filter, body.get? "filter" = some filter) ↔ emptyFilterRequest.filters ≠ []) := by
  obtain ⟨body, hbody, hcarries⟩ :=
    isFaithful_lampLibrary.exists_body (ofEngine (.ofSettings {})) emptyFilterRequest
  have hfilter : body.get? "filter" = none := hcarries.filter
  refine ⟨body, hbody, fun hiff => ?_⟩
  obtain ⟨filter, hsome⟩ := hiff.mpr (by decide)
  rw [hfilter] at hsome
  cases hsome

end IndexClient

end CampusBoard
