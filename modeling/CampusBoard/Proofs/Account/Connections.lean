import CampusBoard.Account.Connection
import CampusBoard.Http.Site
import CampusBoard.Proofs.Account.Gates
import CampusBoard.Proofs.Traffic.Bars
import Mathlib

/-!
# No reply is half a success

An action over the network that comes as far as its call sends one request. It succeeds if the
status of the reply is one of success and fails otherwise, and nothing lies between.

## Design

What an action does once the reply to its call is there is known from the gates of the session. What
remains is the way of a reply to the session: `Http.bodyOf` turns it into a success or a failure,
and `Http.Client.withoutSlashes_append` and `Connection.base_after` say where the request goes, the
latter after any earlier actions, from which the client has learned nothing but cookies.

## Main definitions

* `CampusBoard.Connection.Succeeded`, `CampusBoard.Connection.Failed`: the two endings of an action
  over the network.

## Main results

* `CampusBoard.Http.withoutSlashes_append`: slashes at the end of an address do not count.
* `CampusBoard.Connection.base_after`: the address of a client stays.
* `CampusBoard.Connection.perform_of_reached`: an action that comes as far as its call.
* `CampusBoard.Http.Client.visitors_eq_ok_iff`: when the bars of the traffic chart are had.
* `CampusBoard.Connection.replies_decide_actions`: all of it, from any address.
-/

set_option autoImplicit false

namespace CampusBoard

/-! ## Addresses -/

namespace Http

/-- **Slashes at the end of an address do not count.** -/
theorem withoutSlashes_append {address : String} (h : address.toList.getLast? ≠ some '/')
    (slashes : Nat) :
    withoutSlashes (address ++ String.ofList (List.replicate slashes '/')) = address := by
  have hkept : address.toList.reverse.dropWhile (· == '/') = address.toList.reverse := by
    rw [← List.head?_reverse] at h
    cases hchars : address.toList.reverse with
    | nil => rfl
    | cons c rest =>
      have hc : c ≠ '/' := by simpa [hchars] using h
      simp [hc]
  have hdropped : (List.replicate slashes '/' ++ address.toList.reverse).dropWhile (· == '/') =
      address.toList.reverse := by
    induction slashes with
    | zero => exact hkept
    | succ slashes ih => simpa [List.replicate_succ] using ih
  simp [withoutSlashes, hdropped]

/-- The status of a reply decides between its body and a failure. -/
lemma bodyOf_some (reply : Reply) :
    bodyOf (some reply) =
      if 200 ≤ reply.status ∧ reply.status ≤ 299 then .ok reply.body
      else .error (.status reply.status reply.body) := by
  simp [bodyOf, Reply.isSuccess]

namespace Client

variable (network : Network) (c : Client)

/-- A client that learns from a reply stays at its address. -/
lemma base_learn (path : String) (reply : Option Reply) : (c.learn path reply).base = c.base := by
  cases reply <;> rfl

/-- Calls leave a client at its address. -/
lemma base_exchanges (calls : List Call) : (c.exchanges network calls).2.base = c.base := by
  induction calls generalizing c with
  | nil => rfl
  | cons call rest ih => exact (ih _).trans (base_learn c call.path _)

end Client

end Http

/-! ## Actions over the network -/

namespace Connection

variable (rules : AccountRules) (c : Connection)

/-- An action leaves the client at its address. -/
lemma base_perform (network : Http.Network) (now : Nat) (f : Flow) :
    (c.perform rules network now f).connection.client.base = c.client.base :=
  Http.Client.base_exchanges network c.client _

/-- **The address of a client stays**, whatever actions are done. -/
theorem base_after (events : List Event) : (c.after rules events).client.base = c.client.base := by
  induction events generalizing c with
  | nil => rfl
  | cons e rest ih => exact (ih _).trans (base_perform rules c e.network e.now e.flow)

/-- An action succeeded: it shows no error any more, and the statuses are those that it leads to. -/
def Succeeded (k : FlowContract) (c : Connection) (done : ConnectedAttempt) : Prop :=
  done.result = .ok () ∧ done.connection.session.error = "" ∧
    ∀ status, done.connection.session.statuses.holds status = true ↔
      status ∈ k.sets ∨ c.session.statuses.holds status = true ∧ status ∉ k.clears

/-- An action failed with a reply: it reports the whole reply and shows the beginning of its body,
or of a text with its status if the body is blank; the statuses stay as they were. -/
def Failed (maxChars : Nat) (reply : Http.Reply) (c : Connection)
    (done : ConnectedAttempt) : Prop :=
  done.result = .error (.transport (.status reply.status reply.body)) ∧
    done.connection.session.statuses = c.session.statuses ∧
    done.connection.session.error.toList =
      (if reply.body.toList.all Text.isBlank then "HTTP error! status: " ++ toString reply.status
        else reply.body).toList.take maxChars

/-- The start of what a user should read of a reply that reports a failure. -/
lemma toList_userMessage (maxChars : Nat) (reply : Http.Reply) :
    (TransportError.userMessage maxChars (.status reply.status reply.body)).toList =
      (if reply.body.toList.all Text.isBlank then "HTTP error! status: " ++ toString reply.status
        else reply.body).toList.take maxChars := by
  rw [TransportError.userMessage, firstChars, String.toList_ofList, TransportError.explanation]
  rfl

variable {rules c}

/-- **An action that comes as far as its call** sends the request of the call, once. The reply makes
it succeed or fail, according to its status.

**Proof sketch.** The gate of the call says what becomes of the session, given what the service
answers; the service is the client, and what it answers hangs on the status of the reply. -/
theorem perform_of_reached (network : Http.Network) {now : Nat} {f : Flow}
    (h : Gate.call.Reached rules now f c.session) :
    (c.perform rules network now f).sent = [c.client.request (f.contract rules.forms).call] ∧
      ∀ reply, network (c.client.request (f.contract rules.forms).call) = some reply →
        if 200 ≤ reply.status ∧ reply.status ≤ 299 then
          Succeeded (f.contract rules.forms) c (c.perform rules network now f)
        else
          Failed rules.forms.errorMaxChars.toNat reply c (c.perform rules network now f) := by
  have hleaves : Gate.call.Leaves rules (c.client.service network) now (f.contract rules.forms)
      c.session _ := Gate.leaves_of_reached h
  obtain ⟨hsent, -, hsettled⟩ := hleaves
  refine ⟨?_, fun reply hreply => ?_⟩
  · simp only [perform, hsent]
    rfl
  have hservice : c.client.service network (f.contract rules.forms).call =
      (Http.bodyOf (some reply)).map fun _ => () := by
    rw [← hreply]
    rfl
  rw [hservice, Http.bodyOf_some] at hsettled
  split_ifs at hsettled ⊢ with hstatus
  · exact hsettled
  · obtain ⟨hresult, herror, hstatuses⟩ := hsettled
    refine ⟨hresult, hstatuses, ?_⟩
    rw [← toList_userMessage, ← herror]
    rfl

end Connection

/-! ## Visitors -/

namespace Http

/-- The bars in a body are had if it lists values that stand for them. -/
lemma readBars_eq_ok_iff {body : String} {bars : List TrafficBar} :
    readBars body = .ok bars ↔
      ∃ items, Json.records? ["website", "visitors", "color"] body = some items ∧
        List.Forall₂ (fun item (bar : TrafficBar) => bar.IsWritten item) items bars := by
  have hitems (items : List Json) : items.mapM TrafficBar.read = .ok bars ↔
      List.Forall₂ (fun item (bar : TrafficBar) => bar.IsWritten item) items bars := by
    simp only [Decode.mapM_eq_ok_iff, TrafficBar.read_eq_ok_iff]
  have hfields : TrafficBar.shape.fields = ["website", "visitors", "color"] := rfl
  rw [readBars, hfields]
  cases Json.records? ["website", "visitors", "color"] body with
  | none => simp
  | some items =>
    simp only [Option.map_some, Option.some.injEq, exists_eq_left', ← hitems]
    cases items.mapM TrafficBar.read <;> simp

/-- A body that is read as a list of values has the bars that these stand for. -/
lemma readBars_of_parse? {body : String} {items : List Json}
    (h : Json.parse? body = some (.list items)) {bars : List TrafficBar} :
    readBars body = .ok bars ↔
      List.Forall₂ (fun item (bar : TrafficBar) => bar.IsWritten item) items bars := by
  rw [readBars_eq_ok_iff, Json.records?_of_parse? _ h]
  simp only [Option.some.injEq, exists_eq_left', List.forall₂_map_left_iff,
    TrafficBar.isWritten_keep_iff]

namespace Client

variable {network : Network} {c : Client} {reply : Reply}

/-- The reply decides what comes of asking for the bars. -/
lemma visitors_of_reply (h : network (c.request visitorsCall) = some reply) :
    c.visitors network =
      if 200 ≤ reply.status ∧ reply.status ≤ 299 then readBars reply.body
      else .error (.status reply.status reply.body) := by
  have hbody : (c.exchange network visitorsCall).result = bodyOf (some reply) := by
    rw [← h]
    rfl
  rw [visitors, hbody, bodyOf_some]
  split_ifs <;> rfl

/-- **The bars of the traffic chart are had** if the reply reports success and its body has them. -/
theorem visitors_eq_ok_iff (h : network (c.request visitorsCall) = some reply)
    {bars : List TrafficBar} :
    c.visitors network = .ok bars ↔
      (200 ≤ reply.status ∧ reply.status ≤ 299) ∧ readBars reply.body = .ok bars := by
  rw [visitors_of_reply h]
  split_ifs with hstatus
  · exact (and_iff_right hstatus).symm
  · simp [hstatus]

end Client

end Http

/-! ## Connections of a service -/

namespace Connection

/-- **The status of a reply decides an action as a whole.** Whatever was done before over a client
of a service, and however many slashes its address was given with: an action that does not come as
far as its call sends nothing. One that does sends a single request, to the address followed by the
path of the action, and it succeeds with all that belongs to it if the status of the reply lies in
200 to 299, and fails with the whole reply, leaving the statuses as they were, if it does not. The
bars of the traffic chart are had altogether or not at all.

**Proof sketch.** The earlier actions have not changed the address, which is the given one without
slashes. The rest is `perform_of_reached`, and `visitors_eq_ok_iff` for the bars. -/
theorem replies_decide_actions (rules : AccountRules) {address : String}
    (haddress : address.toList.getLast? ≠ some '/') (slashes : Nat) (s : Session)
    (earlier : List Event) (e : Event) :
    let given := address ++ String.ofList (List.replicate slashes '/')
    let c := after rules ⟨s, .ofBase given⟩ earlier
    let k := e.flow.contract rules.forms
    let done := c.perform rules e.network e.now e.flow
    (¬Gate.call.Reached rules e.now e.flow c.session → done.sent = []) ∧
      (Gate.call.Reached rules e.now e.flow c.session →
        ∃ request, done.sent = [request] ∧ request.method = k.method ∧
          request.url = address ++ k.path ∧ request.body = k.body ∧
          ∀ reply, e.network request = some reply →
            if 200 ≤ reply.status ∧ reply.status ≤ 299 then Succeeded k c done
            else Failed rules.forms.errorMaxChars.toNat reply c done) ∧
      ∃ request, request.method = .post ∧ request.url = address ++ "/visitors" ∧
        ∀ network reply, network request = some reply →
          (∀ bars, c.client.visitors network = .ok bars ↔
            (200 ≤ reply.status ∧ reply.status ≤ 299) ∧ ∃ items,
              Json.records? ["website", "visitors", "color"] reply.body = some items ∧
              List.Forall₂ (fun item (bar : TrafficBar) => bar.IsWritten item) items bars) ∧
          (∀ items, Json.parse? reply.body = some (.list items) →
            ∀ bars, c.client.visitors network = .ok bars ↔
              (200 ≤ reply.status ∧ reply.status ≤ 299) ∧
                List.Forall₂ (fun item (bar : TrafficBar) => bar.IsWritten item) items bars) ∧
          (¬(200 ≤ reply.status ∧ reply.status ≤ 299) →
            c.client.visitors network = .error (.status reply.status reply.body)) := by
  intro given c k done
  have hbase : c.client.base = address :=
    (base_after rules _ earlier).trans (Http.withoutSlashes_append haddress slashes)
  have hurl (call : Call) : (c.client.request call).url = address ++ call.path := by
    rw [← hbase]
    rfl
  refine ⟨fun hreached => ?_, fun hreached => ?_, c.client.request Http.visitorsCall, rfl, hurl _,
    fun network reply hreply => ⟨fun bars => ?_, fun items hitems bars => ?_, fun hstatus => ?_⟩⟩
  · obtain ⟨gate, hgate⟩ := Gate.exists_reached rules e.now e.flow c.session
    have hleaves : gate.Leaves rules (c.client.service e.network) e.now k c.session _ :=
      Gate.leaves_of_reached hgate
    have hsent : (c.session.perform rules (c.client.service e.network) e.now e.flow).sent = [] := by
      cases gate with
      | call => exact absurd hgate hreached
      | cooldown | status | form _ => exact hleaves.2.1
    change (c.client.exchanges e.network _).1 = []
    rw [hsent]
    rfl
  · obtain ⟨hsent, hreplies⟩ := perform_of_reached e.network hreached
    exact ⟨_, hsent, rfl, hurl _, rfl, hreplies⟩
  · rw [Http.Client.visitors_eq_ok_iff hreply, Http.readBars_eq_ok_iff]
  · rw [Http.Client.visitors_eq_ok_iff hreply, Http.readBars_of_parse? hitems]
  · rw [Http.Client.visitors_of_reply hreply, if_neg hstatus]

/-- A service that refuses everything without saying why. -/
def refusing : Http.Network := fun _ => some ⟨500, [], " "⟩

/-- A user who forgot the password. -/
def forgetful : Flow :=
  .forgot "pete@purdue.edu"

/-- A service that counts visitors: one bar as an object, with a member that no bar has and whose
number is too large, and one bar as a list. -/
def counting : Http.Network := fun _ => some ⟨200, [],
  "[\x7b\"website\":\"Home\",\"visitors\":3,\"note\":1e999,\"color\":\"red\"\x7d," ++
    "[\x7b\"Voting\":null\x7d,0,\"blue\"]]"⟩

/-- A user who forgot the password is told the status of the reply instead of its blank body; the
bars are not had either. From a service that counts visitors both bars are had. -/
theorem replies_decide_actions_refusing :
    let rules : AccountRules := .ofSettings {}
    let address := "http://localhost:8080/swap"
    let c : Connection := after rules ⟨.fresh, .ofBase (address ++ String.ofList ['/', '/'])⟩ []
    let done := c.perform rules refusing 0 forgetful
    address.toList.getLast? ≠ some '/' ∧ Gate.call.Reached rules 0 forgetful c.session ∧
      (∃ request, done.sent = [request] ∧ request.url = address ++ "/forgot") ∧
      Failed 50 ⟨500, [], " "⟩ c done ∧
      c.client.visitors refusing = .error (.status 500 " ") ∧
      c.client.visitors counting = .ok [⟨.home, 3, "red"⟩, ⟨.voting, 0, "blue"⟩] := by
  intro rules address c done
  have haddress : address.toList.getLast? ≠ some '/' := by decide
  have hreached : Gate.call.Reached rules 0 forgetful c.session := by
    refine ⟨?_, ?_, ?_⟩
    · rintro (⟨moment, hlifts, -⟩ | ⟨countdown, hflow, -⟩)
      · cases hlifts
      · cases hflow
    · rintro ⟨status, hrequires, -⟩
      cases hrequires
    · intro check hcheck
      obtain rfl := List.mem_singleton.mp hcheck
      decide
  obtain ⟨-, hcall, request, -, -, hvisitors⟩ :=
    replies_decide_actions rules haddress 2 .fresh [] ⟨0, forgetful, refusing⟩
  obtain ⟨sent, hsent, -, hurl, -, hreplies⟩ := hcall hreached
  have hhome : TrafficBar.IsWritten (.object [("website", .text "Home"), ("visitors", .integer 3),
      ("color", .text "red")]) ⟨.home, 3, "red"⟩ :=
    ⟨_, .inl rfl, .inr ⟨_, rfl, by decide, rfl, rfl, rfl⟩⟩
  have hvoting : TrafficBar.IsWritten
      (.list [.object [("Voting", .null)], .integer 0, .text "blue"]) ⟨.voting, 0, "blue"⟩ :=
    ⟨_, .inr rfl, .inl rfl⟩
  have hcounted := ((hvisitors counting _ rfl).1 _).mpr
    ⟨by decide, _, by cbv, .cons hhome (.cons hvoting .nil)⟩
  exact ⟨haddress, hreached, ⟨sent, hsent, hurl⟩, hreplies _ rfl,
    (hvisitors refusing _ rfl).2.2 (by decide), hcounted⟩

end Connection

end CampusBoard
