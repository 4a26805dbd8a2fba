import SentinelGateway.Gateway.Outcomes
import SentinelGateway.Library.Runs

/-!
# The lines going out

What the gateway answers itself has the version and exactly one of `result` and
`error`. The reply of a backend is read into the same record and written again,
and that record holds whatever version the backend gave, both members or neither,
and no `result` where the backend said `null`. So a line that goes out is a response
exactly if it is the gateway's own or relays one.
-/

namespace SentinelGateway

/-- A printed object is read back as an object with the same names in the same
order, where strings are unchanged. Numbers may come back in another notation. -/
def SerdeJson.ReadsBack (serde : SerdeJson) (members : List (String × Json)) : Prop :=
  ∃ members', serde.fromStr (serde.toString (.object members)) = .ok (.object members') ∧
    List.Forall₂ (fun member member' => member'.1 = member.1 ∧
      ∀ s, member.2 = .string s → member'.2 = .string s) members members'

theorem SerdeJson.readsBack_of_eq {serde : SerdeJson} {members : List (String × Json)}
    (h : serde.fromStr (serde.toString (.object members)) = .ok (.object members)) :
    serde.ReadsBack members := by
  refine ⟨members, h, List.forall₂_same.mpr ?_⟩
  intro member _
  exact ⟨rfl, fun _ hstring => hstring⟩

/-- The text reads as an object with the version "2.0", an identifier, and exactly
one of `result` and `error`. -/
def WellFormedLine (serde : SerdeJson) (text : String) : Prop :=
  ∃ members, serde.fromStr text = .ok (.object members) ∧
    Json.lastMember "jsonrpc" members = some (.string "2.0") ∧
    (Json.lastMember "id" members).isSome = true ∧
    (Json.lastMember "result" members).isSome ≠ (Json.lastMember "error" members).isSome

/-- A member is found after reading back if it was written, and a string is the same. -/
theorem lastMember_of_readsBack {members members' : List (String × Json)}
    (h : List.Forall₂ (fun member member' => member'.1 = member.1 ∧
      ∀ s, member.2 = .string s → member'.2 = .string s) members members') (key : String) :
    (Json.lastMember key members').isSome = (Json.lastMember key members).isSome ∧
      ∀ s, Json.lastMember key members = some (.string s) →
        Json.lastMember key members' = some (.string s) := by
  induction h with
  | nil => simp [Json.lastMember]
  | @cons member member' members members' hmember _ ih =>
    obtain ⟨hname, hstring⟩ := hmember
    obtain ⟨hsome, hsame⟩ := ih
    simp only [Json.lastMember, hname]
    cases hlater : Json.lastMember key members with
    | some v =>
      rw [hlater, Option.isSome_some, Option.isSome_iff_exists] at hsome
      obtain ⟨v', hlater'⟩ := hsome
      rw [hlater] at hsame
      simpa [hlater'] using hsame
    | none =>
      have hlater' : Json.lastMember key members' = none := by
        rw [hlater] at hsome
        exact Option.isNone_iff_eq_none.mp (by simpa using hsome)
      rw [hlater']
      by_cases hkey : member.1 = key
      · simpa [hkey] using hstring
      · simp [hkey]

/-- The members of a response, looked up by name. -/
theorem JsonRpcResponse.lastMember_members (response : JsonRpcResponse) :
    Json.lastMember "jsonrpc" response.members = some (.string response.jsonrpc) ∧
      Json.lastMember "id" response.members = some response.id.encode ∧
      (Json.lastMember "result" response.members).isSome = response.result.isSome ∧
      (Json.lastMember "error" response.members).isSome = response.error.isSome := by
  unfold members
  cases response.result <;> cases response.error <;> simp [Json.lastMember]

/-- A printed response is well formed exactly if the record is standard. -/
theorem wellFormedLine_iff {serde : SerdeJson} {response : JsonRpcResponse}
    (h : serde.ReadsBack response.members) :
    WellFormedLine serde (serde.toString response.encode) ↔ response.Standard := by
  obtain ⟨members', hread, hmembers⟩ := h
  obtain ⟨hversion, hid, hresult, herror⟩ := response.lastMember_members
  have hversion' := (lastMember_of_readsBack hmembers "jsonrpc").2 _ hversion
  have hid' := (lastMember_of_readsBack hmembers "id").1
  have hresult' := (lastMember_of_readsBack hmembers "result").1
  have herror' := (lastMember_of_readsBack hmembers "error").1
  constructor
  · rintro ⟨members, htext, hline_version, -, hline_one⟩
    obtain rfl : members' = members := by
      have hsame : Except.ok (Json.object members') = .ok (.object members) :=
        hread.symm.trans htext
      simpa using hsame
    rw [hversion'] at hline_version
    rw [hresult', herror', hresult, herror] at hline_one
    exact ⟨by simpa using hline_version, hline_one⟩
  · rintro ⟨hstandard, hone⟩
    refine ⟨members', hread, ?_, ?_, ?_⟩
    · rw [hversion', hstandard]
    · rw [hid', hid, Option.isSome_some]
    · rw [hresult', herror', hresult, herror]
      exact hone

namespace Gateway

variable {gw : Gateway} {st : DispatchState} {event : Event}

/-- The line `send_response` hands to the output channel. -/
def sendResponse (gw : Gateway) (response : JsonRpcResponse) : String :=
  gw.serde.toString response.encode

/-- The event is a call that is forwarded, and its backend replies with a response
that has another version than "2.0", or both or none of a `result` and an `error`
that are not `null`. -/
def RelaysNonstandard (gw : Gateway) (st : DispatchState) (event : Event) : Prop :=
  Admitted gw st event ∧ ∃ line text reply, event = .line line ∧ line.outcome = .ok text ∧
    gw.serde.read JsonRpcResponse.decode text = .ok reply ∧ ¬reply.Standard

/-- Every rejection of a gate is a standard response. -/
theorem standard_rejection (rejection : Rejection) (id : JsonRpcId) :
    (rejection.response id).Standard := by
  unfold Rejection.response
  cases rejection.data with
  | none => exact JsonRpcResponse.standard_failure _ _ _
  | some data => exact JsonRpcResponse.standard_failureWithData _ _ _ _

/-- The response made from the outcome of a call is standard, unless it is a
reply that is not. -/
theorem standard_settledResponse_iff (gw : Gateway) (line : InboundLine) (id : JsonRpcId) :
    (gw.settledResponse line id).Standard ↔
      ∀ text reply, line.outcome = .ok text →
        gw.serde.read JsonRpcResponse.decode text = .ok reply → reply.Standard := by
  cases houtcome : line.outcome with
  | error e => simp [settledResponse, houtcome, JsonRpcResponse.standard_failure]
  | ok text =>
    cases hread : gw.serde.read JsonRpcResponse.decode text with
    | error e =>
      have hsettled : gw.settledResponse line id =
          .failure id internalErrorCode ("Invalid backend response: " ++ e) := by
        simp only [settledResponse, houtcome, hread]
      rw [hsettled]
      refine iff_of_true (JsonRpcResponse.standard_failure _ _ _) ?_
      rintro _ reply ⟨rfl⟩ hreply
      simp [hread] at hreply
    | ok response =>
      have hsettled : gw.settledResponse line id = { response with id } := by
        simp only [settledResponse, houtcome, hread]
      rw [hsettled]
      constructor
      · rintro ⟨hversion, hone⟩ _ reply ⟨rfl⟩ hreply
        obtain rfl : response = reply := by simpa [hread] using hreply
        exact ⟨hversion, hone⟩
      · intro h
        obtain ⟨hversion, hone⟩ := h text response rfl hread
        exact ⟨hversion, hone⟩

/-- What the gateway answers itself is standard. -/
theorem standard_of_not_admitted (h : ¬Admitted gw st event) :
    ∀ response ∈ responses (gw.step st event).2, response.Standard := by
  have hcase := step_cases gw st event
  generalize gw.step st event = result at hcase ⊢
  intro response hresponse
  cases hcase with
  | replaced | initializedLine | callNotification => simp at hresponse
  | unparsed line message parsed =>
    obtain rfl := List.mem_singleton.mp hresponse
    exact JsonRpcResponse.standard_failure _ _ _
  | refused line request parsed refused =>
    rw [responses_answer, List.mem_map] at hresponse
    obtain ⟨id, -, rfl⟩ := hresponse
    exact JsonRpcResponse.standard_failure _ _ _
  | initializeLine line request accepts method =>
    simp only [initializeArm] at hresponse
    obtain rfl := List.mem_singleton.mp hresponse
    split
    · exact JsonRpcResponse.standard_success _ _
    · exact JsonRpcResponse.standard_failure _ _ _
  | answered line request answer accepts method response_id standard =>
    rw [responses_answer, List.mem_map] at hresponse
    obtain ⟨id, -, rfl⟩ := hresponse
    exact standard id
  | unnamedCall line request id effects accepts method id_eq unnamed answer silent =>
    rw [answer, List.mem_singleton] at hresponse
    rw [hresponse]
    exact JsonRpcResponse.standard_failure _ _ _
  | call line id name params isCall callCase =>
    cases callCase with
    | refused rejection | circuitOpen rejection =>
      rw [responses_reject, List.mem_singleton] at hresponse
      rw [hresponse]
      exact standard_rejection rejection id
    | unserved code message effects policy circuit missing answer silent =>
      rw [answer, List.mem_singleton] at hresponse
      rw [hresponse]
      exact JsonRpcResponse.standard_failure _ _ _
    | sent backendName backend _ effects policy circuit route served id_eq answer send =>
      exact absurd ⟨line, id, name, params, backendName, backend, rfl, isCall, policy, circuit,
        route, served⟩ h

/-- The responses to an event are standard exactly if it does not relay one that is not. -/
theorem standard_responses_iff (gw : Gateway) (st : DispatchState) (event : Event) :
    (∀ response ∈ responses (gw.step st event).2, response.Standard) ↔
      ¬RelaysNonstandard gw st event := by
  by_cases hadmitted : Admitted gw st event
  · have hadmitted' := hadmitted
    obtain ⟨line, id, name, params, backendName, backend, rfl, hcall, hpolicy, hcircuit, hroute,
      hbackend⟩ := hadmitted'
    rw [responses_of_admitted hcall hpolicy hcircuit hroute hbackend, List.forall_mem_singleton,
      standard_settledResponse_iff]
    constructor
    · rintro h ⟨-, other, text, reply, hline, houtcome, hreply, hbad⟩
      obtain rfl := Event.line.inj hline
      exact hbad (h text reply houtcome hreply)
    · intro h text reply houtcome hreply
      by_contra hbad
      exact h ⟨hadmitted, line, text, reply, rfl, houtcome, hreply, hbad⟩
  · exact iff_of_true (standard_of_not_admitted hadmitted) fun h => hadmitted h.1

/-- **Outbound lines.** As far as the printer's output can be read back, every line a
session writes is a well-formed response exactly if no forwarded call is answered by
its backend with a response of another version, or with both or none of `result` and
`error`, where `null` counts as none. -/
theorem outbound_wellFormed_iff (gw : Gateway) (initial : DispatchState) (events : List Event)
    (hprinted : ∀ response ∈ (Runs.outputs gw.step initial events).flatMap responses,
      gw.serde.ReadsBack response.members) :
    (∀ text ∈ ((Runs.outputs gw.step initial events).flatMap responses).map gw.sendResponse,
      WellFormedLine gw.serde text) ↔
    ∀ before event rest, events = before ++ event :: rest →
      ¬RelaysNonstandard gw (Runs.after gw.step initial before) event := by
  have hlines : (∀ text ∈ ((Runs.outputs gw.step initial events).flatMap responses).map
      gw.sendResponse, WellFormedLine gw.serde text) ↔
      ∀ response ∈ (Runs.outputs gw.step initial events).flatMap responses,
        response.Standard := by
    rw [List.forall_mem_map]
    exact forall₂_congr fun response hresponse => wellFormedLine_iff (hprinted response hresponse)
  rw [hlines]
  constructor
  · intro h before event rest heq
    rw [← standard_responses_iff]
    intro response hresponse
    refine h response (List.mem_flatMap.mpr ⟨_, ?_, hresponse⟩)
    exact (Runs.mem_outputs_iff gw.step).mpr ⟨before, event, rest, heq, rfl⟩
  · intro h response hresponse
    obtain ⟨effects, heffects, hmem⟩ := List.mem_flatMap.mp hresponse
    obtain ⟨before, event, rest, heq, rfl⟩ := (Runs.mem_outputs_iff gw.step).mp heffects
    exact (standard_responses_iff gw _ event).mpr (h before event rest heq) response hmem

/-- A call that reaches its backend is answered with what the outcome makes of it. -/
theorem responses_of_sends {line : InboundLine} {id : JsonRpcId} {name : String}
    {params : Option Json} (hcall : IsCall gw st line id name params)
    (h : (sends (gw.step st (.line line)).2).isEmpty = false) :
    responses (gw.step st (.line line)).2 = [gw.settledResponse line id] := by
  obtain ⟨other, id', name', params', backendName, backend, hline, hcall', hpolicy, hcircuit,
    hroute, hbackend⟩ := (sends_ne_nil_iff gw st (.line line)).mp (List.isEmpty_eq_false_iff.mp h)
  obtain rfl := Event.line.inj hline
  obtain ⟨rfl, rfl, rfl⟩ := hcall.unique hcall'
  exact responses_of_admitted hcall hpolicy hcircuit hroute hbackend

/-- A gateway in front of a tool, whose parser knows the reply and what is made of it. -/
def relayGateway (reply printed : Json) : Gateway :=
  { bare (.ofValues [queryMessage, reply, printed]) with
    catalog := ToolCatalog.new.registerBackend "db" [⟨"query", none, [], []⟩]
    backends := AList.singleton "db" (.stdio ⟨"db", 0, 60⟩) }

/-- A session after its handshake. -/
def operationalState : DispatchState where
  state := .operational
  hotConfig := ⟨{}, .new {}⟩
  idRemapper := .new
  circuitBreakers := ∅

/-- The call of the tool that this gateway forwards. -/
theorem isCall_relay (reply printed : Json) :
    IsCall (relayGateway reply printed) operationalState (.answered queryMessage reply)
      (.number 7) "query"
      (some (.object [("name", .string "query")])) := ⟨⟨"2.0", rfl⟩, rfl, rfl⟩

/-- A reply with an empty result is relayed as a well-formed response. -/
theorem outbound_wellFormed_empty_result :
    let gw := relayGateway (resultJson 1) (resultJson 7)
    let events := [Event.line (.answered queryMessage (resultJson 1))]
    (∀ response ∈ (Runs.outputs gw.step operationalState events).flatMap responses,
        gw.serde.ReadsBack response.members) ∧
      ∀ text ∈ ((Runs.outputs gw.step operationalState events).flatMap responses).map
        gw.sendResponse, WellFormedLine gw.serde text := by
  intro gw events
  have hcall := isCall_relay (resultJson 1) (resultJson 7)
  have hresponses := responses_of_sends hcall (by decide +kernel)
  have hsettled : gw.settledResponse (.answered queryMessage (resultJson 1))
      (.number 7) = .success (.number 7) (.object []) := rfl
  have hprinted : ∀ response ∈ (Runs.outputs gw.step operationalState events).flatMap responses,
      gw.serde.ReadsBack response.members := by
    intro response hresponse
    rw [Runs.outputs_cons, Runs.outputs_nil, List.flatMap_singleton, hresponses, hsettled,
      List.mem_singleton] at hresponse
    subst hresponse
    exact SerdeJson.readsBack_of_eq rfl
  refine ⟨hprinted, (outbound_wellFormed_iff gw operationalState events hprinted).mpr ?_⟩
  intro before event rest heq
  obtain ⟨rfl, rfl, -⟩ : before = [] ∧ event = _ ∧ rest = [] := by
    simpa [events, List.singleton_eq_append_iff] using heq
  rw [← standard_responses_iff, Runs.after_nil, hresponses, hsettled, List.forall_mem_singleton]
  exact JsonRpcResponse.standard_success _ _

/-- A reply whose result is `null` is relayed with neither a result nor an error. -/
theorem not_outbound_wellFormed_null_result :
    let reply := Json.object [("jsonrpc", .string "2.0"), ("id", .number (.posInt 1)),
      ("result", .null)]
    let printed := Json.object [("jsonrpc", .string "2.0"), ("id", .number (.posInt 7))]
    let gw := relayGateway reply printed
    let events := [Event.line (.answered queryMessage reply)]
    (∀ response ∈ (Runs.outputs gw.step operationalState events).flatMap responses,
        gw.serde.ReadsBack response.members) ∧
      ¬∀ text ∈ ((Runs.outputs gw.step operationalState events).flatMap responses).map
        gw.sendResponse, WellFormedLine gw.serde text := by
  intro reply printed gw events
  have hcall := isCall_relay reply printed
  have hresponses := responses_of_sends hcall (by decide +kernel)
  have hsettled : gw.settledResponse (.answered queryMessage reply) (.number 7) =
      { jsonrpc := "2.0", id := .number 7, result := none, error := none } := rfl
  have houtbound : (Runs.outputs gw.step operationalState events).flatMap responses =
      [{ jsonrpc := "2.0", id := .number 7, result := none, error := none }] := by
    rw [Runs.outputs_cons, Runs.outputs_nil, List.flatMap_singleton, hresponses, hsettled]
  rw [houtbound]
  refine ⟨?_, ?_⟩
  · intro response hresponse
    obtain rfl := List.mem_singleton.mp hresponse
    exact SerdeJson.readsBack_of_eq rfl
  · intro h
    obtain ⟨members, hread, -, -, hone⟩ := h printed.text
      (List.mem_map.mpr ⟨_, List.mem_singleton_self _, rfl⟩)
    have hmembers : Except.ok (Json.object [("jsonrpc", .string "2.0"),
        ("id", .number (.posInt 7))]) = (.ok (.object members) : Except String Json) := hread
    obtain rfl := Json.object.inj (Except.ok.inj hmembers)
    simp [Json.lastMember] at hone

end Gateway

end SentinelGateway
