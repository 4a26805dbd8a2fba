import SentinelGateway.Gateway.Outcomes
import SentinelGateway.Library.Runs
import SentinelGateway.Metrics

/-!
# Accounting

Every call of a tool is answered once, audited once and counted once, and the
three records agree with each other. Nothing else is audited or counted.
-/

namespace SentinelGateway

/-- What an effect does to the metrics. -/
def Metrics.observe (metrics : Metrics) : Effect → Metrics
  | .recordRequest tool status seconds => metrics.recordRequest tool status.label seconds
  | .recordRateLimitHit tool => metrics.recordRateLimitHit tool
  | _ => metrics

/-- The metrics after some effects. -/
def Metrics.after (metrics : Metrics) (effects : List Effect) : Metrics :=
  effects.foldl Metrics.observe metrics

theorem CallStatus.label_eq_success_iff (status : CallStatus) :
    status.label = "success" ↔ status = .success := by
  cases status <;> decide

namespace Gateway

variable {gw : Gateway} {st : DispatchState} {line : InboundLine} {id : JsonRpcId}
  {name : String} {params : Option Json}

/-- The effects account for a call: there is one entry, one count and one
response, and they agree on what became of the call. -/
structure AccountsFor (gw : Gateway) (line : InboundLine) (effects : List Effect)
    (entry : AuditEntry) (status : CallStatus) (response : JsonRpcResponse) : Prop where
  audited : audits effects = [entry]
  recorded : ∃ seconds, recordedRequests effects = [(entry.toolName, status, seconds)]
  responded : responses effects = [response]
  request_id : entry.requestId = line.requestId
  label_eq : entry.responseStatus = status.label
  code_eq : ∀ code, status.code = some code → response.error.map JsonRpcError.code = some code
  success_iff : status = .success ↔ response.error = none
  message_eq : entry.errorMessage = response.error.map JsonRpcError.message
  backend_eq : entry.backendName = (gw.catalog.route entry.toolName).getD "unknown"
  errors_iff : ∀ metrics : Metrics,
    metrics.errorsTotal < (metrics.after effects).errorsTotal ↔ status ≠ .success
  hits_iff : ∀ metrics : Metrics,
    metrics.rateLimitHitsTotal < (metrics.after effects).rateLimitHitsTotal ↔
      status = .rateLimited

/-- What is sent to a backend is of no interest to the records. -/
theorem AccountsFor.after_send {effects : List Effect} {entry : AuditEntry} {status : CallStatus}
    {response : JsonRpcResponse} (h : AccountsFor gw line effects entry status response)
    (backendName : String) (backend : Backend) (body : Json) :
    AccountsFor gw line (.send backendName backend body :: effects) entry status response :=
  { h with
    audited := h.audited
    recorded := h.recorded
    responded := h.responded
    errors_iff := h.errors_iff
    hits_iff := h.hits_iff }

/-- The error of a rejection's response. -/
theorem error_of_rejection (rejection : Rejection) (id : JsonRpcId) :
    ∃ error, (rejection.response id).error = some error ∧ error.code = rejection.code ∧
      error.message = rejection.message := by
  unfold Rejection.response
  cases rejection.data with
  | none => exact ⟨_, rfl, rfl, rfl⟩
  | some data => exact ⟨_, rfl, rfl, rfl⟩

/-- The effects of a rejection when audit and metrics are on. -/
theorem reject_eq (haudit : gw.auditTx = true) (hmetrics : gw.metrics = true)
    (line : InboundLine) (id : JsonRpcId) (name : String) (params : Option Json)
    (rejection : Rejection) :
    gw.reject line id name params rejection =
      .recordRequest name rejection.status 0 ::
        ((if rejection.status = .rateLimited then [.recordRateLimitHit name] else []) ++
          [.respond (rejection.response id), .audit (gw.auditEntry line name
            rejection.backendName params rejection.status (some rejection.message) 0)]) := by
  unfold reject
  rw [haudit, hmetrics]
  simp

/-- A rejection is accounted for. -/
theorem accountsFor_reject (haudit : gw.auditTx = true) (hmetrics : gw.metrics = true)
    {rejection : Rejection} (h : rejection.Reports gw name rejection.status) :
    AccountsFor gw line (gw.reject line id name params rejection)
      (gw.auditEntry line name rejection.backendName params rejection.status
        (some rejection.message) 0) rejection.status (rejection.response id) := by
  obtain ⟨error, herror, hcode, hmessage⟩ := error_of_rejection rejection id
  have hnot : rejection.status ≠ .success := by
    intro hsuccess
    have hnone := h.code_eq
    rw [hsuccess] at hnone
    cases hnone
  have hlabel : rejection.status.label ≠ "success" :=
    fun heq => hnot (rejection.status.label_eq_success_iff.mp heq)
  have heffects := reject_eq haudit hmetrics line id name params rejection
  refine ⟨?_, ⟨0, ?_⟩, responses_reject rejection, rfl, rfl, ?_, ?_, ?_, h.backend_eq, ?_, ?_⟩
  · rw [heffects]
    split_ifs <;> rfl
  · rw [heffects]
    split_ifs <;> rfl
  · intro code hstatus
    rw [h.code_eq] at hstatus
    rw [herror, Option.map_some, hcode, hstatus]
  · simp [hnot, herror]
  · rw [herror, Option.map_some, hmessage]
    rfl
  · intro metrics
    have hgrows := metrics.errorsTotal_lt_recordRequest_iff name rejection.status.label 0
    -- the hit of the rate limiter, if there is one, leaves the errors alone
    have hsame : (metrics.after (gw.reject line id name params rejection)).errorsTotal =
        (metrics.recordRequest name rejection.status.label 0).errorsTotal := by
      rw [heffects]
      split_ifs <;> rfl
    rw [hsame, hgrows]
    exact ⟨fun _ => hnot, fun _ => hlabel⟩
  · intro metrics
    rw [heffects]
    by_cases hlimited : rejection.status = .rateLimited
    · rw [if_pos hlimited]
      exact ⟨fun _ => hlimited, fun _ => lt_inc metrics.rateLimitHitsTotal name⟩
    · rw [if_neg hlimited]
      exact ⟨fun hlt => absurd hlt (lt_irrefl _), fun h => absurd h hlimited⟩

/-- `handle_tools_call` itself neither audits nor counts. -/
theorem handleToolsCall_effects (gw : Gateway) (st : DispatchState) (line : InboundLine)
    (id : JsonRpcId) (params : Option Json) :
    (gw.handleToolsCall st line id params).2.1 = [] ∨
      ∃ backendName backend body,
        (gw.handleToolsCall st line id params).2.1 = [.send backendName backend body] := by
  rcases handleToolsCall_cases gw st line id params with ⟨code, message, heq, -⟩ |
    ⟨name, backendName, backend, response, -, -, -, -, heq⟩
  · exact Or.inl (by rw [heq])
  · exact Or.inr ⟨backendName, backend, _, by rw [heq]⟩

/-- The status of a call that got to `handle_tools_call`. -/
def responseStatus (response : JsonRpcResponse) : CallStatus :=
  if response.error.isSome then .error else .success

theorem responseStatus_eq_success_iff (response : JsonRpcResponse) :
    responseStatus response = .success ↔ response.error = none := by
  unfold responseStatus
  cases response.error <;> simp

theorem code_responseStatus (response : JsonRpcResponse) :
    (responseStatus response).code = none := by
  unfold responseStatus
  cases response.error <;> rfl

/-- A call that gets to `handle_tools_call` is accounted for. -/
theorem accountsFor_backendDispatch (haudit : gw.auditTx = true) (hmetrics : gw.metrics = true)
    (st : DispatchState) (line : InboundLine) (id : JsonRpcId) (params : Option Json) :
    AccountsFor gw line (gw.backendDispatch st line id params).2
      (gw.auditEntry line ((toolName params).getD "unknown")
        (gw.auditedBackend ((toolName params).getD "unknown")) params
        (responseStatus (gw.callResponse line id params))
        ((gw.callResponse line id params).error.map JsonRpcError.message) line.latencyMs)
      (responseStatus (gw.callResponse line id params)) (gw.callResponse line id params) := by
  have hresponse := handleToolsCall_response gw st line id params
  generalize gw.callResponse line id params = response at hresponse ⊢
  set tool := (toolName params).getD "unknown" with htool
  have heffects : (gw.backendDispatch st line id params).2 =
      (gw.handleToolsCall st line id params).2.1 ++
        [.recordRequest tool (responseStatus response) line.latencySecs,
          .audit (gw.auditEntry line tool (gw.auditedBackend tool) params
            (responseStatus response) (response.error.map JsonRpcError.message) line.latencyMs),
          .respond response] := by
    unfold backendDispatch
    simp only [hresponse, haudit, hmetrics, if_true, List.append_assoc]
    rfl
  rw [heffects]
  have hcode := code_responseStatus response
  have hsuccess := responseStatus_eq_success_iff response
  generalize responseStatus response = status at hcode hsuccess ⊢
  have herrors (metrics : Metrics) :
      metrics.errorsTotal < (metrics.recordRequest tool status.label line.latencySecs).errorsTotal ↔
        status ≠ .success := by
    rw [metrics.errorsTotal_lt_recordRequest_iff, ne_eq, status.label_eq_success_iff]
  have hlimited : status ≠ .rateLimited := by
    rintro rfl
    cases hcode
  have hrecords : AccountsFor gw line
      [.recordRequest tool status line.latencySecs,
        .audit (gw.auditEntry line tool (gw.auditedBackend tool) params status
          (response.error.map JsonRpcError.message) line.latencyMs),
        .respond response]
      (gw.auditEntry line tool (gw.auditedBackend tool) params status
        (response.error.map JsonRpcError.message) line.latencyMs) status response := by
    refine ⟨rfl, ⟨_, rfl⟩, rfl, rfl, rfl, ?_, hsuccess, rfl, rfl, herrors, ?_⟩
    · simp [hcode]
    · exact fun metrics => ⟨fun hlt => absurd hlt (lt_irrefl _), fun h => absurd h hlimited⟩
  rcases handleToolsCall_effects gw st line id params with hsends |
    ⟨backendName, backend, body, hsends⟩
  · rw [hsends]
    exact hrecords
  · rw [hsends]
    exact hrecords.after_send backendName backend body

/-- Every call of a tool is accounted for. -/
theorem accountsFor_of_isToolsCall (haudit : gw.auditTx = true) (hmetrics : gw.metrics = true)
    (h : IsToolsCall gw st line id params) :
    ∃ entry status response,
      AccountsFor gw line (gw.step st (.line line)).2 entry status response := by
  rw [step_of_isToolsCall h]
  rcases toolsCall_eq gw st line id params with ⟨name, rejection, -, hpass, heq⟩ | ⟨-, heq⟩
  · rw [heq]
    exact ⟨_, _, _, accountsFor_reject haudit hmetrics (reports_of_passGates hpass)⟩
  · rw [heq]
    exact ⟨_, _, _, accountsFor_backendDispatch haudit hmetrics _ line id params⟩

/-- The effects leave no record. -/
structure LeavesNoRecord (effects : List Effect) : Prop where
  unaudited : audits effects = []
  uncounted : recordedRequests effects = []
  metrics_eq : ∀ metrics : Metrics, metrics.after effects = metrics

theorem leavesNoRecord_nil : LeavesNoRecord [] := ⟨rfl, rfl, fun _ => rfl⟩

theorem leavesNoRecord_respond (response : JsonRpcResponse) :
    LeavesNoRecord [.respond response] := ⟨rfl, rfl, fun _ => rfl⟩

theorem leavesNoRecord_answer (request : JsonRpcRequest)
    (response : JsonRpcId → JsonRpcResponse) : LeavesNoRecord (answer request response) := by
  unfold answer
  split_ifs
  · exact leavesNoRecord_nil
  · exact leavesNoRecord_respond _

/-- An event that is no call of a tool leaves no record. -/
theorem leavesNoRecord_of_not_toolsCall {event : Event}
    (h : ∀ line id params, event = .line line → ¬IsToolsCall gw st line id params) :
    LeavesNoRecord (gw.step st event).2 := by
  have hcase := step_cases gw st event
  generalize gw.step st event = result at hcase ⊢
  cases hcase with
  | replaced | initializedLine | callNotification => exact leavesNoRecord_nil
  | unparsed | initializeLine => exact leavesNoRecord_respond _
  | refused line request =>
    exact leavesNoRecord_answer request fun id =>
      .failure id notInitializedCode "Server not initialized"
  | answered line request response => exact leavesNoRecord_answer request response
  | unnamedCall line request id effects accepts method id_eq =>
    have hadmitted := accepts.admitted
    rw [method] at hadmitted
    refine absurd ⟨⟨request.jsonrpc, ?_⟩, operational_of_canAcceptMethod hadmitted⟩
      (h line id request.params rfl)
    rw [accepts.parsed, ← id_eq, ← method]
  | call line id name params isCall => exact absurd isCall.isToolsCall (h line id params rfl)

/-- The line of an event that is a call of a tool in the given state. -/
def callLine? (gw : Gateway) (st : DispatchState) : Event → Option InboundLine
  | .replaceHotConfig _ => none
  | .line line =>
    match gw.parseRequest line with
    | .ok request =>
      if request.method = "tools/call" ∧ request.id.isSome ∧ st.state = .operational then some line
      else none
    | .error _ => none

/-- The lines of a session that are calls of tools, in order. -/
def callLines (gw : Gateway) (st : DispatchState) : List Event → List InboundLine
  | [] => []
  | event :: events => (gw.callLine? st event).toList ++ gw.callLines (gw.step st event).1 events

theorem callLine?_eq_some_iff (gw : Gateway) (st : DispatchState) (event : Event)
    (line : InboundLine) :
    gw.callLine? st event = some line ↔
      event = .line line ∧ ∃ id params, IsToolsCall gw st line id params := by
  constructor
  · intro h
    cases event with
    | replaceHotConfig => simp [callLine?] at h
    | line other =>
      unfold callLine? at h
      cases hparsed : gw.parseRequest other with
      | error e => simp [hparsed] at h
      | ok request =>
        simp only [hparsed, Option.ite_none_right_eq_some, Option.some.injEq] at h
        obtain ⟨⟨hmethod, hid, hstate⟩, rfl⟩ := h
        obtain ⟨id, hid⟩ := Option.isSome_iff_exists.mp hid
        refine ⟨rfl, id, request.params, ⟨request.jsonrpc, ?_⟩, hstate⟩
        rw [hparsed, ← hid, ← hmethod]
  · rintro ⟨rfl, id, params, ⟨jsonrpc, hparsed⟩, hstate⟩
    simp [callLine?, hparsed, hstate]

/-- A session keeps its accounts: each call of a tool is answered, audited and
counted once and consistently, nothing else is audited or counted, and the entries
stand in the order of the lines. -/
structure KeepsAccounts (gw : Gateway) (initial : DispatchState) (events : List Event) :
    Prop where
  calls : ∀ before line rest, events = before ++ .line line :: rest → ∀ id params,
    IsToolsCall gw (Runs.after gw.step initial before) line id params →
    ∃ entry status response, AccountsFor gw line
      (gw.step (Runs.after gw.step initial before) (.line line)).2 entry status response
  others : ∀ before event rest, events = before ++ event :: rest →
    (∀ line id params, event = .line line →
      ¬IsToolsCall gw (Runs.after gw.step initial before) line id params) →
    LeavesNoRecord (gw.step (Runs.after gw.step initial before) event).2
  in_order : ((Runs.outputs gw.step initial events).flatMap audits).map AuditEntry.requestId =
    (gw.callLines initial events).map InboundLine.requestId

/-- The entries of one event are those of the call it is, if any. -/
theorem requestIds_step (haudit : gw.auditTx = true) (hmetrics : gw.metrics = true)
    (st : DispatchState) (event : Event) :
    (audits (gw.step st event).2).map AuditEntry.requestId =
      (gw.callLine? st event).toList.map InboundLine.requestId := by
  cases hline : gw.callLine? st event with
  | some line =>
    obtain ⟨rfl, id, params, hcall⟩ := (gw.callLine?_eq_some_iff st event line).mp hline
    obtain ⟨entry, status, response, haccounts⟩ :=
      accountsFor_of_isToolsCall haudit hmetrics hcall
    rw [haccounts.audited]
    simp [haccounts.request_id]
  | none =>
    have hother : ∀ line id params, event = .line line → ¬IsToolsCall gw st line id params := by
      intro line id params hevent hcall
      have hsome := (gw.callLine?_eq_some_iff st event line).mpr ⟨hevent, id, params, hcall⟩
      rw [hline] at hsome
      cases hsome
    rw [(leavesNoRecord_of_not_toolsCall hother).unaudited]
    rfl

/-- **Accounting.** Every session with audit and metrics keeps its accounts. -/
theorem keepsAccounts (gw : Gateway) (haudit : gw.auditTx = true) (hmetrics : gw.metrics = true)
    (initial : DispatchState) (events : List Event) : KeepsAccounts gw initial events where
  calls _ _ _ _ _ _ hcall := accountsFor_of_isToolsCall haudit hmetrics hcall
  others _ _ _ _ hother := leavesNoRecord_of_not_toolsCall hother
  in_order := by
    induction events generalizing initial with
    | nil => rfl
    | cons event events ih =>
      rw [Runs.outputs_cons, List.flatMap_cons, List.map_append, callLines, List.map_append, ih,
        requestIds_step haudit hmetrics]

/-- A session with a rejected call and one that the backend answers with an error. -/
theorem keepsAccounts_two_calls :
    let gw := { bare (.ofValues (handshakeMessages ++ [queryMessage, callJson 8 "drop"])) with
      catalog := ToolCatalog.new.registerBackend "db"
        [⟨"query", none, [], []⟩, ⟨"drop", none, [], []⟩]
      backends := AList.singleton "db" (.stdio ⟨"db", 0, 60⟩)
      auditTx := true
      metrics := true }
    let initial := start ⟨{ disabledTools := ["drop"] }, .new {}⟩ .new ∅
    let events := handshake ++ [.line (.message (callJson 8 "drop")),
      .line (.message queryMessage)]
    KeepsAccounts gw initial events ∧
      ((Runs.outputs gw.step initial events).flatMap audits).map
        (fun entry => (entry.toolName, entry.backendName, entry.responseStatus)) =
        [("drop", "db", "killed"), ("query", "db", "error")] := by
  intro gw initial events
  exact ⟨keepsAccounts gw rfl rfl initial events, by decide +kernel⟩

end Gateway

end SentinelGateway
