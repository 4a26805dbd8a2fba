import SentinelGateway.Gateway.Gates

/-!
# What one event does

The complete list of what the dispatch loop can do with an event. Results about
whole sessions are inductions whose step is a case analysis of this list, so
none of them looks into the loop itself.
-/

namespace SentinelGateway.Gateway

variable {gw : Gateway} {st : DispatchState} {line : InboundLine} {id : JsonRpcId}
  {name : String} {params : Option Json}

/-- The line carries the request and the lifecycle state admits its method. -/
structure Accepts (gw : Gateway) (st : DispatchState) (line : InboundLine)
    (request : JsonRpcRequest) : Prop where
  parsed : gw.parseRequest line = .ok request
  admitted : st.state.canAcceptMethod request.method = true

/-- The line is a call of a named tool: a `tools/call` with an identifier and a
string `name` among its parameters, read in the operational state. -/
structure IsCall (gw : Gateway) (st : DispatchState) (line : InboundLine) (id : JsonRpcId)
    (name : String) (params : Option Json) : Prop where
  parsed : ∃ jsonrpc, gw.parseRequest line =
    .ok { jsonrpc, id := some id, method := "tools/call", params }
  operational : st.state = .operational
  named : toolName params = some name

/-- Only the operational state admits calls of tools. -/
theorem operational_of_canAcceptMethod {state : McpState}
    (h : state.canAcceptMethod "tools/call" = true) : state = .operational := by
  cases state with
  | operational => rfl
  | created | initializing | closed => simp [McpState.canAcceptMethod] at h

/-- Everything an event can do: to the left what it is, to the right the state
and the effects it leads to. -/
inductive StepCase (gw : Gateway) (st : DispatchState) : Event → DispatchState × List Effect → Prop
  | replaced (hotConfig : HotConfig) :
      StepCase gw st (.replaceHotConfig hotConfig) ({ st with hotConfig }, [])
  | unparsed (line : InboundLine) (message : String)
      (parsed : gw.parseRequest line = .error message) :
      StepCase gw st (.line line)
        (st, [.respond (.failure .null parseErrorCode ("Parse error: " ++ message))])
  | refused (line : InboundLine) (request : JsonRpcRequest)
      (parsed : gw.parseRequest line = .ok request)
      (refused : st.state.canAcceptMethod request.method = false) :
      StepCase gw st (.line line) (st, answer request fun id =>
        .failure id notInitializedCode "Server not initialized")
  | initializeLine (line : InboundLine) (request : JsonRpcRequest)
      (accepts : Accepts gw st line request) (method : request.method = "initialize") :
      StepCase gw st (.line line) (gw.initializeArm st request)
  | initializedLine (line : InboundLine) (request : JsonRpcRequest)
      (accepts : Accepts gw st line request)
      (method : request.method = "notifications/initialized") :
      StepCase gw st (.line line) ({ st with state := .operational }, [])
  | answered (line : InboundLine) (request : JsonRpcRequest)
      (response : JsonRpcId → JsonRpcResponse) (accepts : Accepts gw st line request)
      (method : request.method ∉ ["initialize", "notifications/initialized", "tools/call"])
      (response_id : ∀ id, (response id).id = id) (standard : ∀ id, (response id).Standard) :
      StepCase gw st (.line line) (st, answer request response)
  | callNotification (line : InboundLine) (request : JsonRpcRequest)
      (accepts : Accepts gw st line request) (method : request.method = "tools/call")
      (notification : request.id = none) :
      StepCase gw st (.line line) (st, [])
  | unnamedCall (line : InboundLine) (request : JsonRpcRequest) (id : JsonRpcId)
      (effects : List Effect) (accepts : Accepts gw st line request)
      (method : request.method = "tools/call") (id_eq : request.id = some id)
      (unnamed : toolName request.params = none)
      (response : responses effects =
        [.failure id invalidParamsCode "Missing tool name in params"])
      (silent : sends effects = []) :
      StepCase gw st (.line line) (st, effects)
  | call (line : InboundLine) (id : JsonRpcId) (name : String) (params : Option Json)
      {result : DispatchState × List Effect} (isCall : IsCall gw st line id name params)
      (callCase : CallCase gw st line id name params result) :
      StepCase gw st (.line line) result

/-- An answer is a response for a request and nothing for a notification. -/
theorem responses_answer (request : JsonRpcRequest) (response : JsonRpcId → JsonRpcResponse) :
    responses (answer request response) = request.id.toList.map response := by
  unfold answer JsonRpcRequest.isNotification
  cases request.id <;> rfl

theorem sends_answer (request : JsonRpcRequest) (response : JsonRpcId → JsonRpcResponse) :
    sends (answer request response) = [] := by
  unfold answer
  split_ifs <;> rfl

/-- A call without a tool name is answered by `handle_tools_call` at once. -/
theorem toolsCall_of_unnamed (gw : Gateway) (st : DispatchState) (line : InboundLine)
    (id : JsonRpcId) (hname : toolName params = none) :
    (gw.toolsCall st line id params).1 = st ∧
      responses (gw.toolsCall st line id params).2 =
        [.failure id invalidParamsCode "Missing tool name in params"] ∧
      sends (gw.toolsCall st line id params).2 = [] := by
  have hcall : gw.toolsCall st line id params = gw.backendDispatch st line id params := by
    simp only [toolsCall, hname]
  have hhandle : gw.handleToolsCall st line id params =
      (st, [], .failure id invalidParamsCode "Missing tool name in params") := by
    simp only [handleToolsCall, hname]
  have hspec := backendDispatch_spec gw st line id params
  rwa [hhandle, ← hcall] at hspec

/-- A `tools/call` with an identifier is handed to its arm. -/
theorem dispatch_toolsCall {request : JsonRpcRequest} (hmethod : request.method = "tools/call")
    (hid : request.id = some id) :
    gw.dispatch st line request = gw.toolsCall st line id request.params := by
  unfold dispatch
  rw [if_neg (by simp [hmethod]), if_neg (by simp [hmethod]), if_neg (by simp [hmethod]),
    if_pos hmethod, if_neg (by simp [JsonRpcRequest.isNotification, hid]), hid]
  rfl

/-- An accepted line is dispatched. -/
theorem step_of_accepts {request : JsonRpcRequest} (h : Accepts gw st line request) :
    gw.step st (.line line) = gw.dispatch st line request := by
  simp only [step, processLine, h.parsed, h.admitted, if_true]

/-- A line with a named call goes through the gates and on to the backend. -/
theorem step_of_isCall (h : IsCall gw st line id name params) :
    gw.step st (.line line) = gw.toolsCall st line id params := by
  obtain ⟨jsonrpc, hparsed⟩ := h.parsed
  have hadmitted : st.state.canAcceptMethod "tools/call" = true := by
    rw [h.operational]
    rfl
  rw [step_of_accepts ⟨hparsed, hadmitted⟩, dispatch_toolsCall rfl rfl]

/-- What an accepted request can do, by its method. -/
theorem dispatch_cases {request : JsonRpcRequest} (h : Accepts gw st line request) :
    StepCase gw st (.line line) (gw.dispatch st line request) := by
  by_cases hcall : request.method = "tools/call"
  · cases hid : request.id with
    | none =>
      have hsilent : gw.dispatch st line request = (st, []) := by
        unfold dispatch
        rw [if_neg (by simp [hcall]), if_neg (by simp [hcall]), if_neg (by simp [hcall]),
          if_pos hcall, if_pos (by simp [JsonRpcRequest.isNotification, hid])]
      rw [hsilent]
      exact .callNotification line request h hcall hid
    | some id =>
      rw [dispatch_toolsCall hcall hid]
      cases hname : toolName request.params with
      | none =>
        obtain ⟨hstate, hresponse, hsilent⟩ := toolsCall_of_unnamed gw st line id hname
        rw [← Prod.eta (gw.toolsCall st line id request.params), hstate]
        exact .unnamedCall line request id _ h hcall hid hname hresponse hsilent
      | some name =>
        have hadmitted := h.admitted
        rw [hcall] at hadmitted
        have hparsed : gw.parseRequest line =
            .ok { jsonrpc := request.jsonrpc, id := some id, method := "tools/call",
                  params := request.params } := by
          rw [h.parsed, ← hid, ← hcall]
        exact .call line id name request.params
          ⟨⟨_, hparsed⟩, operational_of_canAcceptMethod hadmitted, hname⟩
          (toolsCall_cases gw st line id hname)
  unfold dispatch
  by_cases hinit : request.method = "initialize"
  · rw [if_pos hinit]
    exact .initializeLine line request h hinit
  rw [if_neg hinit]
  by_cases hinitialized : request.method = "notifications/initialized"
  · rw [if_pos hinitialized]
    exact .initializedLine line request h hinitialized
  rw [if_neg hinitialized]
  -- the remaining methods change nothing and answer requests only
  have hmethod : request.method ∉ ["initialize", "notifications/initialized", "tools/call"] := by
    simp [hinit, hinitialized, hcall]
  by_cases hlist : request.method = "tools/list"
  · rw [if_pos hlist]
    exact .answered line request _ h hmethod (fun _ => rfl) fun _ =>
      JsonRpcResponse.standard_success _ _
  rw [if_neg hlist, if_neg hcall]
  by_cases hping : request.method = "ping"
  · rw [if_pos hping]
    exact .answered line request _ h hmethod (fun _ => rfl) fun _ =>
      JsonRpcResponse.standard_success _ _
  · rw [if_neg hping]
    exact .answered line request _ h hmethod (fun _ => rfl) fun _ =>
      JsonRpcResponse.standard_failure _ _ _

/-- **Inversion.** Every step is one of the listed ones. -/
theorem step_cases (gw : Gateway) (st : DispatchState) (event : Event) :
    StepCase gw st event (gw.step st event) := by
  cases event with
  | replaceHotConfig hotConfig => exact .replaced hotConfig
  | line line =>
    cases hparsed : gw.parseRequest line with
    | error message =>
      simp only [step, processLine, hparsed]
      exact .unparsed line message hparsed
    | ok request =>
      cases hadmitted : st.state.canAcceptMethod request.method with
      | false =>
        simp only [step, processLine, hparsed, hadmitted, Bool.false_eq_true, if_false]
        exact .refused line request hparsed hadmitted
      | true =>
        rw [step_of_accepts ⟨hparsed, hadmitted⟩]
        exact dispatch_cases ⟨hparsed, hadmitted⟩

/-- A step that sends anything is a call that all gates let through, and it sends
one body. Any other step leaves the identifiers alone. -/
theorem send_cases (gw : Gateway) (st : DispatchState) (event : Event) :
    sends (gw.step st event).2 = [] ∧ (gw.step st event).1.idRemapper = st.idRemapper ∨
      ∃ line id name params backendName backend, event = .line line ∧
        IsCall gw st line id name params ∧ PassesPolicy gw st line name params ∧
        CircuitAdmits gw st line name ∧ gw.catalog.route name = some backendName ∧
        gw.backends.lookup backendName = some backend ∧
        (gw.step st event).1 = afterCall (gw.afterGates st line name) line id backendName ∧
        sends (gw.step st event).2 =
          [(backendName, backend, outboundRequest st.idRemapper.counter params)] := by
  have hcase := step_cases gw st event
  generalize gw.step st event = result at hcase ⊢
  cases hcase with
  | replaced | unparsed | initializeLine | initializedLine | callNotification =>
    exact Or.inl ⟨rfl, rfl⟩
  | refused line request | answered line request =>
    refine Or.inl ⟨?_, rfl⟩
    rw [sends_answer]
  | unnamedCall line request id effects accepts method id_eq unnamed response silent =>
    exact Or.inl ⟨silent, rfl⟩
  | call line id name params isCall callCase =>
    cases callCase with
    | refused rejection policy code unchanged =>
      refine Or.inl ⟨sends_reject _, ?_⟩
      rcases unchanged with rfl | rfl
      · rfl
      · rfl
    | circuitOpen => exact Or.inl ⟨sends_reject _, afterGates_idRemapper gw st line name⟩
    | unserved code message effects policy circuit missing answer silent =>
      exact Or.inl ⟨silent, afterGates_idRemapper gw st line name⟩
    | sent backendName backend response effects policy circuit route served id_eq answer send =>
      exact Or.inr ⟨line, id, name, params, backendName, backend, rfl, isCall, policy, circuit,
        route, served, rfl, send⟩

/-- A call that all gates let through is sent to the backend its name routes to, if
there is one. -/
theorem sends_of_admitted {backendName : String} (hcall : IsCall gw st line id name params)
    (hpolicy : PassesPolicy gw st line name params) (hcircuit : CircuitAdmits gw st line name)
    (hroute : gw.catalog.route name = some backendName) :
    sends (gw.step st (.line line)).2 = (gw.backends.lookup backendName).toList.map fun backend =>
      (backendName, backend, outboundRequest st.idRemapper.counter params) := by
  have hcase := toolsCall_cases gw st line id hcall.named
  rw [step_of_isCall hcall]
  generalize gw.toolsCall st line id params = result at hcase ⊢
  cases hcase with
  | refused rejection policy => exact absurd hpolicy policy
  | circuitOpen rejection routed cb policy route breaker open_circuit =>
    simp [hcircuit routed cb route breaker] at open_circuit
  | unserved code message effects policy circuit missing answer silent =>
    rw [silent, missing backendName hroute]
    rfl
  | sent routed backend response effects policy circuit route served id_eq answer send =>
    obtain rfl : backendName = routed := by simpa [hroute] using route
    rw [send, served]
    rfl

/-- A line carries at most one call. -/
theorem IsCall.unique {id' : JsonRpcId} {name' : String} {params' : Option Json}
    (h : IsCall gw st line id name params) (h' : IsCall gw st line id' name' params') :
    id = id' ∧ name = name' ∧ params = params' := by
  obtain ⟨jsonrpc, hparsed⟩ := h.parsed
  obtain ⟨jsonrpc', hparsed'⟩ := h'.parsed
  rw [hparsed, Except.ok.injEq, JsonRpcRequest.mk.injEq, Option.some.injEq] at hparsed'
  obtain ⟨-, rfl, -, rfl⟩ := hparsed'
  have hname := h'.named
  rw [h.named, Option.some.injEq] at hname
  exact ⟨rfl, hname, rfl⟩

/-- The event is a call of a tool that every gate lets through to a backend there is. -/
def Admitted (gw : Gateway) (st : DispatchState) (event : Event) : Prop :=
  ∃ line id name params backendName backend, event = .line line ∧
    IsCall gw st line id name params ∧ PassesPolicy gw st line name params ∧
    CircuitAdmits gw st line name ∧ gw.catalog.route name = some backendName ∧
    gw.backends.lookup backendName = some backend

theorem sends_ne_nil_iff (gw : Gateway) (st : DispatchState) (event : Event) :
    sends (gw.step st event).2 ≠ [] ↔ Admitted gw st event := by
  constructor
  · intro h
    rcases send_cases gw st event with ⟨hsilent, -⟩ |
      ⟨line, id, name, params, backendName, backend, hevent, hcall, hpolicy, hcircuit, hroute,
        hbackend, -, -⟩
    · exact absurd hsilent h
    · exact ⟨line, id, name, params, backendName, backend, hevent, hcall, hpolicy, hcircuit,
        hroute, hbackend⟩
  · rintro ⟨line, id, name, params, backendName, backend, rfl, hcall, hpolicy, hcircuit, hroute,
      hbackend⟩
    rw [sends_of_admitted hcall hpolicy hcircuit hroute, hbackend]
    simp

end SentinelGateway.Gateway
