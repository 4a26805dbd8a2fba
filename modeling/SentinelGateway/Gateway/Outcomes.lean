import SentinelGateway.Gateway.Steps

/-!
# The outcome of a call

What a client is told about its call, what the audit log is told, and what the
metrics are told. A call is rejected by a gate, and then all three follow from
the rejection, or it gets to `handle_tools_call`, and then the response depends
on the line and on the tables of the gateway but on no state of the session.
-/

namespace SentinelGateway

/-- The audit entry an effect offers. -/
def Effect.audit? : Effect → Option AuditEntry
  | .audit entry => some entry
  | _ => none

/-- The call of `Metrics::record_request` an effect makes. -/
def Effect.recordRequest? : Effect → Option (String × CallStatus × Duration)
  | .recordRequest tool status seconds => some (tool, status, seconds)
  | _ => none

/-- The audit entries among the effects, in order. -/
def audits (effects : List Effect) : List AuditEntry := effects.filterMap Effect.audit?

/-- The calls of `Metrics::record_request` among the effects, in order. -/
def recordedRequests (effects : List Effect) : List (String × CallStatus × Duration) :=
  effects.filterMap Effect.recordRequest?

namespace Gateway

variable {gw : Gateway} {st : DispatchState} {line : InboundLine} {id : JsonRpcId}
  {name : String} {params : Option Json} {rejection : Rejection}

/-- Every rejection reports the status and the code of its gate. -/
theorem reports_of_passGates (h : (gw.passGates st line name params).2 = some rejection) :
    rejection.Reports gw name rejection.status := by
  have hsome : ∃ status, rejection.Reports gw name status := by
    have hcase := passGates_cases gw st line name params
    generalize gw.passGates st line name params = result at hcase h
    cases hcase with
    | killed other gate => exact ⟨_, reports_of_killSwitchGate (gate.trans h)⟩
    | rateLimited other enabled gate => exact ⟨_, reports_of_rateLimitGate (gate.trans h)⟩
    | denied other enabled rate_ok gate => exact ⟨_, reports_of_rbacGate (gate.trans h)⟩
    | invalidArgs other enabled rate_ok gate => exact ⟨_, reports_of_schemaGate (gate.trans h)⟩
    | circuit policy => exact ⟨_, reports_of_circuitGate h⟩
  obtain ⟨status, hreports⟩ := hsome
  rwa [hreports.status_eq]

/-- The response made from the outcome of a call to a backend. -/
def settledResponse (gw : Gateway) (line : InboundLine) (id : JsonRpcId) : JsonRpcResponse :=
  match line.outcome with
  | .ok text =>
    match gw.serde.read JsonRpcResponse.decode text with
    | .ok response => { response with id }
    | .error e => .failure id internalErrorCode ("Invalid backend response: " ++ e)
  | .error e => .failure id internalErrorCode ("Backend error: " ++ e.display)

/-- The response of `handle_tools_call`. -/
def callResponse (gw : Gateway) (line : InboundLine) (id : JsonRpcId) (params : Option Json) :
    JsonRpcResponse :=
  match toolName params with
  | none => .failure id invalidParamsCode "Missing tool name in params"
  | some name =>
    match gw.catalog.route name with
    | none => .failure id invalidParamsCode ("Unknown tool: " ++ name)
    | some backendName =>
      match gw.backends.lookup backendName with
      | none => .failure id internalErrorCode ("Backend unavailable: " ++ backendName)
      | some _ => gw.settledResponse line id

/-- The entry made for a call is there when its outcome arrives, so the response
does not depend on the remapper. -/
theorem settleCall_response (gw : Gateway) (st : DispatchState) (line : InboundLine)
    (id : JsonRpcId) (backendName : String) :
    (gw.settleCall { st with idRemapper := (st.idRemapper.remap id backendName).1 } line
      backendName (st.idRemapper.remap id backendName).2).2 = gw.settledResponse line id := by
  have hrestore := st.idRemapper.restore_remap id backendName
  unfold settleCall settledResponse
  cases line.outcome with
  | error e => simp only [hrestore, Option.map_some, Option.getD_some]
  | ok text =>
    cases hread : gw.serde.read JsonRpcResponse.decode text with
    | ok response => simp only [hread, hrestore]
    | error e => simp only [hread, hrestore, Option.map_some, Option.getD_some]

theorem handleToolsCall_response (gw : Gateway) (st : DispatchState) (line : InboundLine)
    (id : JsonRpcId) (params : Option Json) :
    (gw.handleToolsCall st line id params).2.2 = gw.callResponse line id params := by
  unfold handleToolsCall callResponse
  cases toolName params with
  | none => rfl
  | some name =>
    cases hroute : gw.catalog.route name with
    | none => simp only [hroute]
    | some backendName =>
      cases hbackend : gw.backends.lookup backendName with
      | none => simp only [hroute, hbackend]
      | some backend =>
        simp only [hroute, hbackend]
        exact settleCall_response gw st line id backendName

/-- A call to a backend there is hands it one body. -/
theorem handleToolsCall_of_served {backendName : String} {backend : Backend}
    (hname : toolName params = some name) (hroute : gw.catalog.route name = some backendName)
    (hbackend : gw.backends.lookup backendName = some backend) :
    gw.handleToolsCall st line id params = (afterCall st line id backendName,
      [.send backendName backend (outboundRequest st.idRemapper.counter params)],
      gw.settledResponse line id) := by
  have hresponse : gw.callResponse line id params = gw.settledResponse line id := by
    simp only [callResponse, hname, hroute, hbackend]
  rcases handleToolsCall_cases gw st line id params with ⟨code, message, -, hmissing⟩ |
    ⟨called, routed, served, response, hcalled, hrouted, hserved, -, heq⟩
  · simp [hmissing name backendName hname hroute] at hbackend
  · obtain rfl : name = called := by simpa [hname] using hcalled
    obtain rfl : backendName = routed := by simpa [hroute] using hrouted
    obtain rfl : backend = served := by simpa [hbackend] using hserved
    rw [← hresponse, ← handleToolsCall_response gw st line id params, heq]

/-- Any other call is answered at once. -/
theorem handleToolsCall_of_unserved (st : DispatchState) (line : InboundLine) (id : JsonRpcId)
    (h : ∀ name backendName, toolName params = some name →
      gw.catalog.route name = some backendName → gw.backends.lookup backendName = none) :
    gw.handleToolsCall st line id params = (st, [], gw.callResponse line id params) := by
  rw [← handleToolsCall_response gw st line id params]
  rcases handleToolsCall_cases gw st line id params with ⟨code, message, heq, -⟩ |
    ⟨name, backendName, backend, response, hname, hroute, hbackend, -, -⟩
  · rw [heq]
  · simp [h name backendName hname hroute] at hbackend

/-- The state in which a call gets to `handle_tools_call`. -/
def gated (gw : Gateway) (st : DispatchState) (line : InboundLine) (params : Option Json) :
    DispatchState :=
  match toolName params with
  | some name => (gw.passGates st line name params).1
  | none => st

theorem gated_of_named (gw : Gateway) (st : DispatchState) (line : InboundLine)
    (hname : toolName params = some name) :
    gw.gated st line params = (gw.passGates st line name params).1 := by
  simp only [gated, hname]

/-- A call is rejected by a gate or handed to its backend. -/
theorem toolsCall_eq (gw : Gateway) (st : DispatchState) (line : InboundLine) (id : JsonRpcId)
    (params : Option Json) :
    (∃ name rejection, toolName params = some name ∧
        (gw.passGates st line name params).2 = some rejection ∧
        gw.toolsCall st line id params =
          (gw.gated st line params, gw.reject line id name params rejection)) ∨
      (∀ name, toolName params = some name → (gw.passGates st line name params).2 = none) ∧
        gw.toolsCall st line id params =
          gw.backendDispatch (gw.gated st line params) line id params := by
  unfold toolsCall gated
  cases toolName params with
  | none => exact Or.inr ⟨by simp, rfl⟩
  | some name =>
    cases hpass : gw.passGates st line name params with
    | mk after answer =>
      cases answer with
      | some rejection =>
        refine Or.inl ⟨name, rejection, rfl, by rw [hpass], ?_⟩
        simp only [hpass]
      | none =>
        refine Or.inr ⟨?_, by simp only [hpass]⟩
        rintro _ ⟨rfl⟩
        rw [hpass]

/-- The line is a `tools/call` with an identifier that is read in the operational
state, whether it names a tool or not. -/
structure IsToolsCall (gw : Gateway) (st : DispatchState) (line : InboundLine) (id : JsonRpcId)
    (params : Option Json) : Prop where
  parsed : ∃ jsonrpc, gw.parseRequest line =
    .ok { jsonrpc, id := some id, method := "tools/call", params }
  operational : st.state = .operational

theorem step_of_isToolsCall (h : IsToolsCall gw st line id params) :
    gw.step st (.line line) = gw.toolsCall st line id params := by
  obtain ⟨jsonrpc, hparsed⟩ := h.parsed
  have hadmitted : st.state.canAcceptMethod "tools/call" = true := by
    rw [h.operational]
    rfl
  rw [step_of_accepts ⟨hparsed, hadmitted⟩, dispatch_toolsCall rfl rfl]

/-- A call that is forwarded is answered with what its outcome makes of it. -/
theorem responses_of_admitted {backendName : String} {backend : Backend}
    (hcall : IsCall gw st line id name params) (hpolicy : PassesPolicy gw st line name params)
    (hcircuit : CircuitAdmits gw st line name)
    (hroute : gw.catalog.route name = some backendName)
    (hbackend : gw.backends.lookup backendName = some backend) :
    responses (gw.step st (.line line)).2 = [gw.settledResponse line id] := by
  have hpass : (gw.passGates st line name params).2 = none := by
    rw [passGates_of_passesPolicy hpolicy]
    rcases (circuitGate_spec gw (gw.afterCheck st line name) name line.allowedAt).2.2 with
      ⟨routed, cb, hrouted, hbreaker, hopen, -⟩ | ⟨-, hnone⟩
    · simp [hcircuit routed cb hrouted hbreaker] at hopen
    · exact hnone
  rw [step_of_isCall hcall]
  rcases toolsCall_eq gw st line id params with ⟨called, rejection, hname, hreject, -⟩ | ⟨-, heq⟩
  · obtain rfl : name = called := by simpa [hcall.named] using hname
    simp [hpass] at hreject
  · rw [heq, (backendDispatch_spec gw _ line id params).2.1,
      handleToolsCall_of_served hcall.named hroute hbackend]
    rfl

theorem IsCall.isToolsCall (h : IsCall gw st line id name params) :
    IsToolsCall gw st line id params := ⟨h.parsed, h.operational⟩

end Gateway

end SentinelGateway
