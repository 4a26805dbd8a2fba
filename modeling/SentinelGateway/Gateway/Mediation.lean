import SentinelGateway.Gateway.Handshake

/-!
# Complete mediation

A body reaches a backend only through all the gates. The statement is about
single events of whole sessions: the state in which an event is read is the one
the events before it lead to.
-/

namespace SentinelGateway.Gateway

variable {gw : Gateway} {st : DispatchState} {event : Event}

/-- The line is a call of a named tool that the handshake precedes, every gate
lets it through to the backend its name routes to, whose handle gets the body, and the
body passes the client's parameters on unchanged. -/
structure Mediated (gw : Gateway) (before : List Event) (st : DispatchState) (event : Event)
    (backendName : String) (backend : Backend) (body : Json) (line : InboundLine)
    (id : JsonRpcId) (name : String) (params : Option Json) : Prop where
  event_eq : event = .line line
  isCall : IsCall gw st line id name params
  handshake : HandshakeSeen gw before
  route : gw.catalog.route name = some backendName
  handle : gw.backends.lookup backendName = some backend
  tool_enabled : name ∉ st.hotConfig.killSwitch.disabledTools
  backend_enabled : backendName ∉ st.hotConfig.killSwitch.disabledBackends
  rate_ok : (st.hotConfig.rateLimiter.check gw.identity.subject name line.checkedAt).2 = .ok ()
  role_ok : isToolAllowed gw.identity.role name .execute gw.rbacConfig = true
  arguments_ok : ∀ arguments, params.bind (Json.get "arguments") = some arguments →
    gw.schemaCache.validate name arguments = .ok ()
  circuit_ok : ∀ cb, st.circuitBreakers.lookup backendName = some cb →
    (cb.allowRequest line.allowedAt).2 = true
  params_eq : body.get "params" = params

/-- The parameters of a named call are those of the body sent for it. -/
theorem get_params_outboundRequest {params : Option Json} {name : String}
    (hname : toolName params = some name) (gatewayId : UInt64) :
    (outboundRequest gatewayId params).get "params" = params := by
  cases params with
  | none => simp [toolName] at hname
  | some value => simp [outboundRequest, Json.get, Json.lastMember]

/-- **Complete mediation.** In every session, whatever is handed to a backend
while an event is processed is mediated, and an event hands over at most one body. -/
theorem sends_mediated (gw : Gateway) (hotConfig : HotConfig) (idRemapper : IdRemapper)
    (circuitBreakers : Table String CircuitBreaker) (before : List Event) (event : Event) :
    let st := Runs.after gw.step (start hotConfig idRemapper circuitBreakers) before
    (∀ backendName backend body, (backendName, backend, body) ∈ sends (gw.step st event).2 →
      ∃ line id name params,
        Mediated gw before st event backendName backend body line id name params) ∧
      (sends (gw.step st event).2).length ≤ 1 := by
  intro st
  rcases send_cases gw st event with ⟨hnone, -⟩ |
    ⟨line, id, name, params, routed, backend, rfl, hcall, hpolicy, hcircuit, hroute, hbackend, -,
      hsend⟩
  · simp [hnone]
  · rw [hsend]
    refine ⟨?_, by simp⟩
    rintro backendName served body hmem
    obtain ⟨rfl, rfl, rfl⟩ : backendName = routed ∧ served = backend ∧
        body = outboundRequest st.idRemapper.counter params := by simpa using hmem
    have hlifecycle := lifecycleSound_after gw hotConfig idRemapper circuitBreakers before
    refine ⟨line, id, name, params, ?_⟩
    exact
      { event_eq := rfl
        isCall := hcall
        handshake := hlifecycle.operational hcall.operational
        route := hroute
        handle := hbackend
        tool_enabled := hpolicy.tool_enabled
        backend_enabled := hpolicy.backend_enabled backendName hroute
        rate_ok := hpolicy.rate_ok
        role_ok := hpolicy.role_ok
        arguments_ok := hpolicy.arguments_ok
        circuit_ok := fun cb hbreaker => hcircuit backendName cb hroute hbreaker
        params_eq := get_params_outboundRequest hcall.named _ }

end SentinelGateway.Gateway
