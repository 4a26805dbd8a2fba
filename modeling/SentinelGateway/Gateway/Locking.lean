import SentinelGateway.Gateway.Steps
import SentinelGateway.Library.RwLock

/-!
# Reloading in the middle of a line

The dispatch loop reads the shared hot configuration under a guard that it holds
only for the kill switch and the rate limit, and for the answer to a call these
reject. A reload may come in before and after it: while the line waits for the
guard, and as long as a backend takes for its answer. Still a line is processed
under one configuration, as if it took no time: every run of the loop and of the
handler of SIGHUP, step by step, is a session in which reloads fall between lines.
-/

namespace SentinelGateway

/-- A call of a named tool. -/
structure NamedCall where
  line : InboundLine
  id : JsonRpcId
  name : String
  params : Option Json

/-- Where `run_dispatch` is in the processing of a line. `listing` and `arriving` wait
for the guard of the hot configuration, `calling` waits for the backend, and
`emitting` hands over what is left, under the guard or not. -/
inductive LinePhase where
  | receiving
  | listing (line : InboundLine) (id : JsonRpcId)
  | filtering (id : JsonRpcId)
  | arriving (call : NamedCall)
  | guarded (call : NamedCall)
  | limiting (call : NamedCall)
  | admitted (call : NamedCall)
  | breaking (call : NamedCall)
  | dispatching (line : InboundLine) (id : JsonRpcId) (params : Option Json)
  | calling (line : InboundLine) (params : Option Json) (backendName : String)
      (gatewayId : UInt64)
  | emitting (underGuard : Bool) (effects : List Effect)

/-- The loop holds a guard of the hot configuration. -/
def LinePhase.holdsGuard : LinePhase → Bool
  | .filtering _ | .guarded _ | .limiting _ => true
  | .emitting underGuard _ => underGuard
  | _ => false

/-- The line that waits for the guard. -/
def LinePhase.waiting : LinePhase → Option InboundLine
  | .listing line _ => some line
  | .arriving call => some call.line
  | _ => none

/-- Where the handler of SIGHUP is: waiting for a signal, waiting for the guard of
the hot configuration with a new one in hand, or holding that guard. -/
inductive ReloadTask where
  | waiting
  | acquiring (hotConfig : HotConfig)
  | replacing (hotConfig : HotConfig)
  | releasing

def ReloadTask.holdsGuard : ReloadTask → Bool
  | .replacing _ | .releasing => true
  | .waiting | .acquiring _ => false

/-- The configuration that is not yet in place. -/
def ReloadTask.pending : ReloadTask → Option HotConfig
  | .acquiring hotConfig | .replacing hotConfig => some hotConfig
  | .waiting | .releasing => none

namespace Gateway

variable {gw : Gateway} {st : DispatchState} {line : InboundLine} {call : NamedCall}

/-- What is reported of a call once its response is there. -/
def report (gw : Gateway) (line : InboundLine) (params : Option Json)
    (response : JsonRpcResponse) : List Effect :=
  let tool := (toolName params).getD "unknown"
  let status := if response.error.isSome then CallStatus.error else .success
  (if gw.metrics then [.recordRequest tool status line.latencySecs] else []) ++
    (if gw.auditTx then
      [.audit (gw.auditEntry line tool (gw.auditedBackend tool) params status
        (response.error.map JsonRpcError.message) line.latencyMs)]
    else []) ++
    [.respond response]

/-- A line is taken up. What needs no shared configuration is done with it. -/
def begin (gw : Gateway) (st : DispatchState) (line : InboundLine) : DispatchState × LinePhase :=
  match gw.parseRequest line with
  | .error e =>
    (st, .emitting false [.respond (.failure .null parseErrorCode ("Parse error: " ++ e))])
  | .ok request =>
    if st.state.canAcceptMethod request.method then
      if request.method = "tools/list" then
        match request.id with
        | none => (st, .emitting false [])
        | some id => (st, .listing line id)
      else if request.method = "tools/call" then
        match request.id with
        | none => (st, .emitting false [])
        | some id =>
          match toolName request.params with
          | none => (st, .dispatching line id request.params)
          | some name => (st, .arriving ⟨line, id, name, request.params⟩)
      else ((gw.dispatch st line request).1, .emitting false (gw.dispatch st line request).2)
    else
      (st, .emitting false (answer request fun id =>
        .failure id notInitializedCode "Server not initialized"))

/-- What a call is answered by the gate that rejects it. -/
def refuse (gw : Gateway) (call : NamedCall) (rejection : Rejection) : List Effect :=
  gw.reject call.line call.id call.name call.params rejection

/-- What the loop does after a gate: it answers a call that was rejected, with or
without the guard, and goes on with the others. -/
def afterGate (gw : Gateway) (call : NamedCall) (underGuard : Bool) (next : LinePhase) :
    DispatchState × Option Rejection → DispatchState × LinePhase × List Effect
  | (st, some rejection) => (st, .emitting underGuard (gw.refuse call rejection), [])
  | (st, none) => (st, next, [])

/-- `handle_tools_call` up to the call of the backend. -/
def callBackend (gw : Gateway) (st : DispatchState) (line : InboundLine) (id : JsonRpcId)
    (params : Option Json) : DispatchState × LinePhase × List Effect :=
  match toolName params with
  | none => (st, .emitting false (gw.report line params
      (.failure id invalidParamsCode "Missing tool name in params")), [])
  | some name =>
    match gw.catalog.route name with
    | none => (st, .emitting false (gw.report line params
        (.failure id invalidParamsCode ("Unknown tool: " ++ name))), [])
    | some backendName =>
      match gw.backends.lookup backendName with
      | none => (st, .emitting false (gw.report line params
          (.failure id internalErrorCode ("Backend unavailable: " ++ backendName))), [])
      | some backend =>
        let (remapper, gatewayId) := st.idRemapper.remap id backendName
        ({ st with idRemapper := remapper }, .calling line params backendName gatewayId,
          [.send backendName backend (outboundRequest gatewayId params)])

/-- One step of the loop that waits for nobody else: the new state, where the loop is
then, and what it hands over. -/
def advance (gw : Gateway) (st : DispatchState) :
    LinePhase → Option (DispatchState × LinePhase × List Effect)
  | .receiving => none
  | .listing _ _ => none
  | .arriving _ => none
  | .filtering id => some (st, .emitting false
      [.respond (.success id (gw.toolsList st.hotConfig.killSwitch))], [])
  | .guarded call => some (gw.afterGate call true (.limiting call)
      (st, gw.killSwitchGate st.hotConfig.killSwitch call.name))
  | .limiting call => some (gw.afterGate call true (.admitted call)
      (gw.rateLimitGate st call.name call.line.checkedAt))
  | .admitted call => some (gw.afterGate call false (.breaking call)
      (st, (gw.rbacGate call.name).or (gw.schemaGate call.name call.params)))
  | .breaking call => some (gw.afterGate call false (.dispatching call.line call.id call.params)
      (gw.circuitGate st call.name call.line.allowedAt))
  | .dispatching line id params => some (gw.callBackend st line id params)
  | .calling line params backendName gatewayId =>
    let (st, response) := gw.settleCall st line backendName gatewayId
    some (st, .emitting false (gw.report line params response), [])
  | .emitting underGuard (effect :: effects) => some (st, .emitting underGuard effects, [effect])
  | .emitting _ [] => some (st, .receiving, [])

/-- The gates after the one of the rate limiter. They read no shared configuration. -/
def laterGates (gw : Gateway) (st : DispatchState) (call : NamedCall) :
    DispatchState × Option Rejection :=
  match gw.rbacGate call.name with
  | some rejection => (st, some rejection)
  | none =>
    match gw.schemaGate call.name call.params with
    | some rejection => (st, some rejection)
    | none => gw.circuitGate st call.name call.line.allowedAt

/-- The gates after the kill switch. -/
def limitedGates (gw : Gateway) (st : DispatchState) (call : NamedCall) :
    DispatchState × Option Rejection :=
  match gw.rateLimitGate st call.name call.line.checkedAt with
  | (st, some rejection) => (st, some rejection)
  | (st, none) => gw.laterGates st call

/-- What follows the gates. -/
def conclude (gw : Gateway) (call : NamedCall) :
    DispatchState × Option Rejection → DispatchState × List Effect
  | (st, some rejection) => (st, gw.refuse call rejection)
  | (st, none) => gw.backendDispatch st call.line call.id call.params

/-- What is left of the line the loop is processing, if nobody interferes. -/
def finish (gw : Gateway) (st : DispatchState) : LinePhase → DispatchState × List Effect
  | .receiving => (st, [])
  | .listing _ id | .filtering id =>
    (st, [.respond (.success id (gw.toolsList st.hotConfig.killSwitch))])
  | .arriving call | .guarded call =>
    gw.conclude call (gw.passGates st call.line call.name call.params)
  | .limiting call => gw.conclude call (gw.limitedGates st call)
  | .admitted call => gw.conclude call (gw.laterGates st call)
  | .breaking call => gw.conclude call (gw.circuitGate st call.name call.line.allowedAt)
  | .dispatching line id params => gw.backendDispatch st line id params
  | .calling line params backendName gatewayId =>
    ((gw.settleCall st line backendName gatewayId).1,
      gw.report line params (gw.settleCall st line backendName gatewayId).2)
  | .emitting _ effects => (st, effects)

theorem passGates_eq (gw : Gateway) (st : DispatchState) (call : NamedCall) :
    gw.passGates st call.line call.name call.params =
      match gw.killSwitchGate st.hotConfig.killSwitch call.name with
      | some rejection => (st, some rejection)
      | none => gw.limitedGates st call := by
  unfold passGates limitedGates laterGates
  cases gw.killSwitchGate st.hotConfig.killSwitch call.name with
  | some rejection => rfl
  | none =>
    rcases gw.rateLimitGate st call.name call.line.checkedAt with ⟨limited, _ | rejection⟩
    · cases gw.rbacGate call.name with
      | some rejection => rfl
      | none => cases gw.schemaGate call.name call.params <;> rfl
    · rfl

theorem backendDispatch_eq_report (gw : Gateway) (st : DispatchState) (line : InboundLine)
    (id : JsonRpcId) (params : Option Json) :
    gw.backendDispatch st line id params =
      ((gw.handleToolsCall st line id params).1, (gw.handleToolsCall st line id params).2.1 ++
        gw.report line params (gw.handleToolsCall st line id params).2.2) := by
  simp only [backendDispatch, report, List.append_assoc]

/-- The gates of the role and of the schema decide before the one of the circuit. -/
theorem laterGates_eq (gw : Gateway) (st : DispatchState) (call : NamedCall) :
    gw.laterGates st call =
      match (gw.rbacGate call.name).or (gw.schemaGate call.name call.params) with
      | some rejection => (st, some rejection)
      | none => gw.circuitGate st call.name call.line.allowedAt := by
  unfold laterGates
  cases gw.rbacGate call.name <;> cases gw.schemaGate call.name call.params <;> rfl

/-- What a step hands over and what is left after it. -/
def completed (gw : Gateway) (result : DispatchState × LinePhase × List Effect) :
    DispatchState × List Effect :=
  ((gw.finish result.1 result.2.1).1, result.2.2 ++ (gw.finish result.1 result.2.1).2)

/-- After a gate, what is left is the answer to the call or what follows the gate. -/
theorem completed_afterGate (call : NamedCall) (underGuard : Bool) (next : LinePhase)
    (result : DispatchState × Option Rejection) :
    gw.completed (gw.afterGate call underGuard next result) =
      match result with
      | (st, some rejection) => (st, gw.refuse call rejection)
      | (st, none) => gw.finish st next := by
  rcases result with ⟨st, _ | rejection⟩ <;> rfl

/-- A call of the backend is the send and what the outcome makes of it. -/
theorem completed_callBackend (gw : Gateway) (st : DispatchState) (line : InboundLine)
    (id : JsonRpcId) (params : Option Json) :
    gw.completed (gw.callBackend st line id params) = gw.backendDispatch st line id params := by
  rw [backendDispatch_eq_report]
  unfold handleToolsCall callBackend
  cases toolName params with
  | none => rfl
  | some name =>
    cases hroute : gw.catalog.route name with
    | none => simp only [hroute, completed, finish]
    | some backendName =>
      cases hbackend : gw.backends.lookup backendName with
      | none | some => simp only [hroute, hbackend, completed, finish]

/-- **Nobody interferes.** A step of the loop hands over the first part of what is left
of the line, and leaves the rest. -/
theorem completed_advance {phase : LinePhase} {result : DispatchState × LinePhase × List Effect}
    (h : gw.advance st phase = some result) : gw.completed result = gw.finish st phase := by
  cases phase with
  | receiving | listing | arriving => cases h
  | filtering | calling =>
    cases h
    rfl
  | guarded call =>
    cases h
    rw [completed_afterGate]
    change _ = gw.conclude call (gw.passGates st call.line call.name call.params)
    rw [passGates_eq]
    cases gw.killSwitchGate st.hotConfig.killSwitch call.name <;> rfl
  | limiting call =>
    cases h
    rw [completed_afterGate]
    change _ = gw.conclude call (gw.limitedGates st call)
    unfold limitedGates
    rcases gw.rateLimitGate st call.name call.line.checkedAt with ⟨limited, _ | rejection⟩ <;> rfl
  | admitted call =>
    cases h
    rw [completed_afterGate]
    change _ = gw.conclude call (gw.laterGates st call)
    rw [laterGates_eq]
    cases (gw.rbacGate call.name).or (gw.schemaGate call.name call.params) <;> rfl
  | breaking call =>
    cases h
    rw [completed_afterGate]
    change _ = gw.conclude call (gw.circuitGate st call.name call.line.allowedAt)
    rcases gw.circuitGate st call.name call.line.allowedAt with ⟨broken, _ | rejection⟩ <;> rfl
  | dispatching line id params =>
    cases h
    exact completed_callBackend gw st line id params
  | emitting underGuard left =>
    cases left with
    | nil | cons =>
      cases h
      rfl

/-- A reload changes nothing of a breaker's verdict. -/
theorem circuitGate_hotConfig (gw : Gateway) (st : DispatchState) (name : String) (now : Instant)
    (hotConfig : HotConfig) :
    gw.circuitGate { st with hotConfig } name now =
      ({ (gw.circuitGate st name now).1 with hotConfig }, (gw.circuitGate st name now).2) := by
  unfold circuitGate
  cases gw.catalog.route name with
  | none => rfl
  | some backendName =>
    cases hbreaker : st.circuitBreakers.lookup backendName <;> simp only [hbreaker]

theorem settleCall_hotConfig (gw : Gateway) (st : DispatchState) (line : InboundLine)
    (backendName : String) (gatewayId : UInt64) (hotConfig : HotConfig) :
    gw.settleCall { st with hotConfig } line backendName gatewayId =
      ({ (gw.settleCall st line backendName gatewayId).1 with hotConfig },
        (gw.settleCall st line backendName gatewayId).2) := by
  unfold settleCall
  cases line.outcome with
  | error => rfl
  | ok text => cases hread : gw.serde.read JsonRpcResponse.decode text <;> simp only [hread]

theorem handleToolsCall_hotConfig (gw : Gateway) (st : DispatchState) (line : InboundLine)
    (id : JsonRpcId) (params : Option Json) (hotConfig : HotConfig) :
    gw.handleToolsCall { st with hotConfig } line id params =
      ({ (gw.handleToolsCall st line id params).1 with hotConfig },
        (gw.handleToolsCall st line id params).2) := by
  unfold handleToolsCall
  cases toolName params with
  | none => rfl
  | some name =>
    cases hroute : gw.catalog.route name with
    | none => simp only [hroute]
    | some backendName =>
      cases hbackend : gw.backends.lookup backendName with
      | none => simp only [hroute, hbackend]
      | some backend =>
        have hsettle := settleCall_hotConfig gw
          { st with idRemapper := (st.idRemapper.remap id backendName).1 } line backendName
          (st.idRemapper.remap id backendName).2 hotConfig
        simp only [hroute, hbackend]
        rw [hsettle]

theorem backendDispatch_hotConfig (gw : Gateway) (st : DispatchState) (line : InboundLine)
    (id : JsonRpcId) (params : Option Json) (hotConfig : HotConfig) :
    gw.backendDispatch { st with hotConfig } line id params =
      ({ (gw.backendDispatch st line id params).1 with hotConfig },
        (gw.backendDispatch st line id params).2) := by
  rw [backendDispatch_eq_report, backendDispatch_eq_report, handleToolsCall_hotConfig]

/-- What follows a gate does not read the hot configuration. -/
theorem conclude_hotConfig (gw : Gateway) (call : NamedCall) (st : DispatchState)
    (rejection : Option Rejection) (hotConfig : HotConfig) :
    gw.conclude call ({ st with hotConfig }, rejection) =
      ({ (gw.conclude call (st, rejection)).1 with hotConfig },
        (gw.conclude call (st, rejection)).2) := by
  cases rejection with
  | some rejection => rfl
  | none => exact backendDispatch_hotConfig gw st call.line call.id call.params hotConfig

/-- **The guard is enough.** Once the loop has given the guard back, a reload changes
nothing of what is left of the line. -/
theorem finish_hotConfig {phase : LinePhase} (hguard : phase.holdsGuard = false)
    (hwaiting : phase.waiting = none) (st : DispatchState) (hotConfig : HotConfig) :
    gw.finish { st with hotConfig } phase =
      ({ (gw.finish st phase).1 with hotConfig }, (gw.finish st phase).2) := by
  cases phase with
  | filtering | guarded | limiting => cases hguard
  | listing | arriving => cases hwaiting
  | receiving | emitting => rfl
  | admitted call =>
    simp only [finish, laterGates_eq]
    cases (gw.rbacGate call.name).or (gw.schemaGate call.name call.params) with
    | some rejection => rfl
    | none =>
      simp only
      rw [circuitGate_hotConfig, conclude_hotConfig]
  | breaking call =>
    simp only [finish]
    rw [circuitGate_hotConfig, conclude_hotConfig]
  | dispatching line id params =>
    exact backendDispatch_hotConfig gw st line id params hotConfig
  | calling line params backendName gatewayId =>
    simp only [finish]
    rw [settleCall_hotConfig]

/-- What the loop knows of a line that waits for the guard. -/
def Waits (gw : Gateway) (st : DispatchState) : LinePhase → Prop
  | .listing line id => ∃ request, Accepts gw st line request ∧ request.method = "tools/list" ∧
      request.id = some id
  | .arriving call => IsCall gw st call.line call.id call.name call.params
  | _ => True

theorem Waits.hotConfig {phase : LinePhase} (h : Waits gw st phase) (hotConfig : HotConfig) :
    Waits gw { st with hotConfig } phase := by
  cases phase with
  | listing line id =>
    obtain ⟨request, haccepts, hrequest⟩ := h
    exact ⟨request, ⟨haccepts.parsed, haccepts.admitted⟩, hrequest⟩
  | arriving call => exact ⟨h.parsed, h.operational, h.named⟩
  | receiving | filtering | guarded | limiting | admitted | breaking | dispatching | calling
  | emitting => trivial

/-- A line that waits has all of its processing before it. -/
theorem Waits.step_eq {phase : LinePhase} (h : Waits gw st phase)
    (hwaiting : phase.waiting = some line) : gw.step st (.line line) = gw.finish st phase := by
  cases phase with
  | listing listed id =>
    obtain rfl := Option.some.inj hwaiting
    obtain ⟨request, haccepts, hmethod, hid⟩ := h
    rw [step_of_accepts haccepts]
    unfold dispatch answer
    simp [hmethod, hid, JsonRpcRequest.isNotification, finish]
  | arriving call =>
    obtain rfl := Option.some.inj hwaiting
    rw [step_of_isCall h]
    change gw.toolsCall st call.line call.id call.params =
      gw.conclude call (gw.passGates st call.line call.name call.params)
    unfold toolsCall
    rw [h.named]
    rcases hgates : gw.passGates st call.line call.name call.params with ⟨passed, _ | rejection⟩ <;>
      simp only [hgates] <;> rfl
  | receiving | filtering | guarded | limiting | admitted | breaking | dispatching | calling
  | emitting => cases hwaiting

theorem begin_eq {request : JsonRpcRequest} (h : Accepts gw st line request) :
    gw.begin st line =
      if request.method = "tools/list" then
        match request.id with
        | none => (st, .emitting false [])
        | some id => (st, .listing line id)
      else if request.method = "tools/call" then
        match request.id with
        | none => (st, .emitting false [])
        | some id =>
          match toolName request.params with
          | none => (st, .dispatching line id request.params)
          | some name => (st, .arriving ⟨line, id, name, request.params⟩)
      else ((gw.dispatch st line request).1, .emitting false (gw.dispatch st line request).2) := by
  simp only [begin, h.parsed, h.admitted, if_true]

/-- An accepted line waits for the guard or needs none. -/
theorem begin_of_accepts {request : JsonRpcRequest} (h : Accepts gw st line request) :
    (gw.begin st line).2.holdsGuard = false ∧
      ((gw.begin st line).2.waiting = some line ∧ (gw.begin st line).1 = st ∧
          Waits gw st (gw.begin st line).2 ∨
        (gw.begin st line).2.waiting = none ∧
          gw.dispatch st line request = gw.finish (gw.begin st line).1 (gw.begin st line).2) := by
  by_cases hlist : request.method = "tools/list"
  · cases hid : request.id with
    | none =>
      have hbegin : gw.begin st line = (st, .emitting false []) := by
        rw [begin_eq h, if_pos hlist, hid]
      rw [hbegin]
      refine ⟨rfl, Or.inr ⟨rfl, ?_⟩⟩
      simp [dispatch, answer, hlist, hid, JsonRpcRequest.isNotification, finish]
    | some id =>
      have hbegin : gw.begin st line = (st, .listing line id) := by
        rw [begin_eq h, if_pos hlist, hid]
      rw [hbegin]
      exact ⟨rfl, Or.inl ⟨rfl, rfl, request, h, hlist, hid⟩⟩
  by_cases hcall : request.method = "tools/call"
  · cases hid : request.id with
    | none =>
      have hbegin : gw.begin st line = (st, .emitting false []) := by
        rw [begin_eq h, if_neg hlist, if_pos hcall, hid]
      rw [hbegin]
      refine ⟨rfl, Or.inr ⟨rfl, ?_⟩⟩
      simp [dispatch, hcall, hid, JsonRpcRequest.isNotification, finish]
    | some id =>
      rw [dispatch_toolsCall hcall hid]
      cases hname : toolName request.params with
      | none =>
        have hbegin : gw.begin st line = (st, .dispatching line id request.params) := by
          simp only [begin_eq h, if_neg hlist, if_pos hcall, hid, hname]
        rw [hbegin]
        refine ⟨rfl, Or.inr ⟨rfl, ?_⟩⟩
        simp only [toolsCall, hname, finish]
      | some name =>
        have hbegin : gw.begin st line = (st, .arriving ⟨line, id, name, request.params⟩) := by
          simp only [begin_eq h, if_neg hlist, if_pos hcall, hid, hname]
        have hparsed : gw.parseRequest line =
            .ok { jsonrpc := request.jsonrpc, id := some id, method := "tools/call",
                  params := request.params } := by
          rw [h.parsed, ← hid, ← hcall]
        have hadmitted := h.admitted
        rw [hcall] at hadmitted
        rw [hbegin]
        exact ⟨rfl, Or.inl ⟨rfl, rfl, ⟨_, hparsed⟩, operational_of_canAcceptMethod hadmitted,
          hname⟩⟩
  · have hbegin : gw.begin st line =
        ((gw.dispatch st line request).1, .emitting false (gw.dispatch st line request).2) := by
      rw [begin_eq h, if_neg hlist, if_neg hcall]
    rw [hbegin]
    exact ⟨rfl, Or.inr ⟨rfl, rfl⟩⟩

/-- A line that is taken up either waits for the guard, with nothing done, or needs
no guard. -/
theorem begin_cases (gw : Gateway) (st : DispatchState) (line : InboundLine) :
    (gw.begin st line).2.holdsGuard = false ∧
      ((gw.begin st line).2.waiting = some line ∧ (gw.begin st line).1 = st ∧
          Waits gw st (gw.begin st line).2 ∨
        (gw.begin st line).2.waiting = none ∧
          gw.step st (.line line) = gw.finish (gw.begin st line).1 (gw.begin st line).2) := by
  cases hparsed : gw.parseRequest line with
  | error message =>
    have hbegin : gw.begin st line = (st, .emitting false
        [.respond (.failure .null parseErrorCode ("Parse error: " ++ message))]) := by
      simp only [begin, hparsed]
    rw [hbegin]
    refine ⟨rfl, Or.inr ⟨rfl, ?_⟩⟩
    simp only [step, processLine, hparsed, finish]
  | ok request =>
    cases hadmitted : st.state.canAcceptMethod request.method with
    | false =>
      have hbegin : gw.begin st line = (st, .emitting false (answer request fun id =>
          .failure id notInitializedCode "Server not initialized")) := by
        simp [begin, hparsed, hadmitted]
      rw [hbegin]
      refine ⟨rfl, Or.inr ⟨rfl, ?_⟩⟩
      simp only [step, processLine, hparsed, hadmitted, Bool.false_eq_true, if_false, finish]
    | true =>
      rw [step_of_accepts ⟨hparsed, hadmitted⟩]
      exact begin_of_accepts ⟨hparsed, hadmitted⟩

theorem waits_of_waiting_eq_none {phase : LinePhase} (h : phase.waiting = none) :
    Waits gw st phase := by
  cases phase with
  | listing | arriving => cases h
  | receiving | filtering | guarded | limiting | admitted | breaking | dispatching | calling
  | emitting => trivial

/-- Where a step of the loop leads: it never waits for the guard again, and never takes
it without having waited. -/
theorem guard_of_advance {phase next : LinePhase} {state : DispatchState} {effects : List Effect}
    (h : gw.advance st phase = some (state, next, effects)) :
    phase.waiting = none ∧ next.waiting = none ∧
      (phase.holdsGuard = false → next.holdsGuard = false) := by
  cases phase with
  | receiving | listing | arriving => cases h
  | filtering | calling =>
    cases h
    exact ⟨rfl, rfl, fun _ => rfl⟩
  | guarded call =>
    cases hgate : gw.killSwitchGate st.hotConfig.killSwitch call.name <;>
      simp only [advance, hgate] at h <;> cases h <;> exact ⟨rfl, rfl, id⟩
  | limiting call =>
    rcases hgate : gw.rateLimitGate st call.name call.line.checkedAt with
      ⟨limited, _ | rejection⟩ <;>
      simp only [advance, hgate] at h <;> cases h <;>
      exact ⟨rfl, rfl, by simp [LinePhase.holdsGuard]⟩
  | admitted call =>
    cases hgate : (gw.rbacGate call.name).or (gw.schemaGate call.name call.params) <;>
      simp only [advance, hgate] at h <;> cases h <;> exact ⟨rfl, rfl, id⟩
  | breaking call =>
    rcases hgate : gw.circuitGate st call.name call.line.allowedAt with ⟨broken, _ | rejection⟩ <;>
      simp only [advance, hgate] at h <;> cases h <;> exact ⟨rfl, rfl, id⟩
  | dispatching line id params =>
    simp only [advance, callBackend] at h
    cases hname : toolName params with
    | none =>
      simp only [hname] at h
      cases h
      exact ⟨rfl, rfl, fun _ => rfl⟩
    | some name =>
      simp only [hname] at h
      cases hroute : gw.catalog.route name with
      | none =>
        simp only [hroute] at h
        cases h
        exact ⟨rfl, rfl, fun _ => rfl⟩
      | some backendName =>
        simp only [hroute] at h
        cases hbackend : gw.backends.lookup backendName with
        | none | some =>
          simp only [hbackend] at h
          cases h
          exact ⟨rfl, rfl, fun _ => rfl⟩
  | emitting underGuard left =>
    cases left with
    | nil =>
      cases h
      exact ⟨rfl, rfl, fun _ => rfl⟩
    | cons effect left =>
      cases h
      exact ⟨rfl, rfl, id⟩

end Gateway

/-- The loop, the handler of SIGHUP and the lock between them. `emitted` is what the
loop has done to the outside. `events` is the session: a line is entered when the loop
takes it up or, if it has to wait for the guard, when it has the guard, and a reload
when the new configuration is in place. -/
structure LockedDispatch where
  state : DispatchState
  phase : LinePhase
  lock : RwLock
  handler : ReloadTask
  emitted : List Effect
  events : List Event

/-- The steps of the loop and of the handler. -/
inductive LockLabel where
  | take (line : InboundLine)
  | acquireRead
  | advance
  | signal (hotConfig : HotConfig)
  | acquireWrite
  | replace
  | dropWrite

namespace LockedDispatch

variable {gw : Gateway} {initial : DispatchState} {s t : LockedDispatch}

/-- The state in which the loop waits for its first line. -/
def start (initial : DispatchState) : LockedDispatch :=
  { state := initial, phase := .receiving, lock := .new, handler := .waiting, emitted := [],
    events := [] }

/-- One step. -/
def step (gw : Gateway) (s : LockedDispatch) : LockLabel → Option LockedDispatch
  | .take line =>
    match s.phase with
    | .receiving =>
      let (state, phase) := gw.begin s.state line
      some { s with
        state, phase
        events := if phase.waiting.isSome then s.events else s.events ++ [.line line] }
    | _ => none
  | .acquireRead =>
    match s.phase with
    | .listing line id => s.lock.read.map fun lock =>
        { s with lock, phase := .filtering id, events := s.events ++ [.line line] }
    | .arriving call => s.lock.read.map fun lock =>
        { s with lock, phase := .guarded call, events := s.events ++ [.line call.line] }
    | _ => none
  -- the guard is dropped where its scope ends
  | .advance => (gw.advance s.state s.phase).map fun (state, phase, effects) =>
      { s with
        state, phase
        lock := if s.phase.holdsGuard && !phase.holdsGuard then s.lock.dropRead else s.lock
        emitted := s.emitted ++ effects }
  | .signal hotConfig =>
    match s.handler with
    | .waiting => some { s with handler := .acquiring hotConfig }
    | _ => none
  | .acquireWrite =>
    match s.handler with
    | .acquiring hotConfig => s.lock.write.map fun lock =>
        { s with lock, handler := .replacing hotConfig }
    | _ => none
  | .replace =>
    match s.handler with
    | .replacing hotConfig => some { s with
        state := { s.state with hotConfig }
        handler := .releasing
        events := s.events ++ [.replaceHotConfig hotConfig] }
    | _ => none
  | .dropWrite =>
    match s.handler with
    | .releasing => some { s with handler := .waiting, lock := s.lock.dropWrite }
    | _ => none

/-- Everything a step can do, with the state in which it can be done. -/
inductive StepCase (gw : Gateway) (s : LockedDispatch) : LockLabel → LockedDispatch → Prop
  | taken (line : InboundLine) (phase : s.phase = .receiving) :
      StepCase gw s (.take line) { s with
        state := (gw.begin s.state line).1, phase := (gw.begin s.state line).2
        events := if (gw.begin s.state line).2.waiting.isSome then s.events
          else s.events ++ [.line line] }
  | listed (line : InboundLine) (id : JsonRpcId) (lock : RwLock)
      (phase : s.phase = .listing line id) (read : s.lock.read = some lock) :
      StepCase gw s .acquireRead { s with
        lock, phase := .filtering id, events := s.events ++ [.line line] }
  | called (call : NamedCall) (lock : RwLock) (phase : s.phase = .arriving call)
      (read : s.lock.read = some lock) :
      StepCase gw s .acquireRead { s with
        lock, phase := .guarded call, events := s.events ++ [.line call.line] }
  | advanced (state : DispatchState) (phase : LinePhase) (effects : List Effect)
      (advance : gw.advance s.state s.phase = some (state, phase, effects)) :
      StepCase gw s .advance { s with
        state, phase
        lock := if s.phase.holdsGuard && !phase.holdsGuard then s.lock.dropRead else s.lock
        emitted := s.emitted ++ effects }
  | signalled (hotConfig : HotConfig) (handler : s.handler = .waiting) :
      StepCase gw s (.signal hotConfig) { s with handler := .acquiring hotConfig }
  | acquired (hotConfig : HotConfig) (lock : RwLock) (handler : s.handler = .acquiring hotConfig)
      (write : s.lock.write = some lock) :
      StepCase gw s .acquireWrite { s with lock, handler := .replacing hotConfig }
  | replaced (hotConfig : HotConfig) (handler : s.handler = .replacing hotConfig) :
      StepCase gw s .replace { s with
        state := { s.state with hotConfig }, handler := .releasing
        events := s.events ++ [.replaceHotConfig hotConfig] }
  | released (handler : s.handler = .releasing) :
      StepCase gw s .dropWrite { s with handler := .waiting, lock := s.lock.dropWrite }

/-- **Inversion.** Every step is one of the listed ones. -/
theorem step_cases {label : LockLabel} (h : s.step gw label = some t) :
    StepCase gw s label t := by
  cases label with
  | take line =>
    cases hphase : s.phase with
    | receiving =>
      simp only [step, hphase] at h
      obtain rfl := Option.some.inj h
      exact .taken line hphase
    | listing | filtering | arriving | guarded | limiting | admitted | breaking | dispatching
    | calling | emitting => simp [step, hphase] at h
  | acquireRead =>
    cases hphase : s.phase with
    | listing line id =>
      simp only [step, hphase] at h
      obtain ⟨lock, hlock, rfl⟩ := Option.map_eq_some_iff.mp h
      exact .listed line id lock hphase hlock
    | arriving call =>
      simp only [step, hphase] at h
      obtain ⟨lock, hlock, rfl⟩ := Option.map_eq_some_iff.mp h
      exact .called call lock hphase hlock
    | receiving | filtering | guarded | limiting | admitted | breaking | dispatching | calling
    | emitting => simp [step, hphase] at h
  | advance =>
    obtain ⟨⟨state, phase, effects⟩, hadvance, rfl⟩ := Option.map_eq_some_iff.mp h
    exact .advanced state phase effects hadvance
  | signal hotConfig =>
    cases hhandler : s.handler with
    | waiting =>
      simp only [step, hhandler] at h
      obtain rfl := Option.some.inj h
      exact .signalled hotConfig hhandler
    | acquiring | replacing | releasing => simp [step, hhandler] at h
  | acquireWrite =>
    cases hhandler : s.handler with
    | acquiring hotConfig =>
      simp only [step, hhandler] at h
      obtain ⟨lock, hlock, rfl⟩ := Option.map_eq_some_iff.mp h
      exact .acquired hotConfig lock hhandler hlock
    | waiting | replacing | releasing => simp [step, hhandler] at h
  | replace =>
    cases hhandler : s.handler with
    | replacing hotConfig =>
      simp only [step, hhandler] at h
      obtain rfl := Option.some.inj h
      exact .replaced hotConfig hhandler
    | waiting | acquiring | releasing => simp [step, hhandler] at h
  | dropWrite =>
    cases hhandler : s.handler with
    | releasing =>
      simp only [step, hhandler] at h
      obtain rfl := Option.some.inj h
      exact .released hhandler
    | waiting | acquiring | replacing => simp [step, hhandler] at h

/-- What is still to come of the line that is entered in the session. -/
def rest (gw : Gateway) (s : LockedDispatch) : DispatchState × List Effect :=
  if s.phase.waiting.isSome then (s.state, []) else gw.finish s.state s.phase

theorem rest_of_waiting {line : InboundLine} (h : s.phase.waiting = some line) :
    s.rest gw = (s.state, []) := by
  rw [rest, h]
  rfl

theorem rest_of_not_waiting (h : s.phase.waiting = none) :
    s.rest gw = gw.finish s.state s.phase := by
  rw [rest, h]
  rfl

end LockedDispatch

/-- The line an event is. -/
def Event.line? : Event → Option InboundLine
  | .line inbound => some inbound
  | .replaceHotConfig _ => none

/-- The configuration an event puts in place. -/
def Event.hotConfig? : Event → Option HotConfig
  | .line _ => none
  | .replaceHotConfig hotConfig => some hotConfig

/-- The line a step takes up. -/
def LockLabel.line? : LockLabel → Option InboundLine
  | .take line => some line
  | _ => none

/-- The configuration a step was signalled to put in place. -/
def LockLabel.hotConfig? : LockLabel → Option HotConfig
  | .signal hotConfig => some hotConfig
  | _ => none

namespace LockedDispatch

variable {gw : Gateway} {initial : DispatchState} {s t : LockedDispatch} {labels : List LockLabel}

/-- The run so far is a session, up to what is still to come of its last line. The
lines of the session are those taken up, but for one that waits for the guard, and its
reloads are those signalled, but for one that is not yet in place. -/
structure Linear (gw : Gateway) (initial : DispatchState) (labels : List LockLabel)
    (s : LockedDispatch) : Prop where
  state_eq : Runs.after gw.step initial s.events = (s.rest gw).1
  effects_eq : (Runs.outputs gw.step initial s.events).flatten = s.emitted ++ (s.rest gw).2
  waits : gw.Waits s.state s.phase
  lines : s.events.filterMap Event.line? ++ s.phase.waiting.toList =
    labels.filterMap LockLabel.line?
  reloads : s.events.filterMap Event.hotConfig? ++ s.handler.pending.toList =
    labels.filterMap LockLabel.hotConfig?
  readers : s.lock.readers = s.phase.holdsGuard.toNat
  writer : s.lock.writer = s.handler.holdsGuard

theorem linear_start (gw : Gateway) (initial : DispatchState) :
    Linear gw initial [] (start initial) where
  state_eq := rfl
  effects_eq := rfl
  waits := trivial
  lines := rfl
  reloads := rfl
  readers := rfl
  writer := rfl

/-- A line enters the session with all of its processing before it. -/
theorem Linear.enter (h : Linear gw initial labels s) {line : InboundLine} {state : DispatchState}
    {phase : LinePhase} (hidle : s.rest gw = (s.state, []))
    (hfinish : gw.step s.state (.line line) = gw.finish state phase) :
    Runs.after gw.step initial (s.events ++ [.line line]) = (gw.finish state phase).1 ∧
      (Runs.outputs gw.step initial (s.events ++ [.line line])).flatten =
        s.emitted ++ (gw.finish state phase).2 := by
  have hstate : Runs.after gw.step initial s.events = s.state := by rw [h.state_eq, hidle]
  have heffects := h.effects_eq
  rw [hidle, List.append_nil] at heffects
  rw [Runs.after_concat, Runs.outputs_concat, hstate, hfinish, List.flatten_append, heffects]
  simp

/-- The loop takes up a line. -/
theorem Linear.take (h : Linear gw initial labels s) (hphase : s.phase = .receiving)
    (line : InboundLine) :
    Linear gw initial (labels ++ [.take line]) { s with
      state := (gw.begin s.state line).1, phase := (gw.begin s.state line).2
      events := if (gw.begin s.state line).2.waiting.isSome then s.events
        else s.events ++ [.line line] } := by
  have hidle : s.rest gw = (s.state, []) := by
    rw [rest_of_not_waiting (by rw [hphase]; rfl), hphase]
    rfl
  have hlines := h.lines
  rw [hphase] at hlines
  have hreaders := h.readers
  rw [hphase] at hreaders
  obtain ⟨hguard, ⟨hwaiting, hsame, hwaits⟩ | ⟨hwaiting, hfinish⟩⟩ := gw.begin_cases s.state line
  · refine
      { h with
        state_eq := ?_, effects_eq := ?_, waits := by rw [hsame]; exact hwaits, lines := ?_
        reloads := ?_, readers := by rw [hguard]; exact hreaders }
    · rw [rest_of_waiting hwaiting, hwaiting]
      simp only [Option.isSome_some, if_true, hsame]
      rw [h.state_eq, hidle]
    · rw [rest_of_waiting hwaiting, hwaiting]
      simp only [Option.isSome_some, if_true]
      rw [h.effects_eq, hidle]
    · rw [hwaiting, List.filterMap_append, ← hlines]
      simp [LockLabel.line?, LinePhase.waiting]
    · rw [hwaiting, List.filterMap_append, ← h.reloads]
      simp [LockLabel.hotConfig?]
  · obtain ⟨hstate, heffects⟩ := h.enter hidle hfinish
    refine
      { h with
        state_eq := ?_, effects_eq := ?_, waits := Gateway.waits_of_waiting_eq_none hwaiting
        lines := ?_, reloads := ?_, readers := by rw [hguard]; exact hreaders }
    · rw [rest_of_not_waiting hwaiting, hwaiting]
      exact hstate
    · rw [rest_of_not_waiting hwaiting, hwaiting]
      exact heffects
    · rw [hwaiting, List.filterMap_append, ← hlines]
      simp [LockLabel.line?, Event.line?, LinePhase.waiting]
    · rw [hwaiting, List.filterMap_append, ← h.reloads]
      simp [List.filterMap_cons, LockLabel.hotConfig?, Event.hotConfig?]

/-- A line that has waited gets the guard. -/
theorem Linear.acquireRead (h : Linear gw initial labels s) {line : InboundLine}
    {phase : LinePhase} {lock : RwLock} (hwaiting : s.phase.waiting = some line)
    (hguard : s.phase.holdsGuard = false) (hlock : s.lock.read = some lock)
    (hholds : phase.holdsGuard = true) (hnext : phase.waiting = none)
    (hsame : gw.finish s.state phase = gw.finish s.state s.phase) :
    Linear gw initial (labels ++ [.acquireRead])
      { s with lock, phase, events := s.events ++ [.line line] } := by
  have hfinish : gw.step s.state (.line line) = gw.finish s.state phase :=
    (h.waits.step_eq hwaiting).trans hsame.symm
  obtain ⟨hstate, heffects⟩ := h.enter (rest_of_waiting hwaiting) hfinish
  obtain ⟨hfree, hwriter, hreaders⟩ := RwLock.read_cases hlock
  have hlines := h.lines
  rw [hwaiting] at hlines
  refine
    { h with
      state_eq := ?_, effects_eq := ?_, waits := Gateway.waits_of_waiting_eq_none hnext
      lines := ?_, reloads := ?_, readers := ?_
      writer := hwriter.trans (hfree.symm.trans h.writer) }
  · rw [rest_of_not_waiting hnext]
    exact hstate
  · rw [rest_of_not_waiting hnext]
    exact heffects
  · rw [hnext, List.filterMap_append, List.filterMap_append, ← hlines]
    simp [LockLabel.line?, Event.line?]
  · rw [List.filterMap_append, List.filterMap_append, ← h.reloads]
    simp [List.filterMap_cons, LockLabel.hotConfig?, Event.hotConfig?]
  · rw [hreaders, h.readers, hguard, hholds]
    rfl

/-- The loop goes on with its line. -/
theorem Linear.advance (h : Linear gw initial labels s) {state : DispatchState}
    {phase : LinePhase} {effects : List Effect}
    (hadvance : gw.advance s.state s.phase = some (state, phase, effects)) :
    Linear gw initial (labels ++ [.advance]) { s with
      state, phase
      lock := if s.phase.holdsGuard && !phase.holdsGuard then s.lock.dropRead else s.lock
      emitted := s.emitted ++ effects } := by
  obtain ⟨hwaiting, hnext, hguard⟩ := Gateway.guard_of_advance hadvance
  have hcompleted : gw.finish s.state s.phase =
      ((gw.finish state phase).1, effects ++ (gw.finish state phase).2) :=
    (Gateway.completed_advance hadvance).symm
  have hlines := h.lines
  rw [hwaiting] at hlines
  refine
    { h with
      state_eq := ?_, effects_eq := ?_, waits := Gateway.waits_of_waiting_eq_none hnext
      lines := ?_, reloads := ?_, readers := ?_, writer := ?_ }
  · rw [rest_of_not_waiting hnext, h.state_eq, rest_of_not_waiting hwaiting, hcompleted]
  · rw [rest_of_not_waiting hnext, h.effects_eq, rest_of_not_waiting hwaiting, hcompleted,
      List.append_assoc]
  · rw [hnext, List.filterMap_append, ← hlines]
    simp [LockLabel.line?]
  · rw [List.filterMap_append, ← h.reloads]
    simp [LockLabel.hotConfig?]
  · have hreaders := h.readers
    cases hholds : s.phase.holdsGuard with
    | false =>
      rw [hholds] at hreaders
      rw [hguard hholds]
      exact hreaders
    | true =>
      rw [hholds] at hreaders
      cases hkeeps : phase.holdsGuard with
      | true => exact hreaders
      | false =>
        simp only [Bool.not_false, Bool.and_self, if_true, RwLock.dropRead, hreaders]
        rfl
  · split_ifs <;> exact h.writer

/-- A new configuration is put in place. Nobody reads it then. -/
theorem Linear.replace (h : Linear gw initial labels s) {hotConfig : HotConfig}
    (hhandler : s.handler = .replacing hotConfig) :
    Linear gw initial (labels ++ [.replace]) { s with
      state := { s.state with hotConfig }, handler := .releasing
      events := s.events ++ [.replaceHotConfig hotConfig] } := by
  have hwriter : s.lock.writer = true := by
    rw [h.writer, hhandler]
    rfl
  have hguard : s.phase.holdsGuard = false := by
    have hreaders := h.readers
    rw [s.lock.exclusive hwriter] at hreaders
    cases hholds : s.phase.holdsGuard with
    | false => rfl
    | true => simp [hholds] at hreaders
  have hrest : ({ s with
      state := { s.state with hotConfig }, handler := .releasing
      events := s.events ++ [.replaceHotConfig hotConfig] } : LockedDispatch).rest gw =
        ({ (s.rest gw).1 with hotConfig }, (s.rest gw).2) := by
    unfold rest
    cases hwaiting : s.phase.waiting with
    | some line => rfl
    | none => exact Gateway.finish_hotConfig hguard hwaiting s.state hotConfig
  have hreloads := h.reloads
  rw [hhandler] at hreloads
  refine
    { h with
      state_eq := ?_, effects_eq := ?_, waits := h.waits.hotConfig hotConfig, lines := ?_
      reloads := ?_, writer := hwriter }
  · rw [hrest, Runs.after_concat, h.state_eq]
    rfl
  · rw [hrest, Runs.outputs_concat, List.flatten_append, h.effects_eq]
    simp [Gateway.step]
  · rw [List.filterMap_append, List.filterMap_append, ← h.lines]
    simp [List.filterMap_cons, LockLabel.line?, Event.line?]
  · rw [List.filterMap_append, List.filterMap_append, ← hreloads]
    simp [LockLabel.hotConfig?, Event.hotConfig?, ReloadTask.pending]

/-- A step that only the handler makes, and that leaves the session as it is. -/
theorem Linear.of_handler (h : Linear gw initial labels s) {lock : RwLock} {handler : ReloadTask}
    {label : LockLabel} (hline : label.line? = none)
    (hreloads : handler.pending.toList = s.handler.pending.toList ++ label.hotConfig?.toList)
    (hreaders : lock.readers = s.lock.readers) (hwriter : lock.writer = handler.holdsGuard) :
    Linear gw initial (labels ++ [label]) { s with lock, handler } := by
  refine
    { h with
      lines := ?_, reloads := ?_, readers := hreaders.trans h.readers, writer := hwriter }
  · rw [List.filterMap_append, ← h.lines]
    simp [hline]
  · rw [List.filterMap_append, ← h.reloads, hreloads]
    cases hlabel : label.hotConfig? <;> simp [hlabel]

/-- Every step extends the session. -/
theorem Linear.step (h : Linear gw initial labels s) {label : LockLabel}
    (hcase : StepCase gw s label t) : Linear gw initial (labels ++ [label]) t := by
  cases hcase with
  | taken line phase => exact h.take phase line
  | listed line id lock phase read =>
    exact h.acquireRead (by rw [phase]; rfl) (by rw [phase]; rfl) read rfl rfl (by rw [phase]; rfl)
  | called call lock phase read =>
    exact h.acquireRead (by rw [phase]; rfl) (by rw [phase]; rfl) read rfl rfl (by rw [phase]; rfl)
  | advanced state phase effects advance => exact h.advance advance
  | replaced hotConfig handler => exact h.replace handler
  | signalled hotConfig handler =>
    exact h.of_handler rfl (by rw [handler]; rfl) rfl (h.writer.trans (by rw [handler]; rfl))
  | acquired hotConfig lock handler write =>
    obtain ⟨hfree, hwriter, hreaders⟩ := RwLock.write_cases write
    exact h.of_handler rfl (by rw [handler]; rfl) (hreaders.trans hfree.symm) hwriter
  | released handler => exact h.of_handler rfl (by rw [handler]; rfl) rfl rfl

theorem linear_of_exec (h : Runs.exec (step gw) (start initial) labels = some s) :
    Linear gw initial labels s :=
  Runs.exec_induction (step gw) (motive := fun labels s => Linear gw initial labels s)
    (linear_start gw initial) (fun _ _ _ _ _ hlinear hstep => hlinear.step (step_cases hstep)) h

/-- What has entered the session stays there, in its place. -/
theorem events_grow (h : Runs.exec (step gw) s labels = some t) : s.events <+: t.events := by
  refine Runs.exec_induction (step gw) (motive := fun _ t => s.events <+: t.events)
    List.prefix_rfl ?_ h
  intro labels label u v _ hgrows hstep
  refine hgrows.trans ?_
  cases step_cases hstep with
  | taken line phase =>
    simp only
    split_ifs
    · exact List.prefix_rfl
    · exact List.prefix_append _ _
  | listed | called | replaced => exact List.prefix_append _ _
  | advanced | signalled | acquired | released => exact List.prefix_rfl

/-- **Linearizability.** However the loop and the handler of SIGHUP are interleaved, what
the loop has done to the outside is what a session does whose reloads fall between its
lines, up to the line in progress, and when it waits for a line its state is the one this
session leads to. The session holds the lines taken up and the reloads signalled, in
their order, except for one line that waits for the guard and one reload that is not in
place; and it only grows at its end, so what is over comes before what has not begun. -/
theorem linearizable (gw : Gateway) (initial : DispatchState) {before after : List LockLabel}
    (hbefore : Runs.exec (step gw) (start initial) before = some s)
    (hafter : Runs.exec (step gw) s after = some t) :
    s.events <+: t.events ∧
      t.emitted <+: (Runs.outputs gw.step initial t.events).flatten ∧
      (t.phase = .receiving → t.state = Runs.after gw.step initial t.events ∧
        t.emitted = (Runs.outputs gw.step initial t.events).flatten) ∧
      t.events.filterMap Event.line? ++ t.phase.waiting.toList =
        (before ++ after).filterMap LockLabel.line? ∧
      t.events.filterMap Event.hotConfig? ++ t.handler.pending.toList =
        (before ++ after).filterMap LockLabel.hotConfig? := by
  have hlinear : Linear gw initial (before ++ after) t := by
    refine linear_of_exec ?_
    rw [Runs.exec_append, hbefore]
    exact hafter
  refine ⟨events_grow hafter, ?_, ?_, hlinear.lines, hlinear.reloads⟩
  · rw [hlinear.effects_eq]
    exact List.prefix_append _ _
  · intro hphase
    have hrest : t.rest gw = (t.state, []) := by
      rw [rest_of_not_waiting (by rw [hphase]; rfl), hphase]
      rfl
    rw [hlinear.state_eq, hlinear.effects_eq, hrest, List.append_nil]
    exact ⟨rfl, rfl⟩

/-- A gateway with one tool, for a call during which the configuration is replaced. -/
def reloadedGateway : Gateway :=
  { Gateway.bare (.ofValues (handshakeMessages ++ [queryMessage, resultJson 1])) with
    catalog := ToolCatalog.new.registerBackend "db" [⟨"query", none, [], []⟩]
    backends := AList.singleton "db" (.stdio ⟨"db", 0, 60⟩) }

/-- The steps up to the call of the backend, with a signal before it. -/
def untilCall : List LockLabel :=
  [.take (.message initializeMessage), .advance, .advance, .take (.message initializedMessage),
    .advance, .take (.answered queryMessage (resultJson 1)), .acquireRead, .advance,
    .signal ⟨{ disabledTools := ["query"] }, .new {}⟩, .advance, .advance, .advance, .advance]

/-- The steps of the handler, and then what is left of the call. -/
def duringCall : List LockLabel :=
  [.acquireWrite, .replace, .dropWrite, .advance, .advance, .advance]

/-- The tool is disabled while it is being called. The session has the call before the
reload, although the answer comes after it. -/
theorem linearizable_during_call :
    ∃ s t, Runs.exec (step reloadedGateway) (start (Gateway.start ⟨{}, .new {}⟩ .new ∅)) untilCall =
        some s ∧ Runs.exec (step reloadedGateway) s duringCall = some t ∧
      (responses s.emitted).length = 1 ∧ (responses t.emitted).length = 2 ∧
      t.events.map (fun event => event.hotConfig?.isSome) = [false, false, false, true] ∧
      t.state = Runs.after reloadedGateway.step (Gateway.start ⟨{}, .new {}⟩ .new ∅) t.events := by
  have hbefore : (Runs.exec (step reloadedGateway) (start (Gateway.start ⟨{}, .new {}⟩ .new ∅))
      untilCall).map (fun s => (responses s.emitted).length) = some 1 := by
    decide +kernel
  obtain ⟨s, hs, hone⟩ := Option.map_eq_some_iff.mp hbefore
  have hafter : ((Runs.exec (step reloadedGateway) (start (Gateway.start ⟨{}, .new {}⟩ .new ∅))
      untilCall).bind fun s => Runs.exec (step reloadedGateway) s duringCall).map
        (fun t => ((responses t.emitted).length, t.events.map fun event => event.hotConfig?.isSome,
          t.phase matches .receiving)) = some (2, [false, false, false, true], true) := by
    decide +kernel
  rw [hs, Option.bind_some] at hafter
  obtain ⟨t, ht, heq⟩ := Option.map_eq_some_iff.mp hafter
  obtain ⟨htwo, heq⟩ := Prod.mk.inj heq
  obtain ⟨hevents, hreceiving⟩ := Prod.mk.inj heq
  have hphase : t.phase = .receiving := by
    cases hcase : t.phase <;> simp [hcase] at hreceiving ⊢
  have hstate := ((linearizable reloadedGateway (Gateway.start ⟨{}, .new {}⟩ .new ∅) hs
    ht).2.2.1 hphase).1
  exact ⟨s, t, hs, ht, hone, htwo, hevents, hstate⟩

end LockedDispatch

end SentinelGateway
