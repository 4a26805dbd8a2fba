import SentinelGateway.Gateway.Outcomes
import SentinelGateway.Library.Runs

/-!
# Isolation of failing backends

Two sessions read the same lines at the same times, and only the calls to one
backend turn out differently. The sessions then differ in the breaker of this
backend and in the gateway identifiers, and nobody else gets to see either: an
identifier is mapped back before the answer leaves, whatever its value is.
-/

namespace SentinelGateway.Gateway

variable {gw : Gateway} {culprit : String} {st st' : DispatchState} {line line' : InboundLine}
  {id : JsonRpcId} {name : String} {params : Option Json}

/-- The event is a line that calls a tool of the backend. -/
def RoutedTo (gw : Gateway) (backendName : String) (event : Event) : Prop :=
  ∃ line request name, event = .line line ∧ gw.parseRequest line = .ok request ∧
    request.method = "tools/call" ∧ toolName request.params = some name ∧
    gw.catalog.route name = some backendName

/-- Two lines with the same text and the same clock readings. -/
structure SameReading (line line' : InboundLine) : Prop where
  text_eq : line.text = line'.text
  checkedAt_eq : line.checkedAt = line'.checkedAt
  allowedAt_eq : line.allowedAt = line'.allowedAt
  recordedAt_eq : line.recordedAt = line'.recordedAt

/-- Two events that are the same to everybody but the backend: equal replacements
of the hot configuration, or lines that read the same and whose calls turn out the
same unless they are calls to the backend. -/
inductive SameInput (gw : Gateway) (culprit : String) : Event → Event → Prop
  | replaced (hotConfig : HotConfig) :
      SameInput gw culprit (.replaceHotConfig hotConfig) (.replaceHotConfig hotConfig)
  | line {line line' : InboundLine} (reading : SameReading line line')
      (outcome : ¬RoutedTo gw culprit (.line line) → line.outcome = line'.outcome) :
      SameInput gw culprit (.line line) (.line line')

/-- The states differ at most in the identifiers and in the backend's breaker. -/
structure Agree (culprit : String) (st st' : DispatchState) : Prop where
  state_eq : st.state = st'.state
  hotConfig_eq : st.hotConfig = st'.hotConfig
  breaker_eq : ∀ backendName, backendName ≠ culprit →
    st.circuitBreakers.lookup backendName = st'.circuitBreakers.lookup backendName

/-- The bodies handed to backends other than the given one. -/
def sentToOthers (culprit : String) (effects : List Effect) : List (String × Backend × Json) :=
  (sends effects).filter fun send => send.1 ≠ culprit

/-- Two bodies handed to the same backend that are equal up to the gateway id. -/
structure SameSend (send send' : String × Backend × Json) : Prop where
  name_eq : send.1 = send'.1
  backend_eq : send.2.1 = send'.2.1
  body_eq : ∃ gatewayId gatewayId' params, send.2.2 = outboundRequest gatewayId params ∧
    send'.2.2 = outboundRequest gatewayId' params

theorem Agree.refl (culprit : String) (st : DispatchState) : Agree culprit st st :=
  ⟨rfl, rfl, fun _ _ => rfl⟩

theorem Agree.symm (h : Agree culprit st st') : Agree culprit st' st :=
  ⟨h.state_eq.symm, h.hotConfig_eq.symm, fun b hne => (h.breaker_eq b hne).symm⟩

theorem Agree.trans {st'' : DispatchState} (h : Agree culprit st st')
    (h' : Agree culprit st' st'') : Agree culprit st st'' :=
  ⟨h.state_eq.trans h'.state_eq, h.hotConfig_eq.trans h'.hotConfig_eq,
    fun b hne => (h.breaker_eq b hne).trans (h'.breaker_eq b hne)⟩

/-- The rate limiter does not look at breakers. -/
theorem Agree.afterCheck (h : Agree culprit st st') (hread : SameReading line line')
    (name : String) :
    Agree culprit (gw.afterCheck st line name) (gw.afterCheck st' line' name) := by
  refine ⟨h.state_eq, ?_, h.breaker_eq⟩
  simp only [Gateway.afterCheck, h.hotConfig_eq, hread.checkedAt_eq]

/-- The circuit gate asks one breaker, so it decides alike unless it asks that of
the backend, and it changes no other one. -/
theorem Agree.circuitGate (h : Agree culprit st st') (name : String) (now : Instant) :
    Agree culprit (gw.circuitGate st name now).1 (gw.circuitGate st' name now).1 ∧
      (gw.catalog.route name ≠ some culprit →
        (gw.circuitGate st name now).2 = (gw.circuitGate st' name now).2) := by
  obtain ⟨hshape, hlookup, -⟩ := circuitGate_spec gw st name now
  obtain ⟨hshape', hlookup', -⟩ := circuitGate_spec gw st' name now
  refine ⟨⟨?_, ?_, ?_⟩, ?_⟩
  · rw [hshape, hshape']
    exact h.state_eq
  · rw [hshape, hshape']
    exact h.hotConfig_eq
  · intro backendName hne
    rw [hlookup, hlookup', h.breaker_eq backendName hne]
  · intro hroute
    unfold Gateway.circuitGate
    cases hrouted : gw.catalog.route name with
    | none => rfl
    | some backendName =>
      have hne : backendName ≠ culprit := fun heq => hroute (by rw [hrouted, heq])
      simp only [h.breaker_eq backendName hne]
      cases st'.circuitBreakers.lookup backendName with
      | none => rfl
      | some cb => rfl

/-- So do all the gates together. -/
theorem Agree.passGates (h : Agree culprit st st') (hread : SameReading line line')
    (name : String) (params : Option Json) :
    Agree culprit (gw.passGates st line name params).1 (gw.passGates st' line' name params).1 ∧
      (gw.catalog.route name ≠ some culprit →
        (gw.passGates st line name params).2 = (gw.passGates st' line' name params).2) := by
  have hrate : (gw.rateLimitGate st name line.checkedAt).2 =
      (gw.rateLimitGate st' name line'.checkedAt).2 := by
    unfold Gateway.rateLimitGate
    rw [h.hotConfig_eq, hread.checkedAt_eq]
  have hcounted : (gw.rateLimitGate st name line.checkedAt).1 = gw.afterCheck st line name :=
    rateLimitGate_state gw st name line.checkedAt
  have hcounted' : (gw.rateLimitGate st' name line'.checkedAt).1 = gw.afterCheck st' line' name :=
    rateLimitGate_state gw st' name line'.checkedAt
  unfold Gateway.passGates
  rw [h.hotConfig_eq, ← hread.allowedAt_eq]
  cases gw.killSwitchGate st'.hotConfig.killSwitch name with
  | some rejection => exact ⟨h, fun _ => rfl⟩
  | none =>
    rw [← Prod.eta (gw.rateLimitGate st name line.checkedAt),
      ← Prod.eta (gw.rateLimitGate st' name line'.checkedAt), hrate, hcounted, hcounted']
    cases (gw.rateLimitGate st' name line'.checkedAt).2 with
    | some rejection => exact ⟨h.afterCheck hread name, fun _ => rfl⟩
    | none =>
      cases gw.rbacGate name with
      | some rejection => exact ⟨h.afterCheck hread name, fun _ => rfl⟩
      | none =>
        cases gw.schemaGate name params with
        | some rejection => exact ⟨h.afterCheck hread name, fun _ => rfl⟩
        | none => exact (h.afterCheck hread name).circuitGate name line.allowedAt

/-- Recording a call keeps the agreement if the call is to the backend, or if it
turns out the same. -/
theorem Agree.afterCall (h : Agree culprit st st') (hread : SameReading line line')
    {called : String} (hout : called ≠ culprit → line.outcome = line'.outcome) :
    Agree culprit (afterCall st line id called) (afterCall st' line' id called) := by
  refine ⟨h.state_eq, h.hotConfig_eq, ?_⟩
  intro backendName hne
  simp only [Gateway.afterCall, lookup_recordOutcome, h.breaker_eq backendName hne]
  by_cases heq : called = backendName
  · subst heq
    have hrecord : line.record = line'.record := by
      simp only [InboundLine.record, hout hne, hread.recordedAt_eq]
    rw [hrecord]
  · rw [if_neg heq, if_neg heq]

/-- What a call to the backend records is invisible to the others. -/
theorem agree_afterCall (st : DispatchState) (line : InboundLine) (id : JsonRpcId)
    (culprit : String) : Agree culprit st (Gateway.afterCall st line id culprit) := by
  refine ⟨rfl, rfl, ?_⟩
  intro backendName hne
  simp only [Gateway.afterCall, lookup_recordOutcome, if_neg (Ne.symm hne)]

/-- What a line leads to in two sessions that agree: they still agree, other
backends are sent the same, and unless the line is for the backend, so is the
client. -/
structure SameResult (culprit : String) (routed : Prop)
    (result result' : DispatchState × List Effect) : Prop where
  agree : Agree culprit result.1 result'.1
  responses_eq : ¬routed → responses result.2 = responses result'.2
  sends_eq : List.Forall₂ SameSend (sentToOthers culprit result.2) (sentToOthers culprit result'.2)

/-- Equal effects without a body. -/
theorem SameResult.of_effects {routed : Prop} (effects : List Effect)
    (hsilent : sends effects = []) (h : Agree culprit st st') :
    SameResult culprit routed (st, effects) (st', effects) := by
  refine ⟨h, fun _ => rfl, ?_⟩
  simp [sentToOthers, hsilent]

theorem sentToOthers_reject (rejection : Rejection) :
    sentToOthers culprit (gw.reject line id name params rejection) = [] := by
  simp [sentToOthers, sends_reject]

/-- A call to the backend leaves, of what the others see, what the gates leave. -/
theorem toolsCall_of_culprit (st : DispatchState) (line : InboundLine) (id : JsonRpcId)
    (hname : toolName params = some name) (hroute : gw.catalog.route name = some culprit) :
    Agree culprit (gw.passGates st line name params).1 (gw.toolsCall st line id params).1 ∧
      sentToOthers culprit (gw.toolsCall st line id params).2 = [] := by
  have hgated := gated_of_named gw st line hname
  rcases toolsCall_eq gw st line id params with ⟨called, rejection, -, -, heq⟩ | ⟨-, heq⟩
  · rw [heq, hgated]
    exact ⟨Agree.refl _ _, sentToOthers_reject rejection⟩
  · obtain ⟨hstate, -, hsends⟩ := backendDispatch_spec gw (gw.gated st line params) line id params
    rw [heq, hstate, sentToOthers, hsends, hgated]
    cases hbackend : gw.backends.lookup culprit with
    | some backend =>
      rw [handleToolsCall_of_served hname hroute hbackend]
      refine ⟨agree_afterCall _ line id culprit, ?_⟩
      simp [sends, Effect.send?]
    | none =>
      rw [handleToolsCall_of_unserved]
      · exact ⟨Agree.refl _ _, rfl⟩
      · intro called routed hcalled hrouted
        obtain rfl : name = called := by simpa [hname] using hcalled
        obtain rfl : culprit = routed := by simpa [hroute] using hrouted
        exact hbackend

/-- `handle_tools_call` on a call that is not for the backend. -/
theorem Agree.backendDispatch (h : Agree culprit st st') (hread : SameReading line line')
    (hout : line.outcome = line'.outcome)
    (hother : ∀ name, toolName params = some name → gw.catalog.route name ≠ some culprit) :
    SameResult culprit False (gw.backendDispatch st line id params)
      (gw.backendDispatch st' line' id params) := by
  obtain ⟨hstate, hresponses, hsends⟩ := backendDispatch_spec gw st line id params
  obtain ⟨hstate', hresponses', hsends'⟩ := backendDispatch_spec gw st' line' id params
  have hsettled : gw.settledResponse line id = gw.settledResponse line' id := by
    simp only [settledResponse, hout]
  have hcall : gw.callResponse line id params = gw.callResponse line' id params := by
    simp only [callResponse, hsettled]
  by_cases hserved : ∃ name backendName backend, toolName params = some name ∧
      gw.catalog.route name = some backendName ∧ gw.backends.lookup backendName = some backend
  · obtain ⟨name, backendName, backend, hname, hroute, hbackend⟩ := hserved
    rw [handleToolsCall_of_served hname hroute hbackend] at hstate hresponses hsends
    rw [handleToolsCall_of_served hname hroute hbackend] at hstate' hresponses' hsends'
    have hne : backendName ≠ culprit := fun heq => hother name hname (by rw [hroute, heq])
    refine ⟨?_, ?_, ?_⟩
    · rw [hstate, hstate']
      exact h.afterCall hread fun _ => hout
    · intro _
      rw [hresponses, hresponses', hsettled]
      rfl
    · rw [sentToOthers, sentToOthers, hsends, hsends']
      have hbody : SameSend
          (backendName, backend, outboundRequest st.idRemapper.counter params)
          (backendName, backend, outboundRequest st'.idRemapper.counter params) :=
        ⟨rfl, rfl, _, _, params, rfl, rfl⟩
      simpa [sends, Effect.send?, hne] using hbody
  · have hmissing : ∀ name backendName, toolName params = some name →
        gw.catalog.route name = some backendName → gw.backends.lookup backendName = none := by
      intro name backendName hname hroute
      cases hbackend : gw.backends.lookup backendName with
      | none => rfl
      | some backend => exact absurd ⟨name, backendName, backend, hname, hroute, hbackend⟩ hserved
    rw [handleToolsCall_of_unserved st line id hmissing] at hstate hresponses hsends
    rw [handleToolsCall_of_unserved st' line' id hmissing] at hstate' hresponses' hsends'
    refine ⟨?_, ?_, ?_⟩
    · rw [hstate, hstate']
      exact h
    · intro _
      rw [hresponses, hresponses', hcall]
    · rw [sentToOthers, sentToOthers, hsends, hsends']
      exact List.Forall₂.nil

/-- A call that is not for the backend. -/
theorem Agree.toolsCall (h : Agree culprit st st') (hread : SameReading line line')
    (hout : line.outcome = line'.outcome)
    (hother : ∀ name, toolName params = some name → gw.catalog.route name ≠ some culprit) :
    SameResult culprit False (gw.toolsCall st line id params)
      (gw.toolsCall st' line' id params) := by
  cases hname : toolName params with
  | none =>
    simp only [Gateway.toolsCall, hname]
    exact h.backendDispatch hread hout hother
  | some name =>
    obtain ⟨hpass, hanswer⟩ := Agree.passGates h hread name params
    have hsame := hanswer (hother name hname)
    simp only [Gateway.toolsCall, hname]
    generalize gw.passGates st line name params = result at hpass hsame ⊢
    generalize gw.passGates st' line' name params = result' at hpass hsame ⊢
    obtain ⟨passed, answer⟩ := result
    obtain ⟨passed', answer'⟩ := result'
    obtain rfl : answer = answer' := hsame
    cases answer with
    | none => exact hpass.backendDispatch hread hout hother
    | some rejection =>
      refine ⟨hpass, ?_, ?_⟩
      · intro _
        rw [responses_reject, responses_reject]
      · rw [sentToOthers_reject, sentToOthers_reject]
        exact List.Forall₂.nil

/-- A call in two sessions that agree, be it for the backend or not. -/
theorem Agree.toolsCall_sameResult {request : JsonRpcRequest} (h : Agree culprit st st')
    (hread : SameReading line line') (hparsed : gw.parseRequest line = .ok request)
    (hcall : request.method = "tools/call")
    (hout : ¬RoutedTo gw culprit (.line line) → line.outcome = line'.outcome) :
    SameResult culprit (RoutedTo gw culprit (.line line))
      (gw.toolsCall st line (request.id.getD .null) request.params)
      (gw.toolsCall st' line' (request.id.getD .null) request.params) := by
  by_cases hrouted : ∃ name, toolName request.params = some name ∧
      gw.catalog.route name = some culprit
  · obtain ⟨name, hname, hroute⟩ := hrouted
    have hevent : RoutedTo gw culprit (.line line) :=
      ⟨line, request, name, rfl, hparsed, hcall, hname, hroute⟩
    obtain ⟨hleft, hsilent⟩ := toolsCall_of_culprit st line (request.id.getD .null) hname hroute
    obtain ⟨hright, hsilent'⟩ :=
      toolsCall_of_culprit st' line' (request.id.getD .null) hname hroute
    have hgates : Agree culprit (gw.passGates st line name request.params).1
        (gw.passGates st' line' name request.params).1 :=
      (h.passGates hread name request.params).1
    refine ⟨hleft.symm.trans (hgates.trans hright), fun hnot => absurd hevent hnot, ?_⟩
    rw [hsilent, hsilent']
    exact List.Forall₂.nil
  · have hother : ∀ name, toolName request.params = some name →
        gw.catalog.route name ≠ some culprit :=
      fun name hname hroute => hrouted ⟨name, hname, hroute⟩
    have hnot : ¬RoutedTo gw culprit (.line line) := by
      rintro ⟨_, parsed, name, ⟨rfl⟩, hparsed', -, hname, hroute⟩
      obtain rfl : request = parsed := Except.ok.inj (hparsed.symm.trans hparsed')
      exact hother name hname hroute
    have hresult : SameResult culprit False
        (gw.toolsCall st line (request.id.getD .null) request.params)
        (gw.toolsCall st' line' (request.id.getD .null) request.params) :=
      h.toolsCall hread (hout hnot) hother
    exact ⟨hresult.agree, fun _ => hresult.responses_eq not_false, hresult.sends_eq⟩

/-- An accepted request in two sessions that agree. -/
theorem dispatch_sameResult {request : JsonRpcRequest} (h : Agree culprit st st')
    (hread : SameReading line line') (hparsed : gw.parseRequest line = .ok request)
    (hout : ¬RoutedTo gw culprit (.line line) → line.outcome = line'.outcome) :
    SameResult culprit (RoutedTo gw culprit (.line line)) (gw.dispatch st line request)
      (gw.dispatch st' line' request) := by
  unfold dispatch
  by_cases hinit : request.method = "initialize"
  · simp only [if_pos hinit, initializeArm]
    exact .of_effects _ rfl ⟨rfl, h.hotConfig_eq, h.breaker_eq⟩
  rw [if_neg hinit, if_neg hinit]
  by_cases hinitialized : request.method = "notifications/initialized"
  · rw [if_pos hinitialized, if_pos hinitialized]
    exact .of_effects [] rfl ⟨rfl, h.hotConfig_eq, h.breaker_eq⟩
  rw [if_neg hinitialized, if_neg hinitialized]
  by_cases hlist : request.method = "tools/list"
  · rw [if_pos hlist, if_pos hlist, h.hotConfig_eq]
    exact .of_effects _ (sends_answer request _) h
  rw [if_neg hlist, if_neg hlist]
  by_cases hcall : request.method = "tools/call"
  · rw [if_pos hcall, if_pos hcall]
    by_cases hnotification : request.isNotification = true
    · rw [if_pos hnotification, if_pos hnotification]
      exact .of_effects [] rfl h
    rw [if_neg hnotification, if_neg hnotification]
    exact h.toolsCall_sameResult hread hparsed hcall hout
  rw [if_neg hcall, if_neg hcall]
  by_cases hping : request.method = "ping"
  · rw [if_pos hping, if_pos hping]
    exact .of_effects _ (sends_answer request _) h
  · rw [if_neg hping, if_neg hping]
    exact .of_effects _ (sends_answer request _) h

/-- One event in two sessions that agree. -/
theorem step_sameResult {event event' : Event} (h : Agree culprit st st')
    (hinput : SameInput gw culprit event event') :
    SameResult culprit (RoutedTo gw culprit event) (gw.step st event) (gw.step st' event') := by
  cases hinput with
  | replaced hotConfig => exact .of_effects [] rfl ⟨h.state_eq, rfl, h.breaker_eq⟩
  | @line line line' hread hout =>
    have hparse : gw.parseRequest line' = gw.parseRequest line := by
      simp only [parseRequest, hread.text_eq]
    change SameResult _ _ (gw.processLine st line) (gw.processLine st' line')
    unfold processLine
    rw [hparse, ← h.state_eq]
    cases hparsed : gw.parseRequest line with
    | error message => exact .of_effects _ rfl h
    | ok request =>
      by_cases hadmitted : st.state.canAcceptMethod request.method = true
      · simp only [hadmitted, if_true]
        exact dispatch_sameResult h hread hparsed hout
      · simp only [hadmitted, Bool.false_eq_true, if_false]
        exact .of_effects _ (sends_answer request _) h

/-- **Failure isolation.** Two sessions whose inputs differ in nothing but the
outcomes of the calls to one backend give the same responses to all other lines and
send the other backends the same bodies up to the gateway id. They end with the same
hot configuration, all buckets of the rate limiter included, and with the same
breakers of all other backends. -/
theorem isolates_failures (gw : Gateway) (culprit : String) (hotConfig : HotConfig)
    (idRemapper : IdRemapper) (circuitBreakers : Table String CircuitBreaker)
    {events events' : List Event} (h : List.Forall₂ (SameInput gw culprit) events events') :
    let initial := start hotConfig idRemapper circuitBreakers
    List.Forall₂ (fun first second =>
        (¬RoutedTo gw culprit first.1 → responses first.2 = responses second.2) ∧
          List.Forall₂ SameSend (sentToOthers culprit first.2) (sentToOthers culprit second.2))
      (events.zip (Runs.outputs gw.step initial events))
      (events'.zip (Runs.outputs gw.step initial events')) ∧
    (Runs.after gw.step initial events).hotConfig =
      (Runs.after gw.step initial events').hotConfig ∧
    ∀ backendName, backendName ≠ culprit →
      (Runs.after gw.step initial events).circuitBreakers.lookup backendName =
        (Runs.after gw.step initial events').circuitBreakers.lookup backendName := by
  intro initial
  obtain ⟨hagree, houtputs⟩ := Runs.coupling gw.step (R := Agree culprit)
    (E := SameInput gw culprit) (Q := fun event effects effects' =>
      (¬RoutedTo gw culprit event → responses effects = responses effects') ∧
        List.Forall₂ SameSend (sentToOthers culprit effects) (sentToOthers culprit effects'))
    (fun _ _ _ _ hrel hinput =>
      have hresult := step_sameResult hrel hinput
      ⟨hresult.agree, hresult.responses_eq, hresult.sends_eq⟩)
    (Agree.refl culprit initial) h
  exact ⟨houtputs, hagree.hotConfig_eq, hagree.breaker_eq⟩

/-- Two sessions with two calls to `alpha` and then one to `beta`. In the first session
the first call fails and opens the circuit, so that the second one is not even sent;
in the other session both succeed. The call to `beta` does not notice. -/
theorem isolates_failures_open_circuit :
    let messages := handshakeMessages ++ [queryMessage, callJson 8 "list", resultJson 1]
    let gw := { bare (.ofValues messages) with
      catalog := ToolCatalog.new.registerAll
        [("alpha", [⟨"query", none, [], []⟩]), ("beta", [⟨"list", none, [], []⟩])]
      backends := (AList.singleton "alpha" (Backend.stdio ⟨"alpha", 0, 60⟩)).insert "beta"
        (.stdio ⟨"beta", 1, 60⟩) }
    let breakers := (AList.singleton "alpha" (CircuitBreaker.new 1 30)).insert "beta"
      (CircuitBreaker.new 1 30)
    let initial := start ⟨{}, .new {}⟩ .new breakers
    let session (outcome : Except BackendError String) : List Event :=
      handshake ++ [.line { InboundLine.message queryMessage with outcome },
        .line { InboundLine.message queryMessage with outcome },
        .line (.answered (callJson 8 "list") (resultJson 1))]
    let failing := session (.error (.processExited "response channel dropped"))
    let working := session (.ok (resultJson 1).text)
    ((Runs.outputs gw.step initial failing).flatMap responses).map JsonRpcResponse.id =
        [.number 1, .number 7, .number 7, .number 8] ∧
      ((Runs.outputs gw.step initial failing).flatMap sends).length = 2 ∧
      ((Runs.outputs gw.step initial working).flatMap sends).length = 3 ∧
      (Runs.after gw.step initial failing).circuitBreakers.lookup "beta" =
        (Runs.after gw.step initial working).circuitBreakers.lookup "beta" := by
  intro messages gw breakers initial session failing working
  have hrouted (outcome : Except BackendError String) :
      RoutedTo gw "alpha" (.line { InboundLine.message queryMessage with outcome }) :=
    ⟨_, _, "query", rfl, rfl, rfl, rfl, rfl⟩
  have hinput : List.Forall₂ (SameInput gw "alpha") failing working :=
    .cons (.line ⟨rfl, rfl, rfl, rfl⟩ fun _ => rfl)
      (.cons (.line ⟨rfl, rfl, rfl, rfl⟩ fun _ => rfl)
        (.cons (.line ⟨rfl, rfl, rfl, rfl⟩ fun hnot => absurd (hrouted _) hnot)
          (.cons (.line ⟨rfl, rfl, rfl, rfl⟩ fun hnot => absurd (hrouted _) hnot)
            (.cons (.line ⟨rfl, rfl, rfl, rfl⟩ fun _ => rfl) .nil))))
  have hisolated := isolates_failures gw "alpha" ⟨{}, .new {}⟩ .new breakers hinput
  exact ⟨by decide +kernel, by decide +kernel, by decide +kernel,
    hisolated.2.2 "beta" (by decide)⟩

end SentinelGateway.Gateway
