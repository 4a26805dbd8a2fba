import SentinelGateway.Gateway.Dispatch

/-!
# What one line does

One lemma for each piece of the dispatch loop: which calls the gates let
through, what a call of the backend leaves behind, and which effects and state
changes a line can cause. Everything about whole sessions is derived from these.
-/

namespace SentinelGateway

/-- The response an effect hands to the output channel. -/
def Effect.response? : Effect → Option JsonRpcResponse
  | .respond response => some response
  | _ => none

/-- The body an effect hands to `Backend::send`, with the backend. -/
def Effect.send? : Effect → Option (String × Backend × Json)
  | .send backendName backend body => some (backendName, backend, body)
  | _ => none

/-- The responses among the effects, in order. -/
def responses (effects : List Effect) : List JsonRpcResponse :=
  effects.filterMap Effect.response?

/-- The calls of `Backend::send` among the effects, in order. -/
def sends (effects : List Effect) : List (String × Backend × Json) :=
  effects.filterMap Effect.send?

@[simp] theorem responses_append (xs ys : List Effect) :
    responses (xs ++ ys) = responses xs ++ responses ys := List.filterMap_append

@[simp] theorem sends_append (xs ys : List Effect) :
    sends (xs ++ ys) = sends xs ++ sends ys := List.filterMap_append

@[simp] theorem responses_nil : responses [] = [] := rfl

@[simp] theorem sends_nil : sends [] = [] := rfl

@[simp] theorem responses_respond (response : JsonRpcResponse) :
    responses [.respond response] = [response] := rfl

@[simp] theorem sends_respond (response : JsonRpcResponse) :
    sends [.respond response] = [] := rfl

@[simp] theorem responses_audit (entry : AuditEntry) : responses [.audit entry] = [] := rfl

@[simp] theorem sends_audit (entry : AuditEntry) : sends [.audit entry] = [] := rfl

@[simp] theorem responses_recordRequest (tool : String) (status : CallStatus)
    (seconds : Duration) : responses [.recordRequest tool status seconds] = [] := rfl

@[simp] theorem sends_recordRequest (tool : String) (status : CallStatus)
    (seconds : Duration) : sends [.recordRequest tool status seconds] = [] := rfl

@[simp] theorem Rejection.response_id (rejection : Rejection) (id : JsonRpcId) :
    (rejection.response id).id = id := by
  unfold Rejection.response
  cases rejection.data <;> rfl

/-- The operation by which a breaker records the outcome of a line's backend call. -/
def InboundLine.record (line : InboundLine) : CircuitBreaker.Operation :=
  match line.outcome with
  | .ok _ => .recordSuccess
  | .error _ => .recordFailure line.recordedAt

/-- The code of the gates that reject calls under a status. -/
def CallStatus.code : CallStatus → Option ℤ
  | .killed => some killSwitchErrorCode
  | .rateLimited => some rateLimitErrorCode
  | .denied => some authzErrorCode
  | .invalidArgs => some invalidParamsCode
  | .circuitOpen => some circuitOpenErrorCode
  | .error => none
  | .success => none

/-- The rejection is one of the gate that rejects under the status, and it names
the backend the tool routes to. -/
structure Rejection.Reports (rejection : Rejection) (gw : Gateway) (name : String)
    (status : CallStatus) : Prop where
  status_eq : rejection.status = status
  code_eq : status.code = some rejection.code
  backend_eq : rejection.backendName = gw.auditedBackend name

theorem Rejection.Reports.code_ne {rejection : Rejection} {gw : Gateway} {name : String}
    {status : CallStatus} (h : rejection.Reports gw name status) {code : ℤ}
    (hne : status.code ≠ some code) : rejection.code ≠ code := by
  rintro rfl
  exact hne h.code_eq

namespace Gateway

variable {gw : Gateway} {st : DispatchState} {line : InboundLine} {id : JsonRpcId}
  {name : String} {params : Option Json}

/-- The call passes kill switch, rate limit, permissions and schema, all under
the hot configuration of the state. -/
structure PassesPolicy (gw : Gateway) (st : DispatchState) (line : InboundLine) (name : String)
    (params : Option Json) : Prop where
  tool_enabled : name ∉ st.hotConfig.killSwitch.disabledTools
  backend_enabled : ∀ backendName, gw.catalog.route name = some backendName →
    backendName ∉ st.hotConfig.killSwitch.disabledBackends
  rate_ok : (st.hotConfig.rateLimiter.check gw.identity.subject name line.checkedAt).2 = .ok ()
  role_ok : isToolAllowed gw.identity.role name .execute gw.rbacConfig = true
  arguments_ok : ∀ arguments, params.bind (Json.get "arguments") = some arguments →
    gw.schemaCache.validate name arguments = .ok ()

/-- The circuit breaker of the backend the tool routes to, if any, admits the call. -/
def CircuitAdmits (gw : Gateway) (st : DispatchState) (line : InboundLine) (name : String) : Prop :=
  ∀ backendName cb, gw.catalog.route name = some backendName →
    st.circuitBreakers.lookup backendName = some cb → (cb.allowRequest line.allowedAt).2 = true

/-- The state after the rate limiter has counted a call. -/
def afterCheck (gw : Gateway) (st : DispatchState) (line : InboundLine) (name : String) :
    DispatchState :=
  { st with hotConfig := { st.hotConfig with
      rateLimiter :=
        (st.hotConfig.rateLimiter.check gw.identity.subject name line.checkedAt).1 } }

theorem killSwitchGate_eq_none_iff (killSwitch : KillSwitchConfig) :
    gw.killSwitchGate killSwitch name = none ↔ name ∉ killSwitch.disabledTools ∧
      ∀ backendName, gw.catalog.route name = some backendName →
        backendName ∉ killSwitch.disabledBackends := by
  unfold killSwitchGate
  by_cases htool : name ∈ killSwitch.disabledTools
  · simp [htool]
  · cases hroute : gw.catalog.route name with
    | none => simp [htool]
    | some backendName => simp [htool]

theorem rateLimitGate_state (gw : Gateway) (st : DispatchState) (name : String) (now : Instant) :
    (gw.rateLimitGate st name now).1 = { st with hotConfig := { st.hotConfig with
      rateLimiter := (st.hotConfig.rateLimiter.check gw.identity.subject name now).1 } } := by
  simp only [rateLimitGate]

theorem rateLimitGate_eq_none_iff (now : Instant) :
    (gw.rateLimitGate st name now).2 = none ↔
      (st.hotConfig.rateLimiter.check gw.identity.subject name now).2 = .ok () := by
  unfold rateLimitGate
  cases h : st.hotConfig.rateLimiter.check gw.identity.subject name now with
  | mk limiter answer =>
    cases answer with
    | ok => simp
    | error retryAfter => simp

theorem rbacGate_eq_none_iff :
    gw.rbacGate name = none ↔
      isToolAllowed gw.identity.role name .execute gw.rbacConfig = true := by
  unfold rbacGate
  split_ifs with h <;> simp [h]

theorem schemaGate_eq_none_iff :
    gw.schemaGate name params = none ↔
      ∀ arguments, params.bind (Json.get "arguments") = some arguments →
        gw.schemaCache.validate name arguments = .ok () := by
  unfold schemaGate
  cases params.bind (Json.get "arguments") with
  | none => simp
  | some arguments =>
    cases h : gw.schemaCache.validate name arguments with
    | ok => simp [h]
    | error errors => simp [h]

/-- A call that passes the policy gets to the circuit breaker. -/
theorem passGates_of_passesPolicy (h : PassesPolicy gw st line name params) :
    gw.passGates st line name params =
      gw.circuitGate (gw.afterCheck st line name) name line.allowedAt := by
  have hkill : gw.killSwitchGate st.hotConfig.killSwitch name = none :=
    (killSwitchGate_eq_none_iff _).mpr ⟨h.tool_enabled, h.backend_enabled⟩
  have hrate : gw.rateLimitGate st name line.checkedAt = (gw.afterCheck st line name, none) :=
    Prod.ext (rateLimitGate_state gw st name _) ((rateLimitGate_eq_none_iff _).mpr h.rate_ok)
  simp only [passGates, hkill, hrate, rbacGate_eq_none_iff.mpr h.role_ok,
    schemaGate_eq_none_iff.mpr h.arguments_ok]

theorem reports_of_killSwitchGate {killSwitch : KillSwitchConfig} {rejection : Rejection}
    (h : gw.killSwitchGate killSwitch name = some rejection) :
    rejection.Reports gw name .killed := by
  unfold killSwitchGate at h
  by_cases htool : name ∈ killSwitch.disabledTools
  · rw [if_pos htool, Option.some.injEq] at h
    subst h
    exact ⟨rfl, rfl, rfl⟩
  · rw [if_neg htool] at h
    cases hroute : gw.catalog.route name with
    | none => simp [hroute] at h
    | some backendName =>
      by_cases hbackend : backendName ∈ killSwitch.disabledBackends
      · simp only [hroute, hbackend, if_true, Option.some.injEq] at h
        subst h
        exact ⟨rfl, rfl, by simp [auditedBackend, hroute]⟩
      · simp [hroute, hbackend] at h

theorem reports_of_rateLimitGate {now : Instant} {rejection : Rejection}
    (h : (gw.rateLimitGate st name now).2 = some rejection) :
    rejection.Reports gw name .rateLimited := by
  unfold rateLimitGate at h
  cases hcheck : (st.hotConfig.rateLimiter.check gw.identity.subject name now).2 with
  | ok => simp [hcheck] at h
  | error retryAfter =>
    simp only [hcheck, Option.some.injEq] at h
    subst h
    exact ⟨rfl, rfl, rfl⟩

theorem reports_of_rbacGate {rejection : Rejection} (h : gw.rbacGate name = some rejection) :
    rejection.Reports gw name .denied := by
  unfold rbacGate at h
  split_ifs at h
  obtain rfl := Option.some.inj h
  exact ⟨rfl, rfl, rfl⟩

theorem reports_of_schemaGate {rejection : Rejection}
    (h : gw.schemaGate name params = some rejection) :
    rejection.Reports gw name .invalidArgs := by
  unfold schemaGate at h
  split at h
  · simp at h
  · split at h
    · simp at h
    · obtain rfl := Option.some.inj h
      exact ⟨rfl, rfl, rfl⟩

theorem reports_of_circuitGate {now : Instant} {rejection : Rejection}
    (h : (gw.circuitGate st name now).2 = some rejection) :
    rejection.Reports gw name .circuitOpen := by
  unfold circuitGate at h
  cases hroute : gw.catalog.route name with
  | none => simp [hroute] at h
  | some backendName =>
    cases hbreaker : st.circuitBreakers.lookup backendName with
    | none => simp [hroute, hbreaker] at h
    | some cb =>
      simp only [hroute, hbreaker] at h
      split_ifs at h
      obtain rfl := Option.some.inj h
      exact ⟨rfl, rfl, by simp [auditedBackend, hroute]⟩

/-- Everything the gates can do with a named call: the first one that rejects it,
with the state it is rejected in, or the circuit breaker's word. -/
inductive PassCase (gw : Gateway) (st : DispatchState) (line : InboundLine) (name : String)
    (params : Option Json) : DispatchState × Option Rejection → Prop
  | killed (rejection : Rejection)
      (gate : gw.killSwitchGate st.hotConfig.killSwitch name = some rejection) :
      PassCase gw st line name params (st, some rejection)
  | rateLimited (rejection : Rejection)
      (enabled : gw.killSwitchGate st.hotConfig.killSwitch name = none)
      (gate : (gw.rateLimitGate st name line.checkedAt).2 = some rejection) :
      PassCase gw st line name params (gw.afterCheck st line name, some rejection)
  | denied (rejection : Rejection)
      (enabled : gw.killSwitchGate st.hotConfig.killSwitch name = none)
      (rate_ok :
        (st.hotConfig.rateLimiter.check gw.identity.subject name line.checkedAt).2 = .ok ())
      (gate : gw.rbacGate name = some rejection) :
      PassCase gw st line name params (gw.afterCheck st line name, some rejection)
  | invalidArgs (rejection : Rejection)
      (enabled : gw.killSwitchGate st.hotConfig.killSwitch name = none)
      (rate_ok :
        (st.hotConfig.rateLimiter.check gw.identity.subject name line.checkedAt).2 = .ok ())
      (gate : gw.schemaGate name params = some rejection) :
      PassCase gw st line name params (gw.afterCheck st line name, some rejection)
  | circuit (policy : PassesPolicy gw st line name params) :
      PassCase gw st line name params
        (gw.circuitGate (gw.afterCheck st line name) name line.allowedAt)

theorem passGates_cases (gw : Gateway) (st : DispatchState) (line : InboundLine) (name : String)
    (params : Option Json) :
    PassCase gw st line name params (gw.passGates st line name params) := by
  by_cases hpolicy : PassesPolicy gw st line name params
  · rw [passGates_of_passesPolicy hpolicy]
    exact .circuit hpolicy
  unfold passGates
  cases hkill : gw.killSwitchGate st.hotConfig.killSwitch name with
  | some rejection => exact .killed rejection hkill
  | none =>
    obtain ⟨htool, hbackend⟩ := (killSwitchGate_eq_none_iff _).mp hkill
    cases hrate : gw.rateLimitGate st name line.checkedAt with
    | mk counted answer =>
      obtain rfl : counted = gw.afterCheck st line name := by
        have hcounted := rateLimitGate_state gw st name line.checkedAt
        rwa [hrate] at hcounted
      cases answer with
      | some rejection => exact .rateLimited rejection hkill (congrArg Prod.snd hrate)
      | none =>
        have hcheck := (rateLimitGate_eq_none_iff _).mp (congrArg Prod.snd hrate)
        cases hrole : gw.rbacGate name with
        | some rejection => exact .denied rejection hkill hcheck hrole
        | none =>
          cases hschema : gw.schemaGate name params with
          | some rejection => exact .invalidArgs rejection hkill hcheck hschema
          | none =>
            exact absurd ⟨htool, hbackend, hcheck, rbacGate_eq_none_iff.mp hrole,
              schemaGate_eq_none_iff.mp hschema⟩ hpolicy

/-- A call that does not pass the policy is rejected by a gate other than the
circuit breaker's, and only the rate limiter may have noticed it. -/
theorem passGates_of_not_passesPolicy (h : ¬PassesPolicy gw st line name params) :
    ∃ rejection, (gw.passGates st line name params).2 = some rejection ∧
      rejection.code ≠ circuitOpenErrorCode ∧
      ((gw.passGates st line name params).1 = st ∨
        (gw.passGates st line name params).1 = gw.afterCheck st line name) := by
  have hcase := passGates_cases gw st line name params
  generalize gw.passGates st line name params = result at hcase ⊢
  cases hcase with
  | killed rejection gate =>
    exact ⟨rejection, rfl, (reports_of_killSwitchGate gate).code_ne (by decide), Or.inl rfl⟩
  | rateLimited rejection enabled gate =>
    exact ⟨rejection, rfl, (reports_of_rateLimitGate gate).code_ne (by decide), Or.inr rfl⟩
  | denied rejection enabled rate_ok gate =>
    exact ⟨rejection, rfl, (reports_of_rbacGate gate).code_ne (by decide), Or.inr rfl⟩
  | invalidArgs rejection enabled rate_ok gate =>
    exact ⟨rejection, rfl, (reports_of_schemaGate gate).code_ne (by decide), Or.inr rfl⟩
  | circuit policy => exact absurd policy h

/-- Without a breaker for the routed backend the circuit gate is open. -/
theorem circuitGate_of_no_breaker (now : Instant)
    (h : ∀ backendName, gw.catalog.route name = some backendName →
      st.circuitBreakers.lookup backendName = none) : gw.circuitGate st name now = (st, none) := by
  unfold circuitGate
  cases hroute : gw.catalog.route name with
  | none => rfl
  | some backendName => simp only [h backendName hroute]

/-- With a breaker for the routed backend, the circuit gate asks it. -/
theorem circuitGate_of_breaker (now : Instant) {backendName : String} {cb : CircuitBreaker}
    (hroute : gw.catalog.route name = some backendName)
    (hbreaker : st.circuitBreakers.lookup backendName = some cb) :
    gw.circuitGate st name now =
      ({ st with
          circuitBreakers := st.circuitBreakers.insert backendName (cb.allowRequest now).1 },
        if (cb.allowRequest now).2 then none
        else some { status := .circuitOpen, code := circuitOpenErrorCode,
                    message := "Backend circuit open: " ++ backendName, backendName }) := by
  simp only [circuitGate, hroute, hbreaker]

/-- The circuit gate touches the breaker of the routed backend and nothing else.
It rejects, with its own answer, exactly if that breaker does not admit the call. -/
theorem circuitGate_spec (gw : Gateway) (st : DispatchState) (name : String) (now : Instant) :
    (gw.circuitGate st name now).1 =
        { st with circuitBreakers := (gw.circuitGate st name now).1.circuitBreakers } ∧
      (∀ backendName, (gw.circuitGate st name now).1.circuitBreakers.lookup backendName =
        if gw.catalog.route name = some backendName then
          (st.circuitBreakers.lookup backendName).map fun cb => (cb.allowRequest now).1
        else st.circuitBreakers.lookup backendName) ∧
      ((∃ backendName cb, gw.catalog.route name = some backendName ∧
          st.circuitBreakers.lookup backendName = some cb ∧ (cb.allowRequest now).2 = false ∧
          ∃ rejection, (gw.circuitGate st name now).2 = some rejection ∧ ∀ id,
            rejection.response id =
              .failure id circuitOpenErrorCode ("Backend circuit open: " ++ backendName)) ∨
        (∀ backendName cb, gw.catalog.route name = some backendName →
          st.circuitBreakers.lookup backendName = some cb → (cb.allowRequest now).2 = true) ∧
          (gw.circuitGate st name now).2 = none) := by
  by_cases hbreaker : ∃ backendName cb, gw.catalog.route name = some backendName ∧
      st.circuitBreakers.lookup backendName = some cb
  · obtain ⟨routed, cb, hroute, hlookup⟩ := hbreaker
    rw [circuitGate_of_breaker now hroute hlookup]
    refine ⟨rfl, ?_, ?_⟩
    · intro backendName
      by_cases heq : routed = backendName
      · subst heq
        rw [if_pos hroute, hlookup]
        exact AList.lookup_insert _
      · have hne : gw.catalog.route name ≠ some backendName := by simpa [hroute] using heq
        rw [if_neg hne]
        exact AList.lookup_insert_ne (Ne.symm heq)
    · cases hallowed : (cb.allowRequest now).2 with
      | false => exact Or.inl ⟨routed, cb, hroute, hlookup, hallowed, _, rfl, fun _ => rfl⟩
      | true =>
        refine Or.inr ⟨?_, rfl⟩
        intro backendName other hname hother
        obtain rfl : routed = backendName := by simpa [hroute] using hname
        obtain rfl : cb = other := by simpa [hlookup] using hother
        exact hallowed
  · have hnone : ∀ backendName, gw.catalog.route name = some backendName →
        st.circuitBreakers.lookup backendName = none := by
      intro backendName hroute
      cases hlookup : st.circuitBreakers.lookup backendName with
      | none => rfl
      | some cb => exact absurd ⟨backendName, cb, hroute, hlookup⟩ hbreaker
    rw [circuitGate_of_no_breaker now hnone]
    refine ⟨rfl, ?_, Or.inr ⟨?_, rfl⟩⟩
    · intro backendName
      split_ifs with hroute
      · rw [hnone backendName hroute]
        rfl
      · rfl
    · intro backendName cb hroute hlookup
      exact absurd ⟨backendName, cb, hroute, hlookup⟩ hbreaker

/-- The breakers after the outcome of a call to a backend is recorded. -/
def recordOutcome (breakers : Table String CircuitBreaker) (backendName : String)
    (line : InboundLine) : Table String CircuitBreaker :=
  match line.outcome with
  | .ok _ => breakers.modify backendName CircuitBreaker.recordSuccess
  | .error _ => breakers.modify backendName fun cb => cb.recordFailure line.recordedAt

/-- Recording an outcome is an operation on the breaker of the called backend. -/
theorem lookup_recordOutcome (breakers : Table String CircuitBreaker) (routed : String)
    (line : InboundLine) (backendName : String) :
    (recordOutcome breakers routed line).lookup backendName =
      if routed = backendName then
        (breakers.lookup backendName).map fun cb => (CircuitBreaker.operate cb line.record).1
      else breakers.lookup backendName := by
  unfold recordOutcome InboundLine.record
  by_cases h : routed = backendName
  · subst h
    rw [if_pos rfl]
    cases line.outcome <;> exact Table.lookup_modify_self _ _ _
  · rw [if_neg h]
    cases line.outcome <;> exact Table.lookup_modify_of_ne _ (Ne.symm h) _

/-- The state after a call to a backend: the outcome is recorded, one gateway
identifier is used up, and its entry is gone again. -/
def afterCall (st : DispatchState) (line : InboundLine) (id : JsonRpcId) (backendName : String) :
    DispatchState :=
  { st with
    circuitBreakers := recordOutcome st.circuitBreakers backendName line
    idRemapper :=
      { counter := st.idRemapper.counter + 1
        mappings := (st.idRemapper.mappings.insert st.idRemapper.counter
          (id, backendName)).erase st.idRemapper.counter } }

/-- Whatever the backend answers, the outcome is recorded, the entry made for the
call is removed, and the response carries the client's identifier. -/
theorem settleCall_spec (gw : Gateway) (st : DispatchState) (line : InboundLine) (id : JsonRpcId)
    (backendName : String) :
    (gw.settleCall { st with idRemapper := (st.idRemapper.remap id backendName).1 } line
        backendName (st.idRemapper.remap id backendName).2).1 = afterCall st line id backendName ∧
      (gw.settleCall { st with idRemapper := (st.idRemapper.remap id backendName).1 } line
        backendName (st.idRemapper.remap id backendName).2).2.id = id := by
  have hrestore := st.idRemapper.restore_remap id backendName
  unfold settleCall afterCall recordOutcome
  cases line.outcome with
  | error e => simp only [hrestore, Option.map_some, Option.getD_some, and_self,
      JsonRpcResponse.failure_id]
  | ok text =>
    cases hread : gw.serde.read JsonRpcResponse.decode text with
    | ok response => simp only [hread, hrestore, and_self]
    | error e => simp only [hread, hrestore, Option.map_some, Option.getD_some, and_self,
        JsonRpcResponse.failure_id]

/-- `handle_tools_call` either answers the client itself and does nothing else,
or hands one body to the backend the tool routes to. -/
theorem handleToolsCall_cases (gw : Gateway) (st : DispatchState) (line : InboundLine)
    (id : JsonRpcId) (params : Option Json) :
    (∃ code message, gw.handleToolsCall st line id params = (st, [], .failure id code message) ∧
      ∀ name backendName, toolName params = some name →
        gw.catalog.route name = some backendName → gw.backends.lookup backendName = none) ∨
    ∃ name backendName backend response, toolName params = some name ∧
      gw.catalog.route name = some backendName ∧
      gw.backends.lookup backendName = some backend ∧ response.id = id ∧
      gw.handleToolsCall st line id params = (afterCall st line id backendName,
        [.send backendName backend (outboundRequest st.idRemapper.counter params)], response) := by
  cases hname : toolName params with
  | none =>
    exact Or.inl ⟨invalidParamsCode, "Missing tool name in params",
      by simp only [handleToolsCall, hname], by simp⟩
  | some name =>
    cases hroute : gw.catalog.route name with
    | none =>
      refine Or.inl ⟨invalidParamsCode, "Unknown tool: " ++ name,
        by simp only [handleToolsCall, hname, hroute], ?_⟩
      rintro _ backendName ⟨rfl⟩ hother
      simp [hroute] at hother
    | some backendName =>
      cases hbackend : gw.backends.lookup backendName with
      | none =>
        refine Or.inl ⟨internalErrorCode, "Backend unavailable: " ++ backendName,
          by simp only [handleToolsCall, hname, hroute, hbackend], ?_⟩
        rintro _ other ⟨rfl⟩ hother
        rw [hroute, Option.some.injEq] at hother
        rwa [← hother]
      | some backend =>
        obtain ⟨hstate, hid⟩ := settleCall_spec gw st line id backendName
        refine Or.inr ⟨name, backendName, backend, _, rfl, hroute, hbackend, hid, ?_⟩
        simp only [handleToolsCall, hname, hroute, hbackend, hstate]
        rfl

theorem responses_reject (rejection : Rejection) :
    responses (gw.reject line id name params rejection) = [rejection.response id] := by
  unfold reject
  split_ifs <;> rfl

theorem sends_reject (rejection : Rejection) :
    sends (gw.reject line id name params rejection) = [] := by
  unfold reject
  split_ifs <;> rfl

/-- The last stage answers with the response of `handle_tools_call` and sends
what that sends. -/
theorem backendDispatch_spec (gw : Gateway) (st : DispatchState) (line : InboundLine)
    (id : JsonRpcId) (params : Option Json) :
    (gw.backendDispatch st line id params).1 = (gw.handleToolsCall st line id params).1 ∧
      responses (gw.backendDispatch st line id params).2 =
        responses (gw.handleToolsCall st line id params).2.1 ++
          [(gw.handleToolsCall st line id params).2.2] ∧
      sends (gw.backendDispatch st line id params).2 =
        sends (gw.handleToolsCall st line id params).2.1 := by
  unfold backendDispatch
  refine ⟨rfl, ?_, ?_⟩
  · simp only [responses_append, responses_respond]
    cases gw.metrics <;> cases gw.auditTx <;> simp
  · simp only [sends_append, sends_respond, List.append_nil]
    cases gw.metrics <;> cases gw.auditTx <;> simp

/-- The state after all gates have seen a call. -/
def afterGates (gw : Gateway) (st : DispatchState) (line : InboundLine) (name : String) :
    DispatchState :=
  (gw.circuitGate (gw.afterCheck st line name) name line.allowedAt).1

/-- Everything that can become of a call with a tool name: refused by the policy,
refused by an open circuit, answered for want of a backend, or sent. -/
inductive CallCase (gw : Gateway) (st : DispatchState) (line : InboundLine) (id : JsonRpcId)
    (name : String) (params : Option Json) : DispatchState × List Effect → Prop
  | refused {after : DispatchState} (rejection : Rejection)
      (policy : ¬PassesPolicy gw st line name params)
      (code : rejection.code ≠ circuitOpenErrorCode)
      (unchanged : after = st ∨ after = gw.afterCheck st line name) :
      CallCase gw st line id name params (after, gw.reject line id name params rejection)
  | circuitOpen (rejection : Rejection) (backendName : String) (cb : CircuitBreaker)
      (policy : PassesPolicy gw st line name params)
      (route : gw.catalog.route name = some backendName)
      (breaker : st.circuitBreakers.lookup backendName = some cb)
      (open_circuit : (cb.allowRequest line.allowedAt).2 = false)
      (answer : rejection.response id =
        .failure id circuitOpenErrorCode ("Backend circuit open: " ++ backendName)) :
      CallCase gw st line id name params
        (gw.afterGates st line name, gw.reject line id name params rejection)
  | unserved (code : ℤ) (message : String) (effects : List Effect)
      (policy : PassesPolicy gw st line name params) (circuit : CircuitAdmits gw st line name)
      (missing : ∀ backendName, gw.catalog.route name = some backendName →
        gw.backends.lookup backendName = none)
      (answer : responses effects = [.failure id code message]) (silent : sends effects = []) :
      CallCase gw st line id name params (gw.afterGates st line name, effects)
  | sent (backendName : String) (backend : Backend) (response : JsonRpcResponse)
      (effects : List Effect)
      (policy : PassesPolicy gw st line name params) (circuit : CircuitAdmits gw st line name)
      (route : gw.catalog.route name = some backendName)
      (served : gw.backends.lookup backendName = some backend)
      (id_eq : response.id = id) (answer : responses effects = [response])
      (send : sends effects =
        [(backendName, backend, outboundRequest st.idRemapper.counter params)]) :
      CallCase gw st line id name params
        (afterCall (gw.afterGates st line name) line id backendName, effects)

/-- The gates leave the identifiers and the lifecycle alone. -/
theorem afterGates_idRemapper (gw : Gateway) (st : DispatchState) (line : InboundLine)
    (name : String) : (gw.afterGates st line name).idRemapper = st.idRemapper := by
  rw [afterGates, (circuitGate_spec _ _ _ _).1]
  rfl

theorem afterGates_state (gw : Gateway) (st : DispatchState) (line : InboundLine)
    (name : String) : (gw.afterGates st line name).state = st.state := by
  rw [afterGates, (circuitGate_spec _ _ _ _).1]
  rfl

/-- Of the breakers, the gates ask the one of the routed backend. -/
theorem afterGates_lookup (gw : Gateway) (st : DispatchState) (line : InboundLine)
    (name backendName : String) :
    (gw.afterGates st line name).circuitBreakers.lookup backendName =
      if gw.catalog.route name = some backendName then
        (st.circuitBreakers.lookup backendName).map fun cb => (cb.allowRequest line.allowedAt).1
      else st.circuitBreakers.lookup backendName :=
  (circuitGate_spec gw (gw.afterCheck st line name) name line.allowedAt).2.1 backendName

theorem toolsCall_cases (gw : Gateway) (st : DispatchState) (line : InboundLine) (id : JsonRpcId)
    {name : String} {params : Option Json} (hname : toolName params = some name) :
    CallCase gw st line id name params (gw.toolsCall st line id params) := by
  by_cases hpolicy : PassesPolicy gw st line name params
  · have hadmit := passGates_of_passesPolicy hpolicy
    rcases (circuitGate_spec gw (gw.afterCheck st line name) name line.allowedAt).2.2 with
      ⟨backendName, cb, hroute, hbreaker, hopen, rejection, hrejection, hanswer⟩ |
      ⟨hcircuit, hnone⟩
    · have hcall : gw.toolsCall st line id params =
          (gw.afterGates st line name, gw.reject line id name params rejection) := by
        have hpair : gw.passGates st line name params =
            (gw.afterGates st line name, some rejection) := hadmit.trans (Prod.ext rfl hrejection)
        simp only [toolsCall, hname, hpair]
      rw [hcall]
      exact .circuitOpen rejection backendName cb hpolicy hroute hbreaker hopen (hanswer id)
    · have hcall : gw.toolsCall st line id params =
          gw.backendDispatch (gw.afterGates st line name) line id params := by
        have hpair : gw.passGates st line name params = (gw.afterGates st line name, none) :=
          hadmit.trans (Prod.ext rfl hnone)
        simp only [toolsCall, hname, hpair]
      obtain ⟨hstate, hresponses, hsends⟩ :=
        backendDispatch_spec gw (gw.afterGates st line name) line id params
      have hresult : gw.toolsCall st line id params =
          ((gw.handleToolsCall (gw.afterGates st line name) line id params).1,
            (gw.backendDispatch (gw.afterGates st line name) line id params).2) :=
        hcall.trans (Prod.ext hstate rfl)
      rw [hresult]
      rcases handleToolsCall_cases gw (gw.afterGates st line name) line id params with
        ⟨code, message, heq, hmissing⟩ |
        ⟨name', backendName, backend, response, hname', hroute, hbackend, hid, heq⟩
      · rw [heq] at hresponses hsends ⊢
        exact .unserved code message _ hpolicy hcircuit (fun b => hmissing name b hname)
          hresponses hsends
      · obtain rfl : name = name' := by simpa [hname] using hname'
        rw [heq] at hresponses hsends ⊢
        rw [afterGates_idRemapper] at hsends
        exact .sent backendName backend response _ hpolicy hcircuit hroute hbackend hid
          hresponses hsends
  · obtain ⟨rejection, hrejection, hcode, hstate⟩ := passGates_of_not_passesPolicy hpolicy
    have hcall : gw.toolsCall st line id params =
        ((gw.passGates st line name params).1, gw.reject line id name params rejection) := by
      have hpair : gw.passGates st line name params =
          ((gw.passGates st line name params).1, some rejection) := Prod.ext rfl hrejection
      rw [toolsCall, hname]
      simp only
      rw [hpair]
    rw [hcall]
    exact .refused rejection hpolicy hcode hstate

end Gateway

end SentinelGateway
