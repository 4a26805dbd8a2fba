import SentinelGateway.Gateway.Breaking
import SentinelGateway.Gateway.Locking
import SentinelGateway.Gateway.Outcomes

/-!
# The gateway as a reference monitor

What the gateway is for can be said without buckets, breakers and counters. A
monitor keeps a ledger of what has happened: where the handshake stands, which
policy was put in place last, when calls of each tool were counted since then, how
the calls to each backend went, and how many there were. It judges a call by this
ledger alone. The dispatch loop refines it: in every session it does to the outside
what the monitor does, effect by effect.
-/

namespace SentinelGateway

/-- What a monitor knows of the past. -/
structure Ledger where
  lifecycle : McpState
  killSwitch : KillSwitchConfig
  limit : String → ℕ
  counted : String → List Instant
  results : String → List CallResult
  sent : ℕ

namespace Ledger

/-- The minute that is running for a tool, by the calls counted. -/
def window (ledger : Ledger) (tool : String) : Option (FixedWindow.Window Instant) :=
  Runs.after (FixedWindow.step 60 (ledger.limit tool)) none (ledger.counted tool)

/-- One more call of the tool fits into its minute. -/
def WithinLimit (ledger : Ledger) (tool : String) (now : Instant) : Prop :=
  (FixedWindow.current 60 now (ledger.window tool)).used < ledger.limit tool

/-- The seconds until the running minute of a tool is over, but one at least. -/
def retryAfter (ledger : Ledger) (tool : String) (now : Instant) : Duration :=
  match ledger.window tool with
  | none => 60
  | some window => max (60 - elapsed window.opened now) 1

/-- A call of a tool is counted. -/
def count (ledger : Ledger) (tool : String) (now : Instant) : Ledger :=
  { ledger with
    counted := Function.update ledger.counted tool (ledger.counted tool ++ [now]) }

/-- A call was made to a backend. -/
def record (ledger : Ledger) (backendName : String) (result : CallResult) : Ledger :=
  { ledger with
    results := Function.update ledger.results backendName (ledger.results backendName ++ [result])
    sent := ledger.sent + 1 }

/-- A policy is put in place. Nothing has been counted under it. -/
def adopt (ledger : Ledger) (hotConfig : HotConfig) : Ledger :=
  { ledger with
    killSwitch := hotConfig.killSwitch
    limit := hotConfig.rateLimiter.rpm
    counted := fun _ => [] }

/-- The ledger of a session before its first event. -/
def start (initial : DispatchState) : Ledger :=
  { lifecycle := initial.state, killSwitch := initial.hotConfig.killSwitch,
    limit := initial.hotConfig.rateLimiter.rpm, counted := fun _ => [], results := fun _ => [],
    sent := 0 }

end Ledger

/-- What a monitor is set up with: the gateway's tables, the threshold and the timeout
of each backend that has a circuit, and the identifier of the first call. -/
structure Monitor where
  gw : Gateway
  circuits : String → Option (UInt32 × Duration)
  firstId : UInt64

namespace Monitor

open Classical in
/-- The verdict of the circuit: a call to a backend whose recent calls have failed. -/
noncomputable def circuitVerdict (m : Monitor) (ledger : Ledger) (line : InboundLine)
    (name : String) : Option Rejection :=
  match m.gw.catalog.route name with
  | none => none
  | some backendName =>
    match m.circuits backendName with
    | none => none
    | some (threshold, timeout) =>
      if OpenByHistory threshold.toNat timeout (ledger.results backendName) line.allowedAt then
        some { status := .circuitOpen, code := circuitOpenErrorCode,
               message := "Backend circuit open: " ++ backendName, backendName }
      else none

open Classical in
/-- The verdict on a call, by the ledger alone. -/
noncomputable def judge (m : Monitor) (ledger : Ledger) (line : InboundLine) (name : String)
    (params : Option Json) : Option Rejection :=
  match m.gw.killSwitchGate ledger.killSwitch name with
  | some rejection => some rejection
  | none =>
    if ledger.WithinLimit name line.checkedAt then
      match (m.gw.rbacGate name).or (m.gw.schemaGate name params) with
      | some rejection => some rejection
      | none => m.circuitVerdict ledger line name
    else
      some { status := .rateLimited, code := rateLimitErrorCode,
             message := "Rate limit exceeded for tool: " ++ name,
             data := some (.object [("retryAfter", .number (.posInt
               (UInt64.ofNat (Rat.ceil (ledger.retryAfter name line.checkedAt)).toNat)))]),
             backendName := m.gw.auditedBackend name }

/-- The ledger once the policy has seen a call. A call that is switched off does not
count. -/
def noted (m : Monitor) (ledger : Ledger) (line : InboundLine) (name : String) : Ledger :=
  match m.gw.killSwitchGate ledger.killSwitch name with
  | some _ => ledger
  | none => ledger.count name line.checkedAt

/-- The backend a call is for, if the gateway has it. -/
def destination (m : Monitor) (params : Option Json) : Option (String × Backend) :=
  ((toolName params).bind m.gw.catalog.route).bind fun backendName =>
    (m.gw.backends.lookup backendName).map fun backend => (backendName, backend)

/-- A call that is let through: it is made, if there is a backend for it, and reported
with its response. -/
def perform (m : Monitor) (ledger : Ledger) (line : InboundLine) (id : JsonRpcId)
    (params : Option Json) : Ledger × List Effect :=
  let reported := m.gw.report line params (m.gw.callResponse line id params)
  match m.destination params with
  | none => (ledger, reported)
  | some (backendName, backend) =>
    (ledger.record backendName line.result,
      .send backendName backend
        (outboundRequest (m.firstId + UInt64.ofNat ledger.sent) params) :: reported)

/-- A call. -/
noncomputable def call (m : Monitor) (ledger : Ledger) (line : InboundLine) (id : JsonRpcId)
    (params : Option Json) : Ledger × List Effect :=
  match toolName params with
  | none => m.perform ledger line id params
  | some name =>
    match m.judge ledger line name params with
    | some rejection => (m.noted ledger line name, m.gw.reject line id name params rejection)
    | none => m.perform (m.noted ledger line name) line id params

/-- The answer to an `initialize`. -/
def greeting (m : Monitor) (request : JsonRpcRequest) : JsonRpcResponse :=
  match handleInitialize m.gw.decodeInitialize (request.params.getD (.object [])) with
  | .ok result => .success (request.id.getD .null) result
  | .error (code, message) => .failure (request.id.getD .null) code message

/-- A request the lifecycle admits. -/
noncomputable def dispatch (m : Monitor) (ledger : Ledger) (line : InboundLine)
    (request : JsonRpcRequest) : Ledger × List Effect :=
  if request.method = "initialize" then
    ({ ledger with lifecycle := .initializing }, [.respond (m.greeting request)])
  else if request.method = "notifications/initialized" then
    ({ ledger with lifecycle := .operational }, [])
  else if request.method = "tools/list" then
    (ledger, Gateway.answer request fun id => .success id (m.gw.toolsList ledger.killSwitch))
  else if request.method = "tools/call" then
    match request.id with
    | none => (ledger, [])
    | some id => m.call ledger line id request.params
  else if request.method = "ping" then
    (ledger, Gateway.answer request fun id => .success id (.object []))
  else
    (ledger, Gateway.answer request fun id =>
      .failure id methodNotFoundCode ("Method not found: " ++ request.method))

/-- One event. -/
noncomputable def step (m : Monitor) (ledger : Ledger) : Event → Ledger × List Effect
  | .replaceHotConfig hotConfig => (ledger.adopt hotConfig, [])
  | .line line =>
    match m.gw.parseRequest line with
    | .error e =>
      (ledger, [.respond (.failure .null parseErrorCode ("Parse error: " ++ e))])
    | .ok request =>
      if ledger.lifecycle.canAcceptMethod request.method then m.dispatch ledger line request
      else
        (ledger, Gateway.answer request fun id =>
          .failure id notInitializedCode "Server not initialized")

end Monitor

namespace Ledger

theorem window_count (ledger : Ledger) (tool : String) (now : Instant) (other : String) :
    (ledger.count tool now).window other =
      if other = tool then (FixedWindow.step 60 (ledger.limit tool) (ledger.window tool) now).1
      else ledger.window other := by
  simp only [window, count]
  split_ifs with heq
  · subst heq
    rw [Function.update_self, Runs.after_concat]
  · rw [Function.update_of_ne heq]

/-- The counter admits one more call exactly if it fits. -/
theorem withinLimit_iff (ledger : Ledger) (tool : String) (now : Instant) :
    ledger.WithinLimit tool now ↔
      (FixedWindow.step 60 (ledger.limit tool) (ledger.window tool) now).2 = true := by
  unfold WithinLimit FixedWindow.step
  split_ifs with h <;> simp [h]

end Ledger

namespace Monitor

variable {m : Monitor} {future : Set Instant} {ledger : Ledger} {st : DispatchState}
  {line : InboundLine} {id : JsonRpcId} {name : String} {params : Option Json}

/-- The state of the dispatch loop and the ledger agree: every bucket is the window of
its tool, every breaker knows the results of its backend, and the next identifier is as
far from the first one as calls were made. -/
structure Agrees (m : Monitor) (future : Set Instant) (ledger : Ledger) (st : DispatchState) :
    Prop where
  lifecycle : st.state = ledger.lifecycle
  killSwitch : st.hotConfig.killSwitch = ledger.killSwitch
  limiter : ∀ tool, RateLimiter.RefinesWindow (ledger.limit tool) m.gw.identity.subject tool
    st.hotConfig.rateLimiter (ledger.window tool)
  breakers : ∀ backendName, Option.Rel
    (fun cb circuit => CircuitBreaker.Tracks circuit.1 circuit.2 (ledger.results backendName)
      future cb)
    (st.circuitBreakers.lookup backendName) (m.circuits backendName)
  nextId : st.idRemapper.counter = m.firstId + UInt64.ofNat ledger.sent

theorem Agrees.mono (h : Agrees m future ledger st) {later : Set Instant}
    (hlater : later ⊆ future) : Agrees m later ledger st :=
  { h with
    breakers := fun backendName => by
      have hbreaker := h.breakers backendName
      revert hbreaker
      generalize st.circuitBreakers.lookup backendName = cb
      generalize m.circuits backendName = circuit
      rintro (⟨htracks⟩ | _)
      · exact .some (htracks.mono hlater)
      · exact .none }

/-- The limiter answers as the ledger says, hint included. -/
theorem Agrees.check_eq (h : Agrees m future ledger st) (tool : String) (now : Instant) :
    (st.hotConfig.rateLimiter.check m.gw.identity.subject tool now).2 = .ok () ∧
        ledger.WithinLimit tool now ∨
      (st.hotConfig.rateLimiter.check m.gw.identity.subject tool now).2 =
          .error (ledger.retryAfter tool now) ∧ ¬ledger.WithinLimit tool now := by
  have hverdict := ((h.limiter tool).check now).2
  rw [Ledger.withinLimit_iff, ← hverdict]
  have hbucket := (h.limiter tool).bucket
  unfold RateLimiter.check TokenBucket.tryConsume
  split_ifs with hpos
  · exact Or.inl ⟨rfl, rfl⟩
  · refine Or.inr ⟨?_, Bool.noConfusion⟩
    unfold RateLimiter.bucketFor Ledger.retryAfter
    generalize st.hotConfig.rateLimiter.buckets.lookup (m.gw.identity.subject, tool) = bucket
      at hbucket ⊢
    generalize ledger.window tool = window at hbucket ⊢
    cases hbucket with
    | none => simp [TokenBucket.new, elapsed]
    | some hsame => simp [hsame.1]

/-- The limiter counts the call, and so does the ledger. -/
theorem Agrees.count (h : Agrees m future ledger st) (line : InboundLine) (name : String) :
    Agrees m future (ledger.count name line.checkedAt) (m.gw.afterCheck st line name) :=
  { h with
    limiter := by
      intro tool
      rw [Ledger.window_count]
      split_ifs with heq
      · subst heq
        exact ((h.limiter tool).check line.checkedAt).1
      · have hkey : RateLimiter.timeOnKey m.gw.identity.subject tool
            ⟨m.gw.identity.subject, name, line.checkedAt⟩ = none := by
          simp [RateLimiter.timeOnKey, Ne.symm heq]
        exact (h.limiter tool).skipped hkey }

/-- The circuit gate rejects a call exactly if the history of its backend does. -/
theorem Agrees.circuitGate (h : Agrees m future ledger st) (hnow : line.allowedAt ∈ future) :
    (m.gw.circuitGate st name line.allowedAt).2 = m.circuitVerdict ledger line name ∧
      Agrees m (future ∩ Set.Ici line.allowedAt) ledger
        (m.gw.circuitGate st name line.allowedAt).1 := by
  have hkept := h.mono (Set.inter_subset_left (t := Set.Ici line.allowedAt))
  unfold circuitVerdict
  cases hroute : m.gw.catalog.route name with
  | none =>
    have hgate : m.gw.circuitGate st name line.allowedAt = (st, none) :=
      Gateway.circuitGate_of_no_breaker line.allowedAt (by simp [hroute])
    rw [hgate]
    exact ⟨rfl, hkept⟩
  | some backendName =>
    have hbreaker := h.breakers backendName
    cases hlookup : st.circuitBreakers.lookup backendName with
    | none =>
      have hgate : m.gw.circuitGate st name line.allowedAt = (st, none) :=
        Gateway.circuitGate_of_no_breaker line.allowedAt (by simp [hroute, hlookup])
      rw [hlookup] at hbreaker
      rw [hgate]
      cases hcircuit : m.circuits backendName with
      | none => exact ⟨by simp only [hcircuit], hkept⟩
      | some circuit =>
        rw [hcircuit] at hbreaker
        cases hbreaker
    | some cb =>
      rw [hlookup] at hbreaker
      cases hcircuit : m.circuits backendName with
      | none =>
        rw [hcircuit] at hbreaker
        cases hbreaker
      | some circuit =>
        rw [hcircuit] at hbreaker
        obtain ⟨htracks⟩ := hbreaker
        obtain ⟨hstill, hopen⟩ := htracks.allowRequest hnow
        rw [Gateway.circuitGate_of_breaker line.allowedAt hroute hlookup]
        refine ⟨?_, { hkept with breakers := ?_ }⟩
        · simp only [hcircuit]
          cases hallowed : (cb.allowRequest line.allowedAt).2 with
          | false =>
            have hisOpen := hopen.mp hallowed
            simp [hisOpen]
          | true =>
            have hclosed : ¬OpenByHistory circuit.1.toNat circuit.2 (ledger.results backendName)
                line.allowedAt := by
              intro hisOpen
              simp [hopen.mpr hisOpen] at hallowed
            simp [hclosed]
        · intro other
          by_cases heq : other = backendName
          · subst heq
            rw [AList.lookup_insert, hcircuit]
            exact .some hstill
          · rw [AList.lookup_insert_ne heq]
            exact hkept.breakers other

/-- **Verdict.** The gates reject a call as the ledger does, and leave what the ledger
notes. -/
theorem Agrees.passGates (h : Agrees m future ledger st) (hnow : line.allowedAt ∈ future)
    (name : String) (params : Option Json) :
    (m.gw.passGates st line name params).2 = m.judge ledger line name params ∧
      Agrees m (future ∩ Set.Ici line.allowedAt) (m.noted ledger line name)
        (m.gw.passGates st line name params).1 := by
  have hsubset : future ∩ Set.Ici line.allowedAt ⊆ future := Set.inter_subset_left
  have hpass := Gateway.passGates_eq m.gw st ⟨line, .null, name, params⟩
  simp only at hpass
  unfold judge noted
  rw [hpass, h.killSwitch]
  cases m.gw.killSwitchGate ledger.killSwitch name with
  | some rejection => exact ⟨rfl, h.mono hsubset⟩
  | none =>
    have hcounted := h.count line name
    have hstate := Gateway.rateLimitGate_state m.gw st name line.checkedAt
    unfold Gateway.limitedGates
    rcases h.check_eq name line.checkedAt with ⟨hanswer, hlimit⟩ | ⟨hanswer, hlimit⟩
    · have hgate : m.gw.rateLimitGate st name line.checkedAt =
          (m.gw.afterCheck st line name, none) :=
        Prod.ext hstate ((Gateway.rateLimitGate_eq_none_iff _).mpr hanswer)
      simp only [hgate, if_pos hlimit, Gateway.laterGates_eq]
      cases (m.gw.rbacGate name).or (m.gw.schemaGate name params) with
      | some rejection => exact ⟨rfl, hcounted.mono hsubset⟩
      | none => exact hcounted.circuitGate hnow
    · have hgate : (m.gw.rateLimitGate st name line.checkedAt).2 =
          some { status := .rateLimited, code := rateLimitErrorCode,
                 message := "Rate limit exceeded for tool: " ++ name,
                 data := some (.object [("retryAfter", .number (.posInt
                   (UInt64.ofNat (Rat.ceil (ledger.retryAfter name line.checkedAt)).toNat)))]),
                 backendName := m.gw.auditedBackend name } := by
        simp only [Gateway.rateLimitGate, hanswer]
      rcases hresult : m.gw.rateLimitGate st name line.checkedAt with ⟨limited, rejection⟩
      rw [hresult] at hgate hstate
      obtain rfl : limited = m.gw.afterCheck st line name := hstate
      obtain rfl := hgate
      simp only [if_neg hlimit, true_and]
      exact hcounted.mono hsubset

/-- The breakers know the result of a call once it is recorded. -/
theorem Agrees.record (h : Agrees m future ledger st) (backendName : String)
    (hfit : RunsFit ((ledger.record backendName line.result).results backendName)) :
    Agrees m (future ∩ Set.Ici line.recordedAt) (ledger.record backendName line.result)
      (Gateway.afterCall st line id backendName) := by
  have hkept := h.mono (Set.inter_subset_left (t := Set.Ici line.recordedAt))
  refine
    { hkept with
      breakers := ?_
      nextId := ?_ }
  · intro other
    rw [Gateway.afterCall, Gateway.lookup_recordOutcome]
    by_cases heq : backendName = other
    · subst heq
      have hbreaker := h.breakers backendName
      rw [if_pos rfl]
      simp only [Ledger.record, Function.update_self] at hfit ⊢
      generalize st.circuitBreakers.lookup backendName = breaker at hbreaker ⊢
      generalize m.circuits backendName = circuit at hbreaker ⊢
      cases hbreaker with
      | none => exact .none
      | some htracks =>
        refine .some ?_
        unfold InboundLine.record InboundLine.result at *
        cases houtcome : line.outcome with
        | ok text => exact htracks.recordSuccess.mono Set.inter_subset_left
        | error e =>
          rw [houtcome] at hfit
          have hstreak := hfit.streak_lt
          rw [failureStreak_failure] at hstreak
          exact htracks.recordFailure hstreak
    · rw [if_neg heq]
      simp only [Ledger.record, Function.update_of_ne (Ne.symm heq)]
      exact hkept.breakers other
  · have hnext : (Gateway.afterCall st line id backendName).idRemapper.counter =
        st.idRemapper.counter + 1 := rfl
    rw [hnext, h.nextId, Ledger.record, UInt64.ofNat_add, UInt64.add_assoc]
    rfl

/-- A call that is let through is performed as the monitor performs it. -/
theorem Agrees.perform (h : Agrees m future ledger st)
    (hfit : ∀ backendName, RunsFit ((m.perform ledger line id params).1.results backendName)) :
    (m.gw.backendDispatch st line id params).2 = (m.perform ledger line id params).2 ∧
      Agrees m (future ∩ Set.Ici line.recordedAt) (m.perform ledger line id params).1
        (m.gw.backendDispatch st line id params).1 := by
  rw [Gateway.backendDispatch_eq_report]
  unfold Monitor.perform at hfit ⊢
  cases hdestination : m.destination params with
  | none =>
    have hunserved : ∀ name backendName, toolName params = some name →
        m.gw.catalog.route name = some backendName → m.gw.backends.lookup backendName = none := by
      intro name backendName hname hroute
      cases hbackend : m.gw.backends.lookup backendName with
      | none => rfl
      | some backend => simp [destination, hname, hroute, hbackend] at hdestination
    rw [Gateway.handleToolsCall_of_unserved st line id hunserved]
    exact ⟨rfl, h.mono Set.inter_subset_left⟩
  | some served =>
    obtain ⟨backendName, backend⟩ := served
    obtain ⟨name, hname, hroute, hbackend⟩ : ∃ name, toolName params = some name ∧
        m.gw.catalog.route name = some backendName ∧
        m.gw.backends.lookup backendName = some backend := by
      simp only [destination, Option.bind_eq_some_iff, Option.map_eq_some_iff] at hdestination
      obtain ⟨routed, ⟨name, hname, hroute⟩, found, hfound, heq⟩ := hdestination
      obtain ⟨rfl, rfl⟩ := Prod.mk.inj heq
      exact ⟨name, hname, hroute, hfound⟩
    have hresponse : m.gw.callResponse line id params = m.gw.settledResponse line id := by
      simp only [Gateway.callResponse, hname, hroute, hbackend]
    rw [hdestination] at hfit
    rw [Gateway.handleToolsCall_of_served hname hroute hbackend, hresponse, ← h.nextId]
    exact ⟨rfl, h.record backendName (hfit backendName)⟩

/-- A call is judged and performed as the monitor does it. -/
theorem Agrees.call (h : Agrees m future ledger st) (hnow : line.allowedAt ∈ future)
    (hfit : ∀ backendName, RunsFit ((m.call ledger line id params).1.results backendName)) :
    (m.gw.toolsCall st line id params).2 = (m.call ledger line id params).2 ∧
      Agrees m (future ∩ Set.Ici line.allowedAt ∩ Set.Ici line.recordedAt)
        (m.call ledger line id params).1 (m.gw.toolsCall st line id params).1 := by
  unfold Monitor.call at hfit ⊢
  cases hname : toolName params with
  | none =>
    rw [hname] at hfit
    have hcall : m.gw.toolsCall st line id params = m.gw.backendDispatch st line id params := by
      simp only [Gateway.toolsCall, hname]
    rw [hcall]
    exact (h.mono Set.inter_subset_left).perform hfit
  | some name =>
    obtain ⟨hverdict, hgated⟩ := h.passGates hnow name params
    rcases Gateway.toolsCall_eq m.gw st line id params with
      ⟨called, rejection, hcalled, hreject, heq⟩ | ⟨hpass, heq⟩
    · obtain rfl : name = called := by simpa [hname] using hcalled
      rw [hverdict] at hreject
      rw [heq, Gateway.gated_of_named m.gw st line hname]
      simp only [hreject]
      exact ⟨trivial, hgated.mono Set.inter_subset_left⟩
    · have hnone := hverdict.symm.trans (hpass name hname)
      rw [hname] at hfit
      simp only [hnone] at hfit
      rw [heq, Gateway.gated_of_named m.gw st line hname]
      simp only [hnone]
      exact hgated.perform hfit

/-- A reload that brings a limiter of its own, as `reload_hot_config` does. -/
def FreshReload : Event → Prop
  | .line _ => True
  | .replaceHotConfig hotConfig => hotConfig.rateLimiter.buckets = ∅

/-- A policy under which nothing has been counted. -/
theorem refinesWindow_fresh {limiter : RateLimiter} (h : limiter.buckets = ∅)
    (client tool : String) :
    RateLimiter.RefinesWindow (limiter.rpm tool) client tool limiter none := by
  refine ⟨rfl, ?_⟩
  rw [h]
  exact .none

/-- A request the lifecycle admits is dispatched as the monitor dispatches it. -/
theorem Agrees.dispatch (h : Agrees m future ledger st) (hnow : line.allowedAt ∈ future)
    (request : JsonRpcRequest)
    (hfit : ∀ backendName, RunsFit ((m.dispatch ledger line request).1.results backendName)) :
    (m.gw.dispatch st line request).2 = (m.dispatch ledger line request).2 ∧
      Agrees m (future ∩ Set.Ici line.allowedAt ∩ Set.Ici line.recordedAt)
        (m.dispatch ledger line request).1 (m.gw.dispatch st line request).1 := by
  have hsubset : future ∩ Set.Ici line.allowedAt ∩ Set.Ici line.recordedAt ⊆ future :=
    Set.inter_subset_left.trans Set.inter_subset_left
  have hkept := h.mono hsubset
  by_cases hcall : request.method = "tools/call"
  · cases hid : request.id with
    | none =>
      simp only [Monitor.dispatch, Gateway.dispatch, hcall, hid, JsonRpcRequest.isNotification]
      exact ⟨by simp, by simpa using hkept⟩
    | some id =>
      have hmonitor : m.dispatch ledger line request = m.call ledger line id request.params := by
        simp [Monitor.dispatch, hcall, hid]
      rw [hmonitor] at hfit ⊢
      rw [Gateway.dispatch_toolsCall hcall hid]
      exact h.call hnow hfit
  unfold Monitor.dispatch Gateway.dispatch
  by_cases hinitialize : request.method = "initialize"
  · rw [if_pos hinitialize, if_pos hinitialize]
    exact ⟨rfl, { hkept with lifecycle := rfl }⟩
  rw [if_neg hinitialize, if_neg hinitialize]
  by_cases hinitialized : request.method = "notifications/initialized"
  · rw [if_pos hinitialized, if_pos hinitialized]
    exact ⟨rfl, { hkept with lifecycle := rfl }⟩
  rw [if_neg hinitialized, if_neg hinitialized]
  by_cases hlist : request.method = "tools/list"
  · rw [if_pos hlist, if_pos hlist, h.killSwitch]
    exact ⟨rfl, hkept⟩
  rw [if_neg hlist, if_neg hlist, if_neg hcall, if_neg hcall]
  split_ifs <;> exact ⟨rfl, hkept⟩

/-- The times that no reading of an event comes after. -/
def laterThan (event : Event) : Set Instant := {now | ∀ t ∈ event.readings, t ≤ now}

/-- **One event.** From a state that agrees with the ledger, an event does to the
outside what the monitor does, and state and ledger agree again. -/
theorem Agrees.step (h : Agrees m future ledger st) (event : Event)
    (hnow : ∀ t ∈ event.readings, t ∈ future) (hfresh : FreshReload event)
    (hfit : ∀ backendName, RunsFit ((m.step ledger event).1.results backendName)) :
    (m.gw.step st event).2 = (m.step ledger event).2 ∧
      Agrees m (future ∩ laterThan event) (m.step ledger event).1 (m.gw.step st event).1 := by
  have hkept := h.mono (Set.inter_subset_left (t := laterThan event))
  cases event with
  | replaceHotConfig hotConfig =>
    refine ⟨rfl, { hkept with killSwitch := rfl, limiter := ?_ }⟩
    intro tool
    exact refinesWindow_fresh hfresh m.gw.identity.subject tool
  | line line =>
    simp only [Monitor.step, Gateway.step, Gateway.processLine] at hfit ⊢
    cases hparsed : m.gw.parseRequest line with
    | error e => exact ⟨rfl, hkept⟩
    | ok request =>
      simp only [hparsed] at hfit ⊢
      rw [h.lifecycle]
      split_ifs with hadmitted
      · rw [if_pos hadmitted] at hfit
        have hallowed : line.allowedAt ∈ future := hnow _ (by simp [Event.readings])
        obtain ⟨heffects, hagrees⟩ := h.dispatch hallowed request hfit
        refine ⟨heffects, hagrees.mono ?_⟩
        rintro now ⟨hfuture, hlater⟩
        exact ⟨⟨hfuture, hlater _ (by simp [Event.readings])⟩, hlater _ (by simp [Event.readings])⟩
      · exact ⟨rfl, hkept⟩

/-- A ledger has a backend's results of another one, and at most so many more. -/
def Extends (ledger after : Ledger) (bound : ℕ) : Prop :=
  ∀ backendName, ∃ more, more.length ≤ bound ∧
    after.results backendName = ledger.results backendName ++ more

theorem Extends.of_same {after : Ledger} (h : after.results = ledger.results) (bound : ℕ) :
    Extends ledger after bound := by
  intro backendName
  exact ⟨[], Nat.zero_le _, by rw [h, List.append_nil]⟩

theorem Extends.trans {middle last : Ledger} {first second : ℕ} (h : Extends ledger middle first)
    (h' : Extends middle last second) : Extends ledger last (first + second) := by
  intro backendName
  obtain ⟨more, hmore, hmiddle⟩ := h backendName
  obtain ⟨rest, hrest, hlast⟩ := h' backendName
  refine ⟨more ++ rest, ?_, ?_⟩
  · rw [List.length_append]
    exact Nat.add_le_add hmore hrest
  · rw [hlast, hmiddle, List.append_assoc]

theorem extends_perform (m : Monitor) (ledger : Ledger) (line : InboundLine) (id : JsonRpcId)
    (params : Option Json) : Extends ledger (m.perform ledger line id params).1 1 := by
  unfold perform
  cases m.destination params with
  | none => exact .of_same rfl 1
  | some served =>
    intro backendName
    simp only [Ledger.record]
    by_cases heq : backendName = served.1
    · subst heq
      exact ⟨[line.result], le_rfl, Function.update_self _ _ _⟩
    · exact ⟨[], Nat.zero_le _, by rw [Function.update_of_ne heq, List.append_nil]⟩

theorem results_noted (m : Monitor) (ledger : Ledger) (line : InboundLine) (name : String) :
    (m.noted ledger line name).results = ledger.results := by
  unfold noted
  cases m.gw.killSwitchGate ledger.killSwitch name <;> rfl

theorem extends_call (m : Monitor) (ledger : Ledger) (line : InboundLine) (id : JsonRpcId)
    (params : Option Json) : Extends ledger (m.call ledger line id params).1 1 := by
  unfold call
  cases toolName params with
  | none => exact extends_perform m ledger line id params
  | some name =>
    have hnoted := results_noted m ledger line name
    simp only
    cases m.judge ledger line name params with
    | some rejection => exact .of_same hnoted 1
    | none =>
      have hperform := extends_perform m (m.noted ledger line name) line id params
      intro backendName
      obtain ⟨more, hmore, heq⟩ := hperform backendName
      exact ⟨more, hmore, by rw [← hnoted]; exact heq⟩

/-- An event adds at most one result to the ledger. -/
theorem extends_step (m : Monitor) (ledger : Ledger) (event : Event) :
    Extends ledger (m.step ledger event).1 1 := by
  cases event with
  | replaceHotConfig hotConfig => exact .of_same rfl 1
  | line line =>
    simp only [step]
    cases m.gw.parseRequest line with
    | error e => exact .of_same rfl 1
    | ok request =>
      simp only
      split_ifs
      · unfold dispatch
        split_ifs
        · exact .of_same rfl 1
        · exact .of_same rfl 1
        · exact .of_same rfl 1
        · cases request.id with
          | none => exact .of_same rfl 1
          | some id => exact extends_call m ledger line id request.params
        · exact .of_same rfl 1
        · exact .of_same rfl 1
      · exact .of_same rfl 1

theorem extends_after (m : Monitor) (ledger : Ledger) (events : List Event) :
    Extends ledger (Runs.after m.step ledger events) events.length := by
  induction events generalizing ledger with
  | nil => exact .of_same rfl 0
  | cons event events ih =>
    have hboth := (extends_step m ledger event).trans (ih _)
    rwa [Nat.add_comm] at hboth

theorem Agrees.outputs (h : Agrees m future ledger st) {events : List Event}
    (hfuture : ∀ t ∈ events.flatMap Event.readings, t ∈ future)
    (hsorted : (events.flatMap Event.readings).Pairwise (· ≤ ·))
    (hfresh : ∀ event ∈ events, FreshReload event)
    (hfit : ∀ backendName, RunsFit ((Runs.after m.step ledger events).results backendName)) :
    Runs.outputs m.gw.step st events = Runs.outputs m.step ledger events := by
  induction events generalizing future ledger st with
  | nil => rfl
  | cons event events ih =>
    rw [List.flatMap_cons] at hfuture hsorted
    obtain ⟨-, hrest, hcross⟩ := List.pairwise_append.mp hsorted
    have hnow : ∀ t ∈ event.readings, t ∈ future :=
      fun t ht => hfuture t (List.mem_append_left _ ht)
    have hfitNow : ∀ backendName, RunsFit ((m.step ledger event).1.results backendName) := by
      intro backendName
      obtain ⟨later, -, hlater⟩ := extends_after m (m.step ledger event).1 events backendName
      have hwhole := hfit backendName
      rw [Runs.after_cons, hlater] at hwhole
      exact hwhole.of_append
    obtain ⟨heffects, hagrees⟩ := h.step event hnow (hfresh event List.mem_cons_self) hfitNow
    rw [Runs.outputs_cons, Runs.outputs_cons, heffects]
    congr 1
    refine ih hagrees ?_ hrest
      (fun other hother => hfresh other (List.mem_cons_of_mem _ hother)) hfit
    intro t ht
    exact ⟨hfuture t (List.mem_append_right _ ht), fun u hu => hcross u hu t ht⟩

/-- The monitor of a gateway that starts with fresh breakers. -/
def ofGateway (gw : Gateway) (initial : DispatchState) : Monitor :=
  { gw
    circuits := fun backendName => (initial.circuitBreakers.lookup backendName).map fun cb =>
      (cb.failureThreshold, cb.recoveryTimeout)
    firstId := initial.idRemapper.counter }

/-- A session that starts with unused limits and breakers agrees with an empty ledger. -/
theorem agrees_ofGateway {gw : Gateway} {initial : DispatchState}
    (hlimits : initial.hotConfig.rateLimiter.buckets = ∅)
    (hbreakers : ∀ backendName cb, initial.circuitBreakers.lookup backendName = some cb →
      cb = .new cb.failureThreshold cb.recoveryTimeout) :
    Agrees (ofGateway gw initial) Set.univ (.start initial) initial := by
  refine ⟨rfl, rfl, ?_, ?_, ?_⟩
  · intro tool
    exact refinesWindow_fresh hlimits gw.identity.subject tool
  · intro backendName
    have hfound := hbreakers backendName
    change Option.Rel _ (initial.circuitBreakers.lookup backendName)
      ((initial.circuitBreakers.lookup backendName).map _)
    cases hlookup : initial.circuitBreakers.lookup backendName with
    | none => exact .none
    | some cb =>
      rw [hfound cb hlookup]
      exact .some (CircuitBreaker.tracks_new _ _ _)
  · exact (UInt64.add_zero _).symm

/-- **Reference monitor.** In every session that starts with unused limits and breakers,
whose reloads bring unused limits, whose breakers read the clock in order and in which no
backend fails 2 ^ 32 times in a row, everything the gateway does to the outside, event by
event, is what the monitor does that judges calls by its ledger. -/
theorem gateway_refines_monitor (gw : Gateway) (initial : DispatchState) (events : List Event)
    (hlimits : initial.hotConfig.rateLimiter.buckets = ∅)
    (hbreakers : ∀ backendName cb, initial.circuitBreakers.lookup backendName = some cb →
      cb = .new cb.failureThreshold cb.recoveryTimeout)
    (hfresh : ∀ event ∈ events, FreshReload event)
    (hsorted : (events.flatMap Event.readings).Pairwise (· ≤ ·))
    (hfit : ∀ backendName, RunsFit ((Runs.after (ofGateway gw initial).step (.start initial)
      events).results backendName)) :
    Runs.outputs gw.step initial events =
      Runs.outputs (ofGateway gw initial).step (.start initial) events :=
  (agrees_ofGateway hlimits hbreakers).outputs (fun _ _ => Set.mem_univ _) hsorted hfresh hfit

/-- In a session of fewer than 2 ^ 32 events no backend fails that often. -/
theorem runsFit_of_length_lt (m : Monitor) (initial : DispatchState) {events : List Event}
    (h : events.length < 2 ^ 32) (backendName : String) :
    RunsFit ((Runs.after m.step (.start initial) events).results backendName) := by
  obtain ⟨more, hmore, heq⟩ := extends_after m (.start initial) events backendName
  intro before run rest hresults _
  have hlength := congrArg List.length (heq.symm.trans hresults)
  simp only [Ledger.start, List.nil_append, List.length_append] at hlength
  omega

/-- A handshake, a call that fails, one that its backend's circuit turns away, and one
over the limit. -/
def threeCalls : List Event :=
  handshake ++ [.line (.message queryMessage),
    .line { InboundLine.message queryMessage with
      checkedAt := 10, allowedAt := 10, recordedAt := 10 },
    .line { InboundLine.message queryMessage with
      checkedAt := 20, allowedAt := 20, recordedAt := 20 }]

/-- The monitor accounts for the statuses of these calls. -/
theorem gateway_refines_monitor_three_calls :
    let gw := { Gateway.bare (.ofValues (handshakeMessages ++ [queryMessage])) with
      catalog := ToolCatalog.new.registerBackend "db" [⟨"query", none, [], []⟩]
      backends := AList.singleton "db" (.stdio ⟨"db", 0, 60⟩)
      auditTx := true }
    let initial := Gateway.start ⟨{}, .new { defaultRpm := 2 }⟩ .new
      (AList.singleton "db" (.new 1 30))
    Runs.outputs gw.step initial threeCalls =
        Runs.outputs (ofGateway gw initial).step (.start initial) threeCalls ∧
      ((Runs.outputs gw.step initial threeCalls).flatMap audits).map AuditEntry.responseStatus =
        ["error", "circuit_open", "rate_limited"] := by
  intro gw initial
  refine ⟨gateway_refines_monitor gw initial threeCalls rfl ?_ ?_ (by decide +kernel)
    (runsFit_of_length_lt _ _ (by decide)), by decide +kernel⟩
  · intro backendName cb hlookup
    by_cases heq : backendName = "db"
    · subst heq
      have hfound : initial.circuitBreakers.lookup "db" = some (.new 1 30) := rfl
      obtain rfl : CircuitBreaker.new 1 30 = cb := by simpa [hfound] using hlookup
      rfl
    · have hnone : initial.circuitBreakers.lookup backendName = none :=
        AList.lookup_eq_none.mpr (by simpa [initial, Gateway.start, AList.mem_keys] using heq)
      simp [hnone] at hlookup
  · simp [threeCalls, handshake, FreshReload]

end Monitor

end SentinelGateway
