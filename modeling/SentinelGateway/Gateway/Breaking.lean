import SentinelGateway.Gateway.Steps

/-!
# Circuit breaking in sessions

The breaker of a backend sees one `allow_request` for each call that gets as far
as its gate and one recorded outcome for each call that is sent. Along a session
it therefore keeps tracking the history of the backend's results, and a call is
turned away exactly if the circuit is open by this history.
-/

namespace SentinelGateway

open CircuitBreaker (Operation operate)

/-- The result of the backend call of a line, as its breaker records it. -/
def InboundLine.result (line : InboundLine) : CallResult :=
  match line.outcome with
  | .ok _ => .success
  | .error _ => .failure line.recordedAt

/-- The readings of the clock that breakers use while an event is processed. -/
def Event.readings : Event → List Instant
  | .line inbound => [inbound.allowedAt, inbound.recordedAt]
  | .replaceHotConfig _ => []

namespace Gateway

variable {gw : Gateway} {backendName : String}

/-- The results of the calls made to a backend while an event is processed. -/
def resultsOf (backendName : String) (effects : List Effect) : Event → List CallResult
  | .replaceHotConfig _ => []
  | .line line =>
    ((sends effects).filter fun send => send.1 = backendName).map fun _ => line.result

/-- The results of all calls made to a backend in a session, in order. -/
def history (gw : Gateway) (backendName : String) (st : DispatchState) :
    List Event → List CallResult
  | [] => []
  | event :: events =>
    resultsOf backendName (gw.step st event).2 event ++
      history gw backendName (gw.step st event).1 events

theorem history_append (st : DispatchState) (xs ys : List Event) :
    gw.history backendName st (xs ++ ys) = gw.history backendName st xs ++
      gw.history backendName (Runs.after gw.step st xs) ys := by
  induction xs generalizing st with
  | nil => rfl
  | cons x xs ih => simp only [List.cons_append, history, ih, Runs.after_cons, List.append_assoc]

theorem resultsOf_of_silent {effects : List Effect} (h : sends effects = []) (event : Event) :
    resultsOf backendName effects event = [] := by
  cases event with
  | line line => simp [resultsOf, h]
  | replaceHotConfig hotConfig => rfl

/-- The breaker of a backend goes through these operations while an event is
processed: they record the results of the calls made to the backend, and they
read the clock no more often than the event lets them. -/
structure Operates (backendName : String) (event : Event) (st : DispatchState)
    (result : DispatchState × List Effect) (operations : List Operation) : Prop where
  breaker_eq : result.1.circuitBreakers.lookup backendName =
    (st.circuitBreakers.lookup backendName).map fun cb => Runs.after operate cb operations
  results_eq : operations.filterMap Operation.result = resultsOf backendName result.2 event
  readings_sub : (operations.filterMap Operation.reading).Sublist event.readings

/-- An event that neither moves the breaker nor calls the backend. -/
theorem Operates.of_same {event : Event} {st : DispatchState}
    {result : DispatchState × List Effect}
    (hsame : result.1.circuitBreakers.lookup backendName = st.circuitBreakers.lookup backendName)
    (hresults : resultsOf backendName result.2 event = []) :
    Operates backendName event st result [] where
  breaker_eq := by
    rw [hsame]
    exact Option.map_id_apply.symm
  results_eq := hresults.symm
  readings_sub := List.nil_sublist _

/-- An event that gets as far as the circuit gate and calls no backend. -/
theorem operates_afterGates (gw : Gateway) (st : DispatchState) (line : InboundLine)
    (name backendName : String) {effects : List Effect} (hsilent : sends effects = []) :
    ∃ operations, Operates backendName (.line line) st
      (gw.afterGates st line name, effects) operations := by
  have hresults : resultsOf backendName effects (.line line) = [] :=
    resultsOf_of_silent hsilent _
  by_cases hroute : gw.catalog.route name = some backendName
  · refine ⟨[.allowRequest line.allowedAt], ?_, hresults.symm,
      List.sublist_append_left [line.allowedAt] [line.recordedAt]⟩
    rw [afterGates_lookup, if_pos hroute]
    rfl
  · refine ⟨[], .of_same ?_ hresults⟩
    rw [afterGates_lookup, if_neg hroute]

/-- Every event moves the breaker of a backend by operations that fit its effects. -/
theorem exists_operates (gw : Gateway) (st : DispatchState) (event : Event)
    (backendName : String) :
    ∃ operations, Operates backendName event st (gw.step st event) operations := by
  have hcase := step_cases gw st event
  generalize gw.step st event = result at hcase ⊢
  cases hcase with
  | replaced | unparsed | initializeLine | initializedLine | callNotification =>
    exact ⟨[], .of_same rfl rfl⟩
  | refused line request | answered line request =>
    refine ⟨[], .of_same rfl (resultsOf_of_silent ?_ _)⟩
    rw [sends_answer]
  | unnamedCall line request id effects accepts method id_eq unnamed response silent =>
    exact ⟨[], .of_same rfl (resultsOf_of_silent silent _)⟩
  | call line id name params isCall callCase =>
    cases callCase with
    | refused rejection policy code unchanged =>
      refine ⟨[], .of_same ?_ (resultsOf_of_silent (sends_reject _) _)⟩
      rcases unchanged with rfl | rfl
      · rfl
      · rfl
    | circuitOpen => exact operates_afterGates gw st line name backendName (sends_reject _)
    | unserved code message effects policy circuit missing answer silent =>
      exact operates_afterGates gw st line name backendName silent
    | sent routed backend response effects policy circuit route served id_eq answer send =>
      by_cases hrouted : routed = backendName
      · subst hrouted
        refine ⟨[.allowRequest line.allowedAt, line.record], ?_, ?_, ?_⟩
        · simp only [afterCall, lookup_recordOutcome, afterGates_lookup, route, if_true,
            Option.map_map]
          rfl
        · have hresults : resultsOf routed effects (.line line) = [line.result] := by
            simp [resultsOf, send]
          rw [hresults, InboundLine.record, InboundLine.result]
          cases line.outcome <;> rfl
        · rw [InboundLine.record]
          cases line.outcome with
          | ok text => exact List.sublist_append_left [line.allowedAt] [line.recordedAt]
          | error e => exact List.Sublist.refl [line.allowedAt, line.recordedAt]
      · refine ⟨[], .of_same ?_ ?_⟩
        · have hroute : gw.catalog.route name ≠ some backendName := by simpa [route] using hrouted
          simp only [afterCall, lookup_recordOutcome, afterGates_lookup, if_neg hrouted,
            if_neg hroute]
        · simp [resultsOf, send, hrouted]

/-- **Simulation.** Along a session the breaker of a backend is a breaker on its
own that goes through operations recording the history of the backend. -/
theorem exists_operations_after (gw : Gateway) (initial : DispatchState) (backendName : String)
    (events : List Event) :
    ∃ operations : List Operation,
      (Runs.after gw.step initial events).circuitBreakers.lookup backendName =
        (initial.circuitBreakers.lookup backendName).map (fun cb =>
          Runs.after operate cb operations) ∧
      operations.filterMap Operation.result = gw.history backendName initial events ∧
      (operations.filterMap Operation.reading).Sublist (events.flatMap Event.readings) := by
  induction events using List.reverseRecOn with
  | nil => exact ⟨[], Option.map_id_apply.symm, rfl, List.nil_sublist _⟩
  | append_singleton events event ih =>
    obtain ⟨operations, hbreaker, hresults, hreadings⟩ := ih
    obtain ⟨more, hstep⟩ :=
      exists_operates gw (Runs.after gw.step initial events) event backendName
    refine ⟨operations ++ more, ?_, ?_, ?_⟩
    · rw [Runs.after_concat, hstep.breaker_eq, hbreaker, Option.map_map]
      simp only [Function.comp_def, Runs.after_append]
    · rw [List.filterMap_append, hresults, hstep.results_eq, history_append]
      simp [history]
    · rw [List.filterMap_append, List.flatMap_append, List.flatMap_singleton]
      exact hreadings.append hstep.readings_sub

/-- A call that passes the policy is turned away by the breaker of its backend or
sent to the backend, as the breaker decides. -/
theorem call_cases_of_breaker {st : DispatchState} {line : InboundLine} {id : JsonRpcId}
    {name : String} {params : Option Json} {backend : Backend} {cb : CircuitBreaker}
    (hcall : IsCall gw st line id name params) (hpolicy : PassesPolicy gw st line name params)
    (hroute : gw.catalog.route name = some backendName)
    (hserved : gw.backends.lookup backendName = some backend)
    (hbreaker : st.circuitBreakers.lookup backendName = some cb) :
    (cb.allowRequest line.allowedAt).2 = false ∧
        responses (gw.step st (.line line)).2 = [.failure id circuitOpenErrorCode
          ("Backend circuit open: " ++ backendName)] ∧
        sends (gw.step st (.line line)).2 = [] ∨
      (cb.allowRequest line.allowedAt).2 = true ∧ sends (gw.step st (.line line)).2 =
        [(backendName, backend, outboundRequest st.idRemapper.counter params)] := by
  have hcase := toolsCall_cases gw st line id hcall.named
  rw [step_of_isCall hcall]
  generalize gw.toolsCall st line id params = result at hcase ⊢
  cases hcase with
  | refused rejection policy => exact absurd hpolicy policy
  | circuitOpen rejection routed breaker policy route lookup open_circuit answer =>
    obtain rfl : backendName = routed := by simpa [hroute] using route
    obtain rfl : cb = breaker := by simpa [hbreaker] using lookup
    exact Or.inl ⟨open_circuit, by rw [responses_reject, answer], sends_reject _⟩
  | unserved code message effects policy circuit missing =>
    simp [missing backendName hroute] at hserved
  | sent routed served response effects policy circuit route lookup id_eq answer send =>
    obtain rfl : backendName = routed := by simpa [hroute] using route
    obtain rfl : backend = served := by simpa [hserved] using lookup
    exact Or.inr ⟨circuit backendName cb hroute hbreaker, send⟩

/-- **Circuit breaking.** From a fresh breaker and with readings of the clock in
order, a call that passes the earlier gates is turned away exactly if the circuit
is open by the history of its backend, and is sent otherwise. The breaker on its
own answers every sequence of operations by the history they record. -/
theorem circuit_follows_history (threshold : UInt32) (timeout : Duration) :
    (∀ (gw : Gateway) (initial : DispatchState) (backendName : String) (backend : Backend)
        (events : List Event),
      initial.circuitBreakers.lookup backendName = some (.new threshold timeout) →
      gw.backends.lookup backendName = some backend →
      (events.flatMap Event.readings).Pairwise (· ≤ ·) →
      RunsFit (gw.history backendName initial events) →
      ∀ before line rest id name params, events = before ++ .line line :: rest →
        IsCall gw (Runs.after gw.step initial before) line id name params →
        PassesPolicy gw (Runs.after gw.step initial before) line name params →
        gw.catalog.route name = some backendName →
        let st := Runs.after gw.step initial before
        let isOpen := OpenByHistory threshold.toNat timeout
          (gw.history backendName initial before) line.allowedAt
        (responses (gw.step st (.line line)).2 = [.failure id circuitOpenErrorCode
            ("Backend circuit open: " ++ backendName)] ∧
          sends (gw.step st (.line line)).2 = [] ↔ isOpen) ∧
        (sends (gw.step st (.line line)).2 =
          [(backendName, backend, outboundRequest st.idRemapper.counter params)] ↔ ¬isOpen)) ∧
    ∀ (operations rest : List Operation) (now : Instant),
      ((operations ++ .allowRequest now :: rest).filterMap Operation.reading).Pairwise (· ≤ ·) →
      RunsFit ((operations ++ .allowRequest now :: rest).filterMap Operation.result) →
      ((operate (Runs.after operate (.new threshold timeout) operations)
          (.allowRequest now)).2 = some false ↔
        OpenByHistory threshold.toNat timeout (operations.filterMap Operation.result) now) := by
  constructor
  · rintro gw initial backendName backend events hfresh hserved hsorted hfit before line rest id
      name params rfl hcall hpolicy hroute
    obtain ⟨operations, hbreaker, hresults, hreadings⟩ :=
      exists_operations_after gw initial backendName before
    rw [hfresh, Option.map_some] at hbreaker
    rw [history_append] at hfit
    rw [List.flatMap_append, List.flatMap_cons] at hsorted
    obtain ⟨hbefore, -, hcross⟩ := List.pairwise_append.mp hsorted
    have hnow : ∀ t ∈ operations.filterMap Operation.reading, t ≤ line.allowedAt := by
      intro t ht
      exact hcross t (hreadings.subset ht) line.allowedAt (by simp [Event.readings])
    have hopen := CircuitBreaker.allowRequest_after threshold timeout
      (hbefore.sublist hreadings) hnow (by rw [hresults]; exact hfit.of_append)
    rw [hresults] at hopen
    intro st isOpen
    rcases call_cases_of_breaker hcall hpolicy hroute hserved hbreaker with
      ⟨hrefused, hresponse, hsilent⟩ | ⟨hadmitted, hsend⟩
    · have hisOpen : isOpen := hopen.mp hrefused
      refine ⟨iff_of_true ⟨hresponse, hsilent⟩ hisOpen, iff_of_false ?_ (not_not.mpr hisOpen)⟩
      simp [st, hsilent]
    · have hclosed : ¬isOpen := by
        intro hisOpen
        simp [hopen.mpr hisOpen] at hadmitted
      refine ⟨iff_of_false ?_ hclosed, iff_of_true hsend hclosed⟩
      simp [st, hsend]
  · intro operations rest now hsorted hfit
    rw [List.filterMap_append] at hsorted hfit
    obtain ⟨hbefore, -, hcross⟩ := List.pairwise_append.mp hsorted
    rw [← CircuitBreaker.allowRequest_after threshold timeout hbefore
      (fun t ht => hcross t ht now (by simp [Operation.reading])) hfit.of_append]
    simp [operate]

/-- With a threshold of one, the call after a failed one is turned away as long as
the failure is recent. -/
theorem circuit_follows_history_one_failure :
    let gw := { bare (.ofValues (handshakeMessages ++ [queryMessage])) with
      catalog := ToolCatalog.new.registerBackend "db" [⟨"query", none, [], []⟩]
      backends := AList.singleton "db" (.stdio ⟨"db", 0, 60⟩) }
    let initial := start ⟨{}, .new {}⟩ .new (AList.singleton "db" (.new 1 30))
    let before := handshake ++ [.line (.message queryMessage)]
    let line := { InboundLine.message queryMessage with allowedAt := 10, recordedAt := 10 }
    let st := Runs.after gw.step initial before
    responses (gw.step st (.line line)).2 =
        [.failure (.number 7) circuitOpenErrorCode ("Backend circuit open: " ++ "db")] ∧
      sends (gw.step st (.line line)).2 = [] := by
  intro gw initial before line st
  have hpast : gw.history "db" initial before = [.failure 0] := by decide +kernel
  have hwhole : gw.history "db" initial (before ++ [.line line]) = [.failure 0] := by
    decide +kernel
  have hfit : RunsFit (gw.history "db" initial (before ++ [.line line])) := by
    rw [hwhole]
    intro earlier run rest heq _
    have hlength := congrArg List.length heq
    simp only [List.length_append, List.length_singleton] at hlength
    omega
  have hpolicy : PassesPolicy gw st line "query" (some (.object [("name", .string "query")])) :=
    { tool_enabled := by decide +kernel
      backend_enabled := by
        have hnone : st.hotConfig.killSwitch.disabledBackends = [] := by decide +kernel
        simp [hnone]
      rate_ok := by decide +kernel
      role_ok := by decide
      arguments_ok := by simp [Json.get, Json.lastMember] }
  have hopen : OpenByHistory (1 : UInt32).toNat 30 (gw.history "db" initial before)
      line.allowedAt := by
    rw [hpast]
    exact ⟨[], [], 0, rfl, by simp, by simp, by decide +kernel⟩
  have hfresh : initial.circuitBreakers.lookup "db" = some (.new 1 30) := rfl
  have hserved : gw.backends.lookup "db" = some (.stdio ⟨"db", 0, 60⟩) := rfl
  have hsorted : ((before ++ [Event.line line]).flatMap Event.readings).Pairwise (· ≤ ·) := by
    decide +kernel
  have hcall : IsCall gw st line (.number 7) "query"
      (some (.object [("name", .string "query")])) := ⟨⟨"2.0", rfl⟩, by decide +kernel, rfl⟩
  have hroute : gw.catalog.route "query" = some "db" := by decide
  exact ((circuit_follows_history 1 30).1 gw initial "db" _ _ hfresh hserved hsorted hfit before
    line [] _ _ _ rfl hcall hpolicy hroute).1.mpr hopen

end Gateway

end SentinelGateway
