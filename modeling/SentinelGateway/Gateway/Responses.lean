import SentinelGateway.Gateway.Steps
import SentinelGateway.Library.Runs

/-!
# One response per request

Which identifiers the responses to an event should carry is decided by its text
alone. The loop gets this right for every line but two kinds: it answers an
`initialize` that asks for no answer, and it does not answer a
`notifications/initialized` that asks for one.
-/

namespace SentinelGateway.Gateway

variable {gw : Gateway} {st : DispatchState} {event : Event}

/-- The identifiers an event is to be answered under: that of a request, none for
a notification, and the null identifier for a line that does not parse. -/
def expectedIds (gw : Gateway) : Event → List JsonRpcId
  | .replaceHotConfig _ => []
  | .line line =>
    match gw.parseRequest line with
    | .error _ => [.null]
    | .ok request => request.id.toList

/-- The event is answered as it should be while it is processed, with a parse
error if it is a line that does not parse. -/
structure AnsweredOnce (gw : Gateway) (st : DispatchState) (event : Event) : Prop where
  ids_eq : (responses (gw.step st event).2).map JsonRpcResponse.id = gw.expectedIds event
  parse_error : ∀ line message, event = .line line → gw.parseRequest line = .error message →
    ∃ text, responses (gw.step st event).2 = [.failure .null parseErrorCode text]

/-- The two kinds of lines the loop gets wrong, where the state accepts them. -/
def Misanswers (gw : Gateway) (st : DispatchState) (event : Event) : Prop :=
  ∃ line request, event = .line line ∧ Accepts gw st line request ∧
    (request.method = "initialize" ∧ request.id = none ∨
      request.method = "notifications/initialized" ∧ request.id ≠ none)

/-- Whatever becomes of a named call, it is answered once, under its identifier. -/
theorem CallCase.responses_ids {line : InboundLine} {id : JsonRpcId} {name : String}
    {params : Option Json} {result : DispatchState × List Effect}
    (h : CallCase gw st line id name params result) :
    (responses result.2).map JsonRpcResponse.id = [id] := by
  cases h with
  | refused rejection policy code unchanged => simp [responses_reject]
  | circuitOpen rejection => simp [responses_reject]
  | unserved code message effects policy circuit missing answer silent => simp [answer]
  | sent backendName backend response effects policy circuit route served id_eq answer send =>
    simp [answer, id_eq]

/-- An accepted `initialize` is answered once, whether it has an identifier or not. -/
theorem initializeArm_ids (request : JsonRpcRequest) :
    (responses (gw.initializeArm st request).2).map JsonRpcResponse.id =
      [request.id.getD .null] := by
  unfold initializeArm
  cases handleInitialize gw.decodeInitialize (request.params.getD (.object [])) with
  | ok result => rfl
  | error error => rfl

theorem expectedIds_of_parsed {line : InboundLine} {request : JsonRpcRequest}
    (hparsed : gw.parseRequest line = .ok request) :
    gw.expectedIds (.line line) = request.id.toList := by
  simp only [expectedIds, hparsed]

/-- A line that parses is judged by the request it parses to. -/
theorem misanswers_iff_of_parsed {line : InboundLine} {request : JsonRpcRequest}
    (hparsed : gw.parseRequest line = .ok request) :
    Misanswers gw st (.line line) ↔ st.state.canAcceptMethod request.method = true ∧
      (request.method = "initialize" ∧ request.id = none ∨
        request.method = "notifications/initialized" ∧ request.id ≠ none) := by
  constructor
  · rintro ⟨other, request', heq, haccepts, hkind⟩
    obtain rfl : line = other := by simpa using heq
    obtain rfl : request = request' := by simpa [hparsed] using haccepts.parsed
    exact ⟨haccepts.admitted, hkind⟩
  · rintro ⟨hadmitted, hkind⟩
    exact ⟨line, request, rfl, ⟨hparsed, hadmitted⟩, hkind⟩

/-- The responses to an event carry the expected identifiers, unless it is one of
the lines the loop gets wrong. -/
theorem ids_eq_iff (gw : Gateway) (st : DispatchState) (event : Event) :
    (responses (gw.step st event).2).map JsonRpcResponse.id = gw.expectedIds event ↔
      ¬Misanswers gw st event := by
  have hcase := step_cases gw st event
  generalize gw.step st event = result at hcase ⊢
  cases hcase with
  | replaced hotConfig =>
    refine iff_of_true rfl ?_
    rintro ⟨line, request, heq, -⟩
    cases heq
  | unparsed line message parsed =>
    refine iff_of_true (by simp [expectedIds, parsed]) ?_
    rintro ⟨other, request, heq, haccepts, -⟩
    obtain rfl : line = other := by simpa using heq
    have hparsed := haccepts.parsed
    simp [parsed] at hparsed
  | refused line request parsed refused =>
    rw [expectedIds_of_parsed parsed, misanswers_iff_of_parsed parsed]
    exact iff_of_true (by simp [responses_answer, Function.comp_def]) (by simp [refused])
  | initializeLine line request accepts method =>
    rw [expectedIds_of_parsed accepts.parsed, misanswers_iff_of_parsed accepts.parsed,
      accepts.admitted, method]
    cases hid : request.id <;> simp [initializeArm_ids, hid]
  | initializedLine line request accepts method =>
    rw [expectedIds_of_parsed accepts.parsed, misanswers_iff_of_parsed accepts.parsed,
      accepts.admitted, method]
    cases request.id <;> simp
  | answered line request response accepts method response_id =>
    rw [expectedIds_of_parsed accepts.parsed, misanswers_iff_of_parsed accepts.parsed]
    simp only [List.mem_cons, List.not_mem_nil, or_false, not_or] at method
    refine iff_of_true ?_ (by simp [method.1, method.2.1])
    simp [responses_answer, Function.comp_def, response_id]
  | callNotification line request accepts method notification =>
    rw [expectedIds_of_parsed accepts.parsed, misanswers_iff_of_parsed accepts.parsed]
    exact iff_of_true (by simp [notification]) (by simp [method])
  | unnamedCall line request id effects accepts method id_eq unnamed response silent =>
    rw [expectedIds_of_parsed accepts.parsed, misanswers_iff_of_parsed accepts.parsed]
    exact iff_of_true (by simp [response, id_eq]) (by simp [method])
  | call line id name params isCall callCase =>
    obtain ⟨jsonrpc, hparsed⟩ := isCall.parsed
    rw [expectedIds_of_parsed hparsed, misanswers_iff_of_parsed hparsed, callCase.responses_ids]
    exact iff_of_true rfl (by simp)

/-- A line that does not parse is answered with a parse error. -/
theorem responses_of_unparsed {line : InboundLine} {message : String}
    (hparsed : gw.parseRequest line = .error message) :
    responses (gw.step st (.line line)).2 =
      [.failure .null parseErrorCode ("Parse error: " ++ message)] := by
  simp only [step, processLine, hparsed, responses_respond]

theorem answeredOnce_iff (gw : Gateway) (st : DispatchState) (event : Event) :
    AnsweredOnce gw st event ↔ ¬Misanswers gw st event := by
  rw [← ids_eq_iff]
  constructor
  · exact fun h => h.ids_eq
  · intro h
    refine ⟨h, ?_⟩
    rintro line message rfl hparsed
    exact ⟨_, responses_of_unparsed hparsed⟩

/-- One response per request and none per notification: each event of the session
is answered as it should be before the next one is read, so the identifiers going
out are those that came in, in order. -/
structure RespondsInOrder (gw : Gateway) (initial : DispatchState) (events : List Event) :
    Prop where
  answered : ∀ before event rest, events = before ++ event :: rest →
    AnsweredOnce gw (Runs.after gw.step initial before) event
  outbound_eq : ((Runs.outputs gw.step initial events).flatMap responses).map
    JsonRpcResponse.id = events.flatMap gw.expectedIds

/-- A session in which every event is answered as it should be answers the
requests in their order. -/
theorem outbound_eq_of_answered (gw : Gateway) (initial : DispatchState) (events : List Event)
    (h : ∀ before event rest, events = before ++ event :: rest →
      AnsweredOnce gw (Runs.after gw.step initial before) event) :
    ((Runs.outputs gw.step initial events).flatMap responses).map JsonRpcResponse.id =
      events.flatMap gw.expectedIds := by
  induction events generalizing initial with
  | nil => rfl
  | cons event events ih =>
    have hfirst := (h [] event events rfl).ids_eq
    rw [Runs.after_nil] at hfirst
    rw [Runs.outputs_cons, List.flatMap_cons, List.map_append, List.flatMap_cons, hfirst]
    congr 1
    apply ih
    intro before later rest heq
    exact h (event :: before) later rest (by rw [heq]; rfl)

/-- **Responses.** A session responds in order exactly if it contains no accepted
`initialize` without an identifier and no accepted `notifications/initialized`
with one. -/
theorem respondsInOrder_iff (gw : Gateway) (initial : DispatchState) (events : List Event) :
    RespondsInOrder gw initial events ↔
      ∀ before event rest, events = before ++ event :: rest →
        ¬Misanswers gw (Runs.after gw.step initial before) event := by
  constructor
  · intro h before event rest heq
    exact (answeredOnce_iff gw _ event).mp (h.answered before event rest heq)
  · intro h
    have hanswered : ∀ before event rest, events = before ++ event :: rest →
        AnsweredOnce gw (Runs.after gw.step initial before) event := by
      intro before event rest heq
      exact (answeredOnce_iff gw _ event).mpr (h before event rest heq)
    exact ⟨hanswered, outbound_eq_of_answered gw initial events hanswered⟩

/-- An `initialize` notification is answered, and a `notifications/initialized`
request is not. -/
theorem not_respondsInOrder_handshake :
    let notification := Json.object [("jsonrpc", .string "2.0"),
      ("method", .string "initialize"), ("params", .object [])]
    let request := Json.object [("jsonrpc", .string "2.0"), ("id", .number (.posInt 7)),
      ("method", .string "notifications/initialized")]
    let gw := bare (.ofValues [notification, request])
    let initial := start ⟨{}, .new {}⟩ .new ∅
    let events := [Event.line (.message notification), .line (.message request)]
    (Runs.outputs gw.step initial events).map (fun effects =>
        (responses effects).map JsonRpcResponse.id) = [[.null], []] ∧
      events.map gw.expectedIds = [[], [.number 7]] ∧ ¬RespondsInOrder gw initial events := by
  refine ⟨by decide +kernel, by decide +kernel, ?_⟩
  intro h
  exact absurd (h.answered [] _ _ rfl).ids_eq (by decide +kernel)

end SentinelGateway.Gateway
