import SentinelGateway.Gateway.Steps
import SentinelGateway.Library.Runs

/-!
# The handshake

Only two kinds of lines move the lifecycle: an accepted `initialize` and an
accepted `notifications/initialized`. A session is operational after one of each
in this order. An `initialize` moves the lifecycle even if its handler fails, and
that is the one way to become operational without a successful handshake.
-/

namespace SentinelGateway.Gateway

variable {gw : Gateway} {st : DispatchState} {line : InboundLine}

/-- The event is a line that carries a request of the given method. -/
def HasMethod (gw : Gateway) (method : String) (event : Event) : Prop :=
  ∃ line request, event = .line line ∧ gw.parseRequest line = .ok request ∧
    request.method = method

/-- The events contain an `initialize` line and, after it, a
`notifications/initialized` line. -/
def HandshakeSeen (gw : Gateway) (events : List Event) : Prop :=
  ∃ first second, [first, second].Sublist events ∧ gw.HasMethod "initialize" first ∧
    gw.HasMethod "notifications/initialized" second

/-- No call of a tool moves the lifecycle. -/
theorem CallCase.state_eq {id : JsonRpcId} {name : String} {params : Option Json}
    {result : DispatchState × List Effect} (h : CallCase gw st line id name params result) :
    result.1.state = st.state := by
  cases h with
  | refused rejection policy code unchanged =>
    rcases unchanged with rfl | rfl
    · rfl
    · rfl
  | circuitOpen => exact afterGates_state gw st line name
  | unserved => exact afterGates_state gw st line name
  | sent => exact afterGates_state gw st line name

/-- The lifecycle moves on an accepted `initialize`, on an accepted
`notifications/initialized`, and on nothing else. -/
theorem step_state_cases (gw : Gateway) (st : DispatchState) (event : Event) :
    (gw.step st event).1.state = st.state ∨
      (∃ line request, event = .line line ∧ Accepts gw st line request ∧
        request.method = "initialize" ∧ (gw.step st event).1.state = .initializing) ∨
      ∃ line request, event = .line line ∧ Accepts gw st line request ∧
        request.method = "notifications/initialized" ∧
          (gw.step st event).1.state = .operational := by
  have hcase := step_cases gw st event
  generalize gw.step st event = result at hcase ⊢
  cases hcase with
  | replaced | unparsed | refused | answered | callNotification | unnamedCall => exact Or.inl rfl
  | initializeLine line request accepts method =>
    exact Or.inr (Or.inl ⟨line, request, rfl, accepts, method, rfl⟩)
  | initializedLine line request accepts method =>
    exact Or.inr (Or.inr ⟨line, request, rfl, accepts, method, rfl⟩)
  | call line id name params isCall callCase => exact Or.inl callCase.state_eq

/-- What the lifecycle state tells about the events read so far. -/
structure LifecycleSound (gw : Gateway) (events : List Event) (state : McpState) : Prop where
  initializing : state = .initializing → ∃ event ∈ events, gw.HasMethod "initialize" event
  operational : state = .operational → HandshakeSeen gw events
  not_closed : state ≠ .closed

/-- More events do not undo what was seen. -/
theorem LifecycleSound.concat {events : List Event} {state : McpState}
    (h : LifecycleSound gw events state) (event : Event) :
    LifecycleSound gw (events ++ [event]) state where
  initializing := by
    intro hstate
    obtain ⟨first, hmem, hfirst⟩ := h.initializing hstate
    exact ⟨first, List.mem_append_left _ hmem, hfirst⟩
  operational := by
    intro hstate
    obtain ⟨first, second, hsub, hfirst, hsecond⟩ := h.operational hstate
    exact ⟨first, second, hsub.trans (List.sublist_append_left _ _), hfirst, hsecond⟩
  not_closed := h.not_closed

/-- In every session, the lifecycle state is explained by the lines read. -/
theorem lifecycleSound_after (gw : Gateway) (hotConfig : HotConfig) (idRemapper : IdRemapper)
    (circuitBreakers : Table String CircuitBreaker) (events : List Event) :
    LifecycleSound gw events
      (Runs.after gw.step (start hotConfig idRemapper circuitBreakers) events).state := by
  refine Runs.run_induction gw.step (motive := fun events st _ =>
    LifecycleSound gw events st.state) ⟨?_, ?_, ?_⟩ ?_ events
  · simp [start]
  · simp [start]
  · simp [start]
  intro events event ih
  rcases step_state_cases gw _ event with hsame |
    ⟨line, request, rfl, haccepts, hmethod, hstate⟩ |
    ⟨line, request, rfl, haccepts, hmethod, hstate⟩
  · rw [hsame]
    exact ih.concat event
  · rw [hstate]
    refine ⟨?_, by simp, by simp⟩
    intro _
    exact ⟨.line line, by simp, line, request, rfl, haccepts.parsed, hmethod⟩
  · rw [hstate]
    refine ⟨by simp, ?_, by simp⟩
    intro _
    have hsecond : gw.HasMethod "notifications/initialized" (.line line) :=
      ⟨line, request, rfl, haccepts.parsed, hmethod⟩
    have hadmitted := haccepts.admitted
    rw [hmethod] at hadmitted
    cases hbefore :
        (Runs.after gw.step (start hotConfig idRemapper circuitBreakers) events).state with
    | created =>
      rw [hbefore] at hadmitted
      simp [McpState.canAcceptMethod] at hadmitted
    | closed => exact absurd hbefore ih.not_closed
    | operational => exact (ih.concat (.line line)).operational hbefore
    | initializing =>
      obtain ⟨first, hmem, hfirst⟩ := ih.initializing hbefore
      refine ⟨first, .line line, ?_, hfirst, hsecond⟩
      exact (List.singleton_sublist.mpr hmem).append (List.Sublist.refl [Event.line line])

/-- The line is an `initialize` that is accepted and whose handler fails. -/
def FailsInitialize (gw : Gateway) (st : DispatchState) (line : InboundLine) : Prop :=
  ∃ request error, Accepts gw st line request ∧ request.method = "initialize" ∧
    handleInitialize gw.decodeInitialize (request.params.getD (.object [])) = .error error

/-- Among the events is an `initialize` line that was answered with a success. -/
def SuccessSeen (gw : Gateway) (initial : DispatchState) (events : List Event) : Prop :=
  ∃ before line rest, events = before ++ .line line :: rest ∧
    gw.HasMethod "initialize" (.line line) ∧
    ∃ id result, responses (gw.step (Runs.after gw.step initial before) (.line line)).2 =
      [.success id result]

/-- No service without a successful handshake: a line is processed in the
operational state only after a successful `initialize`, and an `initialize` whose
handler fails leaves the lifecycle as it was. -/
structure RequiresHandshake (gw : Gateway) (initial : DispatchState) (events : List Event) :
    Prop where
  operational : ∀ before line rest, events = before ++ .line line :: rest →
    (Runs.after gw.step initial before).state = .operational → SuccessSeen gw initial before
  failure_keeps_state : ∀ before line rest, events = before ++ .line line :: rest →
    FailsInitialize gw (Runs.after gw.step initial before) line →
      (gw.step (Runs.after gw.step initial before) (.line line)).1.state =
        (Runs.after gw.step initial before).state

theorem SuccessSeen.concat {initial : DispatchState} {events : List Event}
    (h : SuccessSeen gw initial events) (event : Event) :
    SuccessSeen gw initial (events ++ [event]) := by
  obtain ⟨before, line, rest, heq, hseen⟩ := h
  exact ⟨before, line, rest ++ [event], by simp [heq], hseen⟩

/-- The arm of an accepted `initialize`. -/
theorem step_initializeLine {request : JsonRpcRequest} (haccepts : Accepts gw st line request)
    (hmethod : request.method = "initialize") :
    gw.step st (.line line) = gw.initializeArm st request := by
  rw [step_of_accepts haccepts, dispatch, if_pos hmethod]

/-- As long as no `initialize` fails, leaving the first state takes a success. -/
theorem successSeen_of_no_failure (gw : Gateway) (hotConfig : HotConfig) (idRemapper : IdRemapper)
    (circuitBreakers : Table String CircuitBreaker) (events : List Event)
    (h : ∀ before line rest, events = before ++ .line line :: rest → ¬FailsInitialize gw
      (Runs.after gw.step (start hotConfig idRemapper circuitBreakers) before) line) :
    (Runs.after gw.step (start hotConfig idRemapper circuitBreakers) events).state ≠ .created →
      SuccessSeen gw (start hotConfig idRemapper circuitBreakers) events := by
  induction events using List.reverseRecOn with
  | nil => simp [start]
  | append_singleton events event ih =>
    have hearlier := ih fun before line rest heq => h before line (rest ++ [event]) (by simp [heq])
    rw [Runs.after_concat]
    intro hstate
    rcases step_state_cases gw _ event with hsame |
      ⟨line, request, rfl, haccepts, hmethod, -⟩ | ⟨line, request, rfl, haccepts, hmethod, -⟩
    · rw [hsame] at hstate
      exact (hearlier hstate).concat event
    · have hok := h events line [] rfl
      cases hhandle : handleInitialize gw.decodeInitialize (request.params.getD (.object [])) with
      | error error => exact absurd ⟨request, error, haccepts, hmethod, hhandle⟩ hok
      | ok result =>
        refine ⟨events, line, [], rfl, ⟨line, request, rfl, haccepts.parsed, hmethod⟩,
          request.id.getD .null, result, ?_⟩
        rw [step_initializeLine haccepts hmethod]
        simp only [initializeArm, hhandle, responses_respond]
    · refine (hearlier ?_).concat _
      intro hcreated
      have hadmitted := haccepts.admitted
      rw [hmethod, hcreated] at hadmitted
      simp [McpState.canAcceptMethod] at hadmitted

/-- **Handshake.** A session requires its handshake exactly if none of its
accepted `initialize` lines has parameters that the decoder rejects. -/
theorem requiresHandshake_iff (gw : Gateway) (hotConfig : HotConfig) (idRemapper : IdRemapper)
    (circuitBreakers : Table String CircuitBreaker) (events : List Event) :
    RequiresHandshake gw (start hotConfig idRemapper circuitBreakers) events ↔
      ∀ before line rest, events = before ++ .line line :: rest → ¬FailsInitialize gw
        (Runs.after gw.step (start hotConfig idRemapper circuitBreakers) before) line := by
  constructor
  · intro h before line rest heq hfails
    have hkept := h.failure_keeps_state before line rest heq hfails
    obtain ⟨request, error, haccepts, hmethod, -⟩ := hfails
    rw [step_initializeLine haccepts hmethod] at hkept
    -- the state was `initializing` all along, which does not admit the method
    have hadmitted := haccepts.admitted
    rw [hmethod, ← hkept] at hadmitted
    simp [initializeArm, McpState.canAcceptMethod] at hadmitted
  · intro h
    refine ⟨?_, fun before line rest heq hfails => absurd hfails (h before line rest heq)⟩
    intro before line rest heq hstate
    apply successSeen_of_no_failure
    · intro earlier other between hbefore
      exact h earlier other (between ++ .line line :: rest) (by simp [heq, hbefore])
    · simp [hstate]

/-- A client whose `initialize` was answered with an error goes on as if nothing
had happened, and its next request is processed in the operational state. -/
theorem not_requiresHandshake_failed_initialize :
    let empty := Json.object [("jsonrpc", .string "2.0"), ("id", .number (.posInt 1)),
      ("method", .string "initialize"), ("params", .object [])]
    let listing := Json.object [("jsonrpc", .string "2.0"), ("id", .number (.posInt 2)),
      ("method", .string "tools/list")]
    let gw := bare (.ofValues [empty, initializedMessage, listing])
    let initial := start ⟨{}, .new {}⟩ .new ∅
    let handshake := [Event.line (.message empty), .line (.message initializedMessage)]
    (Runs.after gw.step initial handshake).state = .operational ∧
      ((Runs.outputs gw.step initial handshake).flatMap responses).all
        (fun response => response.error.isSome) = true ∧
      ¬RequiresHandshake gw initial (handshake ++ [.line (.message listing)]) := by
  intro empty listing gw initial handshake
  refine ⟨by decide +kernel, by decide +kernel, ?_⟩
  intro h
  have hkept := h.failure_keeps_state [] (.message empty) _ rfl ⟨_, _, ⟨rfl, rfl⟩, rfl, rfl⟩
  exact absurd hkept (by decide +kernel)

end SentinelGateway.Gateway
