import SentinelGateway.Gateway.Handshake

/-!
# Progress of the lifecycle

The lifecycle is meant to move in one direction, from `Created` to `Closed`. The
operational state admits every method, though, `initialize` among them, and the
arm of `initialize` enters `Initializing` from wherever it is. This is the only
step back there is.
-/

namespace SentinelGateway

/-- The place of a state in the order of the lifecycle. -/
def McpState.rank : McpState → ℕ
  | .created => 0
  | .initializing => 1
  | .operational => 2
  | .closed => 3

namespace Gateway

variable {gw : Gateway} {st : DispatchState} {line : InboundLine}

/-- The line is an `initialize` that arrives in the operational state. -/
def Reinitializes (gw : Gateway) (st : DispatchState) (line : InboundLine) : Prop :=
  ∃ request, gw.parseRequest line = .ok request ∧ request.method = "initialize" ∧
    st.state = .operational

/-- The lifecycle of a session makes progress: no line leads to an earlier state,
and once the session is operational every later request for the list of tools or
for a call of a tool is admitted. -/
structure MakesProgress (gw : Gateway) (initial : DispatchState) (events : List Event) :
    Prop where
  rank_le : ∀ before line rest, events = before ++ .line line :: rest →
    (Runs.after gw.step initial before).state.rank ≤
      (gw.step (Runs.after gw.step initial before) (.line line)).1.state.rank
  serves : ∀ before between line rest, events = before ++ between ++ .line line :: rest →
    (Runs.after gw.step initial before).state = .operational →
    ∀ request, gw.parseRequest line = .ok request →
      request.method = "tools/list" ∨ request.method = "tools/call" →
      Accepts gw (Runs.after gw.step initial (before ++ between)) line request

/-- An event that is no second `initialize` leads to no earlier state. -/
theorem rank_le_of_not_reinitializes {event : Event}
    (h : ∀ line, event = .line line → ¬Reinitializes gw st line) (hclosed : st.state ≠ .closed) :
    st.state.rank ≤ (gw.step st event).1.state.rank := by
  rcases step_state_cases gw st event with hsame |
    ⟨line, request, rfl, haccepts, hmethod, hstate⟩ | ⟨line, request, -, -, -, hstate⟩
  · rw [hsame]
  · rw [hstate]
    -- only the first and the operational state admit an `initialize`
    cases hbefore : st.state with
    | created => decide
    | initializing => exact le_rfl
    | operational => exact absurd ⟨request, haccepts.parsed, hmethod, hbefore⟩ (h line rfl)
    | closed => exact absurd hbefore hclosed
  · rw [hstate]
    cases hbefore : st.state with
    | created | initializing | operational => decide
    | closed => exact absurd hbefore hclosed

/-- A second `initialize` leads back. -/
theorem rank_lt_of_reinitializes (h : Reinitializes gw st line) :
    (gw.step st (.line line)).1.state.rank < st.state.rank := by
  obtain ⟨request, hparsed, hmethod, hstate⟩ := h
  have haccepts : Accepts gw st line request := ⟨hparsed, by rw [hstate]; rfl⟩
  have hnext : (gw.step st (.line line)).1.state = .initializing := by
    rw [step_initializeLine haccepts hmethod]
    rfl
  rw [hnext, hstate]
  decide

/-- Without a second `initialize`, an operational session stays operational. -/
theorem operational_after {initial : DispatchState} {events : List Event}
    (hstate : initial.state = .operational)
    (h : ∀ before line rest, events = before ++ .line line :: rest →
      ¬Reinitializes gw (Runs.after gw.step initial before) line) :
    (Runs.after gw.step initial events).state = .operational := by
  induction events using List.reverseRecOn with
  | nil => exact hstate
  | append_singleton events event ih =>
    have hbefore := ih fun before line rest heq => h before line (rest ++ [event]) (by simp [heq])
    rw [Runs.after_concat]
    rcases step_state_cases gw (Runs.after gw.step initial events) event with hsame |
      ⟨line, request, rfl, haccepts, hmethod, -⟩ | ⟨line, request, -, -, -, hnext⟩
    · rw [hsame, hbefore]
    · exact absurd ⟨request, haccepts.parsed, hmethod, hbefore⟩ (h events line [] rfl)
    · exact hnext

/-- **Progress.** The lifecycle of a session makes progress exactly if no
`initialize` arrives in the operational state. -/
theorem makesProgress_iff (gw : Gateway) (hotConfig : HotConfig) (idRemapper : IdRemapper)
    (circuitBreakers : Table String CircuitBreaker) (events : List Event) :
    MakesProgress gw (start hotConfig idRemapper circuitBreakers) events ↔
      ∀ before line rest, events = before ++ .line line :: rest → ¬Reinitializes gw
        (Runs.after gw.step (start hotConfig idRemapper circuitBreakers) before) line := by
  constructor
  · intro h before line rest heq hagain
    have hle := h.rank_le before line rest heq
    have hlt := rank_lt_of_reinitializes hagain
    omega
  · intro h
    refine ⟨?_, ?_⟩
    · intro before line rest heq
      apply rank_le_of_not_reinitializes
      · rintro _ ⟨rfl⟩
        exact h before line rest heq
      · exact (lifecycleSound_after gw hotConfig idRemapper circuitBreakers before).not_closed
    · intro before between line rest heq hstate request hparsed _
      have hlater : (Runs.after gw.step (start hotConfig idRemapper circuitBreakers)
          (before ++ between)).state = .operational := by
        rw [Runs.after_append]
        apply operational_after hstate
        intro earlier other later hbetween
        rw [← Runs.after_append]
        exact h (before ++ earlier) other (later ++ .line line :: rest) (by simp [heq, hbetween])
      refine ⟨hparsed, ?_⟩
      rw [hlater]
      rfl

/-- A client that repeats its `initialize` in an operational session is locked out
of the tools until it completes the handshake again. -/
theorem not_makesProgress_second_initialize :
    let listing := Json.object [("jsonrpc", .string "2.0"), ("id", .number (.posInt 2)),
      ("method", .string "tools/list")]
    let gw := bare (.ofValues (handshakeMessages ++ [listing]))
    let initial := start ⟨{}, .new {}⟩ .new ∅
    let events := handshake ++ [.line (.message initializeMessage), .line (.message listing)]
    ((Runs.outputs gw.step initial events).flatMap responses).map
        (fun response => response.error.map JsonRpcError.code) =
        [none, none, some notInitializedCode] ∧
      ¬MakesProgress gw initial events := by
  intro listing gw initial events
  refine ⟨by decide +kernel, ?_⟩
  intro h
  have hle := h.rank_le handshake (.message initializeMessage) _ rfl
  exact absurd hle (by decide +kernel)

end Gateway

end SentinelGateway
