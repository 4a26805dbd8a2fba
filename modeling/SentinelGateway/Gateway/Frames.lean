import SentinelGateway.Gateway.Outcomes

/-!
# What a rejected call leaves alone

The gates read and write state in turn: the limiter counts, a breaker may move to
half-open, the remapper hands out an identifier. A call that is turned away
early must not have been noticed by what comes later. For every exit of the
`tools/call` arm this file says which components differ afterwards.
-/

namespace SentinelGateway

/-- Of the limiter, the breakers, the remapper and the lifecycle, at most the
bucket of one key differs. -/
structure DiffersOnlyAt (key : String × String) (st after : DispatchState) : Prop where
  state : after.state = st.state
  idRemapper : after.idRemapper = st.idRemapper
  circuitBreakers : ∀ backendName,
    after.circuitBreakers.lookup backendName = st.circuitBreakers.lookup backendName
  killSwitch : after.hotConfig.killSwitch = st.hotConfig.killSwitch
  defaultRpm : after.hotConfig.rateLimiter.defaultRpm = st.hotConfig.rateLimiter.defaultRpm
  perTool : after.hotConfig.rateLimiter.perTool = st.hotConfig.rateLimiter.perTool
  buckets : ∀ other, other ≠ key → after.hotConfig.rateLimiter.buckets.lookup other =
    st.hotConfig.rateLimiter.buckets.lookup other

/-- The bucket of the key is left without tokens, and nothing else differs. -/
structure LeavesEmpty (client tool : String) (st after : DispatchState) : Prop where
  rest : DiffersOnlyAt (client, tool) st after
  bucket : ∃ bucket, after.hotConfig.rateLimiter.buckets.lookup (client, tool) = some bucket ∧
    bucket.tokens = 0

/-- One token is taken from the bucket of the key, after the refill that was due,
and nothing else differs. -/
structure TakesOneToken (client tool : String) (now : Instant) (st after : DispatchState) :
    Prop where
  rest : DiffersOnlyAt (client, tool) st after
  available : 0 < ((st.hotConfig.rateLimiter.bucketFor client tool now).refill now).tokens
  bucket : after.hotConfig.rateLimiter.buckets.lookup (client, tool) =
    some { (st.hotConfig.rateLimiter.bucketFor client tool now).refill now with
      tokens := ((st.hotConfig.rateLimiter.bucketFor client tool now).refill now).tokens - 1 }

namespace Gateway

variable {gw : Gateway} {st : DispatchState} {line : InboundLine} {id : JsonRpcId}
  {name : String} {params : Option Json}

/-- Counting a call touches the bucket of the caller and the tool. -/
theorem differsOnlyAt_afterCheck (gw : Gateway) (st : DispatchState) (line : InboundLine)
    (name : String) :
    DiffersOnlyAt (gw.identity.subject, name) st (gw.afterCheck st line name) where
  state := rfl
  idRemapper := rfl
  circuitBreakers := fun _ => rfl
  killSwitch := rfl
  defaultRpm := rfl
  perTool := rfl
  buckets := fun _ hne => RateLimiter.check_lookup_of_ne hne line.checkedAt

/-- A call the limiter refuses finds its bucket empty. -/
theorem leavesEmpty_afterCheck
    (h : (st.hotConfig.rateLimiter.check gw.identity.subject name line.checkedAt).2 ≠ .ok ()) :
    LeavesEmpty gw.identity.subject name st (gw.afterCheck st line name) := by
  refine ⟨differsOnlyAt_afterCheck gw st line name, ?_⟩
  rcases st.hotConfig.rateLimiter.check_lookup_self gw.identity.subject name line.checkedAt with
    ⟨hok, -⟩ | ⟨-, hempty, hlookup⟩
  · exact absurd hok h
  · exact ⟨_, hlookup, hempty⟩

/-- A call the limiter lets pass costs one token. -/
theorem takesOneToken_afterCheck
    (h : (st.hotConfig.rateLimiter.check gw.identity.subject name line.checkedAt).2 = .ok ()) :
    TakesOneToken gw.identity.subject name line.checkedAt st (gw.afterCheck st line name) := by
  rcases st.hotConfig.rateLimiter.check_lookup_self gw.identity.subject name line.checkedAt with
    ⟨-, hpos, hlookup⟩ | ⟨herror, -⟩
  · exact ⟨differsOnlyAt_afterCheck gw st line name, hpos, hlookup⟩
  · exact absurd h herror

/-- The hot configuration after all gates is that after the limiter. -/
theorem afterGates_hotConfig (gw : Gateway) (st : DispatchState) (line : InboundLine)
    (name : String) :
    (gw.afterGates st line name).hotConfig = (gw.afterCheck st line name).hotConfig := by
  rw [afterGates, (circuitGate_spec _ _ _ _).1]

/-- When the circuit gate leaves the breakers as they are, so does the whole chain
of gates, and the call has cost its token. -/
theorem takesOneToken_afterGates
    (hcheck : (st.hotConfig.rateLimiter.check gw.identity.subject name line.checkedAt).2 = .ok ())
    (hbreakers : ∀ backendName cb, gw.catalog.route name = some backendName →
      st.circuitBreakers.lookup backendName = some cb → (cb.allowRequest line.allowedAt).1 = cb) :
    TakesOneToken gw.identity.subject name line.checkedAt st (gw.afterGates st line name) := by
  obtain ⟨hrest, hpos, hbucket⟩ := takesOneToken_afterCheck hcheck
  have hhot := afterGates_hotConfig gw st line name
  refine ⟨⟨afterGates_state gw st line name, afterGates_idRemapper gw st line name, ?_, ?_, ?_, ?_,
    ?_⟩, hpos, ?_⟩
  · intro backendName
    rw [afterGates_lookup]
    split_ifs with hroute
    · cases hlookup : st.circuitBreakers.lookup backendName with
      | none => rfl
      | some cb => rw [Option.map_some, hbreakers backendName cb hroute hlookup]
    · rfl
  · rw [hhot]
    exact hrest.killSwitch
  · rw [hhot]
    exact hrest.defaultRpm
  · rw [hhot]
    exact hrest.perTool
  · rw [hhot]
    exact hrest.buckets
  · rw [hhot]
    exact hbucket

/-- What a call rejected by the gates leaves behind, by the status it is rejected
under. -/
def RejectedFrame (gw : Gateway) (st : DispatchState) (line : InboundLine) (name : String)
    (after : DispatchState) : CallStatus → Prop
  | .killed => after = st
  | .rateLimited => LeavesEmpty gw.identity.subject name st after
  | .denied | .invalidArgs | .circuitOpen =>
    TakesOneToken gw.identity.subject name line.checkedAt st after
  | .error | .success => False

/-- Each gate that rejects a call leaves the components of the later ones alone. -/
theorem passGates_rejectedFrame {rejection : Rejection}
    (h : (gw.passGates st line name params).2 = some rejection) :
    RejectedFrame gw st line name (gw.passGates st line name params).1 rejection.status := by
  have hcase := passGates_cases gw st line name params
  generalize gw.passGates st line name params = result at hcase h ⊢
  cases hcase with
  | killed other gate =>
    rw [(reports_of_killSwitchGate (gate.trans h)).status_eq]
    exact rfl
  | rateLimited other enabled gate =>
    rw [(reports_of_rateLimitGate (gate.trans h)).status_eq]
    apply leavesEmpty_afterCheck
    intro hok
    rw [(rateLimitGate_eq_none_iff _).mpr hok] at gate
    cases gate
  | denied other enabled rate_ok gate =>
    rw [(reports_of_rbacGate (gate.trans h)).status_eq]
    exact takesOneToken_afterCheck rate_ok
  | invalidArgs other enabled rate_ok gate =>
    rw [(reports_of_schemaGate (gate.trans h)).status_eq]
    exact takesOneToken_afterCheck rate_ok
  | circuit policy =>
    rw [(reports_of_circuitGate h).status_eq]
    apply takesOneToken_afterGates policy.rate_ok
    intro backendName cb hroute hbreaker
    -- the gate rejected, so it was this breaker that refused
    rcases (circuitGate_spec gw (gw.afterCheck st line name) name line.allowedAt).2.2 with
      ⟨routed, other, hrouted, hother, hrefused, -⟩ | ⟨-, hnone⟩
    · obtain rfl : backendName = routed := by simpa [hroute] using hrouted
      obtain rfl : cb = other := by
        have hsame : st.circuitBreakers.lookup backendName = some other := hother
        simpa [hbreaker] using hsame
      exact cb.allowRequest_of_refused hrefused
    · rw [hnone] at h
      cases h

/-- **Frame of rejected calls.** A call without a tool name and a call rejected by
the kill switch change nothing. A rate-limited call leaves its own bucket without
tokens and everything else as it was. A call turned away later, also one of a tool
no backend has, takes one token from its own bucket and changes nothing else. -/
theorem rejected_call_frame (h : IsToolsCall gw st line id params) :
    (toolName params = none → (gw.step st (.line line)).1 = st) ∧
    ∀ name, toolName params = some name →
      (∀ rejection, (gw.passGates st line name params).2 = some rejection →
        RejectedFrame gw st line name (gw.step st (.line line)).1 rejection.status) ∧
      ((gw.passGates st line name params).2 = none → gw.catalog.route name = none →
        TakesOneToken gw.identity.subject name line.checkedAt st
          (gw.step st (.line line)).1) := by
  rw [step_of_isToolsCall h]
  refine ⟨fun hname => (toolsCall_of_unnamed gw st line id hname).1, ?_⟩
  intro name hname
  have hgated := gated_of_named gw st line hname
  rcases toolsCall_eq gw st line id params with ⟨called, rejected, hcalled, hpass, heq⟩ |
    ⟨hpass, heq⟩
  · obtain rfl : name = called := by simpa [hname] using hcalled
    refine ⟨?_, fun hnone => by simp [hpass] at hnone⟩
    intro rejection hrejection
    rw [heq, hgated]
    exact passGates_rejectedFrame hrejection
  · have hnone := hpass name hname
    refine ⟨fun rejection hrejection => by simp [hnone] at hrejection, ?_⟩
    intro _ hroute
    have hunserved : ∀ called backendName, toolName params = some called →
        gw.catalog.route called = some backendName → gw.backends.lookup backendName = none := by
      rintro called backendName hcalled hrouted
      obtain rfl : name = called := by simpa [hname] using hcalled
      simp [hroute] at hrouted
    rw [heq, (backendDispatch_spec gw _ line id params).1,
      handleToolsCall_of_unserved _ line id hunserved, hgated]
    have hcase := passGates_cases gw st line name params
    generalize gw.passGates st line name params = result at hcase hnone ⊢
    cases hcase with
    | killed | rateLimited | denied | invalidArgs => cases hnone
    | circuit policy =>
      exact takesOneToken_afterGates policy.rate_ok fun backendName _ hrouted =>
        by simp [hroute] at hrouted

/-- A call of a tool no backend has costs its token and nothing else. -/
theorem rejected_call_frame_unknown_tool :
    let gw := Gateway.bare (.ofValues [queryMessage])
    let st : DispatchState :=
      { state := .operational
        hotConfig := { killSwitch := {}, rateLimiter := RateLimiter.new { defaultRpm := 2 } }
        idRemapper := .new
        circuitBreakers := ∅ }
    IsToolsCall gw st (.message queryMessage) (.number 7)
        (some (.object [("name", .string "query")])) ∧
      TakesOneToken "admin" "query" 0 st (gw.step st (.line (.message queryMessage))).1 := by
  intro gw st
  have hcall : IsToolsCall gw st (.message queryMessage) (.number 7)
      (some (.object [("name", .string "query")])) := ⟨⟨"2.0", rfl⟩, rfl⟩
  have hpass : (gw.passGates st (.message queryMessage) "query"
      (some (.object [("name", .string "query")]))).2 = none :=
    Option.isNone_iff_eq_none.mp (by decide +kernel)
  exact ⟨hcall, ((rejected_call_frame hcall).2 "query" rfl).2 hpass rfl⟩

end Gateway

end SentinelGateway
