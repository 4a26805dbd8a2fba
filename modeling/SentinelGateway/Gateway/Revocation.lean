import SentinelGateway.Gateway.Locking
import SentinelGateway.Gateway.Mediation
import SentinelGateway.Gateway.Reloading

/-!
# When the kill switch takes effect

The kill switch is there to stop a tool at once. The dispatch loop reads it under the
guard of the hot configuration and lets go of the guard before it calls the backend, so a
call that has passed may still be on its way when the switch is thrown. There is never
more than one, and no other follows as long as the tool stays switched off.
-/

namespace SentinelGateway

/-- The calls of a tool among the effects. -/
def callsSent (name : String) (effects : List Effect) : ℕ :=
  (sends effects).countP fun send => toolName (send.2.2.get "params") = some name

theorem callsSent_append (name : String) (effects more : List Effect) :
    callsSent name (effects ++ more) = callsSent name effects + callsSent name more := by
  rw [callsSent, sends_append, List.countP_append, callsSent, callsSent]

theorem callsSent_of_silent {effects : List Effect} (h : sends effects = []) (name : String) :
    callsSent name effects = 0 := by
  rw [callsSent, h]
  rfl

namespace LinePhase

/-- The tool of a call that the kill switch has let pass and that is not sent yet. -/
def admittedTool : LinePhase → Option String
  | .limiting call | .admitted call | .breaking call => some call.name
  | .dispatching _ _ params => toolName params
  | _ => none

/-- A call of the tool is on its way. -/
def underWay (name : String) (phase : LinePhase) : ℕ :=
  if phase.admittedTool = some name then 1 else 0

/-- What the loop can rely on: a call has the name that its parameters have, and what is
left to be handed over is for no backend. -/
def Sound : LinePhase → Prop
  | .arriving call | .guarded call | .limiting call | .admitted call | .breaking call =>
    toolName call.params = some call.name
  | .emitting _ effects => sends effects = []
  | _ => True

end LinePhase

namespace Gateway

variable {gw : Gateway} {st : DispatchState} {line : InboundLine} {name : String}

/-- The tool is switched off, by itself or with its backend. -/
def Revoked (gw : Gateway) (name : String) (killSwitch : KillSwitchConfig) : Prop :=
  (gw.killSwitchGate killSwitch name).isSome

/-- What is answered without a call of a tool is for no backend, and leaves the
configuration alone. -/
theorem dispatch_silent {request : JsonRpcRequest} (h : Accepts gw st line request)
    (hmethod : request.method ≠ "tools/call") :
    sends (gw.dispatch st line request).2 = [] ∧
      (gw.dispatch st line request).1.hotConfig = st.hotConfig := by
  rw [← step_of_accepts h]
  refine ⟨?_, ?_⟩
  · rcases send_cases gw st (.line line) with ⟨hsilent, -⟩ |
      ⟨other, id, name, params, _, _, hother, hcalled, -⟩
    · exact hsilent
    · obtain rfl := Event.line.inj hother
      obtain ⟨jsonrpc, hcalled⟩ := hcalled.parsed
      rw [h.parsed, Except.ok.injEq] at hcalled
      exact absurd (congrArg JsonRpcRequest.method hcalled) hmethod
  · have hcounted : gw.countedTool st line = none := by
      simp [countedTool, calledTool, h.parsed, hmethod]
    rw [hotConfig_step, hcounted]

/-- Nothing is under way about a line that is taken up. -/
theorem begin_sound (gw : Gateway) (st : DispatchState) (line : InboundLine) :
    (gw.begin st line).2.Sound ∧ (gw.begin st line).1.hotConfig = st.hotConfig ∧
      ∀ name, (gw.begin st line).2.underWay name = 0 := by
  cases hparsed : gw.parseRequest line with
  | error message =>
    simp only [begin, hparsed]
    exact ⟨rfl, trivial, fun _ => rfl⟩
  | ok request =>
    cases hadmitted : st.state.canAcceptMethod request.method with
    | false =>
      simp only [begin, hparsed, hadmitted, Bool.false_eq_true, if_false]
      exact ⟨sends_answer request _, trivial, fun _ => rfl⟩
    | true =>
      have haccepts : Accepts gw st line request := ⟨hparsed, hadmitted⟩
      rw [begin_eq haccepts]
      by_cases hlist : request.method = "tools/list"
      · rw [if_pos hlist]
        cases request.id with
        | none => exact ⟨rfl, rfl, fun _ => rfl⟩
        | some id => exact ⟨trivial, rfl, fun _ => rfl⟩
      rw [if_neg hlist]
      by_cases hcall : request.method = "tools/call"
      · rw [if_pos hcall]
        cases request.id with
        | none => exact ⟨rfl, rfl, fun _ => rfl⟩
        | some id =>
          cases hname : toolName request.params with
          | none =>
            refine ⟨trivial, rfl, fun name => ?_⟩
            simp [LinePhase.underWay, LinePhase.admittedTool, hname]
          | some name => exact ⟨hname, rfl, fun _ => rfl⟩
      · rw [if_neg hcall]
        obtain ⟨hsilent, hkept⟩ := dispatch_silent haccepts hcall
        exact ⟨hsilent, hkept, fun _ => rfl⟩

/-- A report is for no backend. -/
theorem sends_report (line : InboundLine) (params : Option Json) (response : JsonRpcResponse) :
    sends (gw.report line params response) = [] := by
  unfold report
  split_ifs <;> rfl

/-- What a gate does: it lets the call go on, or what is left is an answer. -/
theorem afterGate_cases {call : NamedCall} {underGuard : Bool} {next phase : LinePhase}
    {result : DispatchState × Option Rejection} {state : DispatchState} {effects : List Effect}
    (h : gw.afterGate call underGuard next result = (state, phase, effects)) :
    state = result.1 ∧ effects = [] ∧ (phase = next ∧ result.2 = none ∨
      phase.Sound ∧ ∀ name, phase.underWay name = 0) := by
  obtain ⟨after, _ | rejection⟩ := result
  · cases h
    exact ⟨rfl, rfl, Or.inl ⟨rfl, rfl⟩⟩
  · cases h
    exact ⟨rfl, rfl, Or.inr ⟨sends_reject rejection, fun _ => rfl⟩⟩

/-- Where the call of a backend leads, and what is sent. -/
theorem callBackend_accounts {id : JsonRpcId} {params : Option Json} {state : DispatchState}
    {phase : LinePhase} {effects : List Effect}
    (h : gw.callBackend st line id params = (state, phase, effects)) (name : String) :
    phase.Sound ∧ state.hotConfig = st.hotConfig ∧
      callsSent name effects + phase.underWay name ≤
        (LinePhase.dispatching line id params).underWay name := by
  have hreport (response : JsonRpcResponse) :
      (LinePhase.emitting false (gw.report line params response)).Sound :=
    sends_report line params response
  unfold callBackend at h
  cases htool : toolName params with
  | none =>
    simp only [htool] at h
    cases h
    exact ⟨hreport _, rfl, Nat.zero_le _⟩
  | some tool =>
    simp only [htool] at h
    cases hroute : gw.catalog.route tool with
    | none =>
      simp only [hroute] at h
      cases h
      exact ⟨hreport _, rfl, Nat.zero_le _⟩
    | some backendName =>
      simp only [hroute] at h
      cases hbackend : gw.backends.lookup backendName with
      | none =>
        simp only [hbackend] at h
        cases h
        exact ⟨hreport _, rfl, Nat.zero_le _⟩
      | some backend =>
        simp only [hbackend] at h
        cases h
        refine ⟨trivial, rfl, ?_⟩
        -- the request carries the parameters of the call, and with them its name
        simp [callsSent, sends, Effect.send?, get_params_outboundRequest htool, htool,
          LinePhase.underWay, LinePhase.admittedTool]

/-- A step of the loop keeps what it can rely on and the kill switch. While a tool is
switched off, a call of it that is sent was under way before. -/
theorem advance_accounts {phase next : LinePhase} {state : DispatchState}
    {effects : List Effect} (hsound : phase.Sound)
    (h : gw.advance st phase = some (state, next, effects)) :
    next.Sound ∧ state.hotConfig.killSwitch = st.hotConfig.killSwitch ∧
      ∀ name, gw.Revoked name st.hotConfig.killSwitch →
        callsSent name effects + next.underWay name ≤ phase.underWay name := by
  cases phase with
  | receiving | listing | arriving => cases h
  | filtering id =>
    cases h
    exact ⟨rfl, rfl, fun _ _ => Nat.zero_le _⟩
  | guarded call =>
    obtain ⟨rfl, rfl, ⟨rfl, hpassed⟩ | ⟨hnext, hnone⟩⟩ := afterGate_cases (Option.some.inj h)
    · refine ⟨hsound, rfl, ?_⟩
      intro name hrevoked
      have hother : call.name ≠ name := by
        rintro rfl
        change gw.killSwitchGate _ _ = none at hpassed
        rw [Revoked, hpassed] at hrevoked
        cases hrevoked
      simp [callsSent, LinePhase.underWay, LinePhase.admittedTool, hother]
    · exact ⟨hnext, rfl, fun name _ => by rw [hnone]; exact Nat.zero_le _⟩
  | limiting call =>
    obtain ⟨rfl, rfl, ⟨rfl, -⟩ | ⟨hnext, hnone⟩⟩ := afterGate_cases (Option.some.inj h)
    · exact ⟨hsound, rfl, fun name _ => (Nat.zero_add _).le⟩
    · exact ⟨hnext, rfl, fun name _ => by rw [hnone]; exact Nat.zero_le _⟩
  | admitted call =>
    obtain ⟨rfl, rfl, ⟨rfl, -⟩ | ⟨hnext, hnone⟩⟩ := afterGate_cases (Option.some.inj h)
    · exact ⟨hsound, rfl, fun name _ => (Nat.zero_add _).le⟩
    · exact ⟨hnext, rfl, fun name _ => by rw [hnone]; exact Nat.zero_le _⟩
  | breaking call =>
    have hkept : (gw.circuitGate st call.name call.line.allowedAt).1.hotConfig = st.hotConfig := by
      rw [(circuitGate_spec gw st call.name call.line.allowedAt).1]
    obtain ⟨rfl, rfl, ⟨rfl, -⟩ | ⟨hnext, hnone⟩⟩ := afterGate_cases (Option.some.inj h)
    · have hnamed : toolName call.params = some call.name := hsound
      refine ⟨trivial, by rw [hkept], fun name _ => ?_⟩
      simp [callsSent, LinePhase.underWay, LinePhase.admittedTool, hnamed]
    · exact ⟨hnext, by rw [hkept], fun name _ => by rw [hnone]; exact Nat.zero_le _⟩
  | dispatching line id params =>
    have hcall (name : String) := callBackend_accounts (Option.some.inj h) name
    refine ⟨(hcall "").1, by rw [(hcall "").2.1], fun name _ => (hcall name).2.2⟩
  | calling line params backendName gatewayId =>
    have hkept : (gw.settleCall st line backendName gatewayId).1.hotConfig = st.hotConfig :=
      congrArg (fun settled => settled.1.hotConfig)
        (settleCall_hotConfig gw st line backendName gatewayId st.hotConfig)
    cases h
    exact ⟨sends_report line params _, congrArg HotConfig.killSwitch hkept,
      fun _ _ => Nat.zero_le _⟩
  | emitting underGuard left =>
    cases left with
    | nil =>
      cases h
      exact ⟨trivial, rfl, fun _ _ => Nat.zero_le _⟩
    | cons effect left =>
      cases h
      have hsilent : sends [effect] ++ sends left = [] := by
        rw [← sends_append]
        exact hsound
      obtain ⟨hone, hleft⟩ := List.append_eq_nil_iff.mp hsilent
      refine ⟨hleft, rfl, fun name _ => ?_⟩
      rw [callsSent_of_silent hone]
      exact Nat.zero_le _

end Gateway

namespace LockedDispatch

variable {gw : Gateway} {initial : DispatchState} {s t : LockedDispatch}
  {labels : List LockLabel}

/-- The tool is switched off, and no configuration that switches it on again is on the way
into place. -/
structure Revoked (gw : Gateway) (name : String) (s : LockedDispatch) : Prop where
  in_place : gw.Revoked name s.state.hotConfig.killSwitch
  pending : ∀ hotConfig ∈ s.handler.pending, gw.Revoked name hotConfig.killSwitch

/-- A step keeps what the loop can rely on. While a tool is switched off, and the handler
is not told to switch it on, a call of it that is sent was under way before. -/
theorem step_accounts (name : String) (hsound : s.phase.Sound) {label : LockLabel}
    (hcase : StepCase gw s label t) :
    t.phase.Sound ∧ (s.Revoked gw name →
      (∀ hotConfig ∈ label.hotConfig?, gw.Revoked name hotConfig.killSwitch) →
        t.Revoked gw name ∧
          callsSent name t.emitted + t.phase.underWay name ≤
            callsSent name s.emitted + s.phase.underWay name) := by
  cases hcase with
  | taken line phase =>
    obtain ⟨hbegun, hkept, hnone⟩ := gw.begin_sound s.state line
    refine ⟨hbegun, fun hrevoked _ => ⟨⟨?_, hrevoked.pending⟩, ?_⟩⟩
    · change gw.Revoked name (gw.begin s.state line).1.hotConfig.killSwitch
      rw [hkept]
      exact hrevoked.in_place
    · change _ + (gw.begin s.state line).2.underWay name ≤ _
      rw [hnone name]
      exact Nat.le_add_right _ _
  | listed line id lock phase | called call lock phase =>
    rw [phase] at hsound ⊢
    exact ⟨hsound, fun hrevoked _ => ⟨⟨hrevoked.in_place, hrevoked.pending⟩, le_rfl⟩⟩
  | advanced state phase effects advance =>
    obtain ⟨hnext, hkept, haccounts⟩ := Gateway.advance_accounts hsound advance
    refine ⟨hnext, fun hrevoked _ => ⟨⟨?_, hrevoked.pending⟩, ?_⟩⟩
    · change gw.Revoked name state.hotConfig.killSwitch
      rw [hkept]
      exact hrevoked.in_place
    · have hsent := haccounts name hrevoked.in_place
      simp only [callsSent_append]
      omega
  | signalled hotConfig handler =>
    exact ⟨hsound, fun hrevoked hsignalled => ⟨⟨hrevoked.in_place, hsignalled⟩, le_rfl⟩⟩
  | acquired hotConfig lock handler =>
    refine ⟨hsound, fun hrevoked _ => ⟨⟨hrevoked.in_place, fun other hpending => ?_⟩, le_rfl⟩⟩
    exact hrevoked.pending other (by rw [handler]; exact hpending)
  | replaced hotConfig handler =>
    refine ⟨hsound, fun hrevoked _ => ⟨⟨?_, fun _ hpending => ?_⟩, le_rfl⟩⟩
    · exact hrevoked.pending hotConfig (by rw [handler]; rfl)
    · cases hpending
  | released handler =>
    refine ⟨hsound, fun hrevoked _ => ⟨⟨hrevoked.in_place, fun _ hpending => ?_⟩, le_rfl⟩⟩
    cases hpending

/-- The loop can rely on it in every state it reaches. -/
theorem sound_of_exec (hsound : s.phase.Sound)
    (h : Runs.exec (step gw) s labels = some t) : t.phase.Sound :=
  Runs.exec_induction (step gw) (motive := fun _ t => t.phase.Sound) hsound
    (fun _ _ _ _ _ hsound hstep => (step_accounts "" hsound (step_cases hstep)).1) h

/-- **The kill switch takes effect.** A tool is switched off, and from then on no
configuration is put in place that switches it on again. However the loop and the handler
of SIGHUP are interleaved, it stays switched off, and no call of it is sent any more, but
for a single one that had passed the kill switch before and was not sent yet. -/
theorem kill_switch_takes_effect (gw : Gateway) (initial : DispatchState) (name : String)
    {before after : List LockLabel}
    (hbefore : Runs.exec (step gw) (start initial) before = some s)
    (hafter : Runs.exec (step gw) s after = some t) (hrevoked : s.Revoked gw name)
    (hsignalled : ∀ hotConfig ∈ after.filterMap LockLabel.hotConfig?,
      gw.Revoked name hotConfig.killSwitch) :
    t.Revoked gw name ∧
      callsSent name t.emitted ≤ callsSent name s.emitted + s.phase.underWay name := by
  have hidle : (start initial).phase.Sound := trivial
  have hsound := sound_of_exec hidle hbefore
  have hrun := Runs.exec_induction (step gw) (motive := fun labels t =>
    (∀ hotConfig ∈ labels.filterMap LockLabel.hotConfig?, gw.Revoked name hotConfig.killSwitch) →
      t.phase.Sound ∧ t.Revoked gw name ∧ callsSent name t.emitted + t.phase.underWay name ≤
        callsSent name s.emitted + s.phase.underWay name)
    (fun _ => ⟨hsound, hrevoked, le_rfl⟩) ?_ hafter hsignalled
  · obtain ⟨-, hstays, hcount⟩ := hrun
    exact ⟨hstays, (Nat.le_add_right _ _).trans hcount⟩
  · intro labels label t u _ ih hstep hlabels
    rw [List.filterMap_append] at hlabels
    obtain ⟨htsound, htrevoked, htcount⟩ :=
      ih fun hotConfig hmem => hlabels hotConfig (List.mem_append_left _ hmem)
    obtain ⟨husound, hnext⟩ := step_accounts name htsound (step_cases hstep)
    obtain ⟨hurevoked, hucount⟩ := hnext htrevoked fun hotConfig hlabel =>
      hlabels hotConfig (List.mem_append_right _ (by simpa using hlabel))
    exact ⟨husound, hurevoked, hucount.trans htcount⟩

/-- The steps up to the moment a tool is switched off, with a call of it past the gate. -/
def switchedOff : List LockLabel :=
  [.take (.message initializeMessage), .advance, .advance, .take (.message initializedMessage),
    .advance, .take (.answered queryMessage (resultJson 1)), .acquireRead, .advance, .advance,
    .signal ⟨{ disabledTools := ["query"] }, .new {}⟩,
    .acquireWrite, .replace]

/-- The call is sent and answered, and the next one is taken up. -/
def calledAgain : List LockLabel :=
  [.dropWrite, .advance, .advance, .advance, .advance, .advance, .advance,
    .take (.message queryMessage), .acquireRead, .advance, .advance, .advance]

/-- One call is sent after the switch was thrown, and the next one is not. -/
theorem kill_switch_takes_effect_past_the_gate :
    ∃ s t, Runs.exec (step reloadedGateway) (start (Gateway.start ⟨{}, .new {}⟩ .new ∅))
        switchedOff = some s ∧ Runs.exec (step reloadedGateway) s calledAgain = some t ∧
      callsSent "query" s.emitted = 0 ∧ s.phase.underWay "query" = 1 ∧
      (responses t.emitted).length = 3 ∧ callsSent "query" t.emitted = 1 ∧
      t.Revoked reloadedGateway "query" := by
  have hbefore : (Runs.exec (step reloadedGateway) (start (Gateway.start ⟨{}, .new {}⟩ .new ∅))
      switchedOff).map (fun s => (callsSent "query" s.emitted, s.phase.underWay "query",
        (reloadedGateway.killSwitchGate s.state.hotConfig.killSwitch "query").isSome,
        s.handler.pending.isNone)) = some (0, 1, true, true) := by
    decide +kernel
  obtain ⟨s, hs, heq⟩ := Option.map_eq_some_iff.mp hbefore
  obtain ⟨hnone, heq⟩ := Prod.mk.inj heq
  obtain ⟨hone, heq⟩ := Prod.mk.inj heq
  obtain ⟨hoff, hidle⟩ := Prod.mk.inj heq
  have hafter : ((Runs.exec (step reloadedGateway) (start (Gateway.start ⟨{}, .new {}⟩ .new ∅))
      switchedOff).bind fun s => Runs.exec (step reloadedGateway) s calledAgain).map
        (fun t => ((responses t.emitted).length, callsSent "query" t.emitted)) = some (3, 1) := by
    decide +kernel
  rw [hs, Option.bind_some] at hafter
  obtain ⟨t, ht, heq⟩ := Option.map_eq_some_iff.mp hafter
  obtain ⟨hthree, hsent⟩ := Prod.mk.inj heq
  have hrevoked : s.Revoked reloadedGateway "query" := by
    refine ⟨hoff, fun hotConfig hpending => ?_⟩
    rw [Option.isNone_iff_eq_none.mp hidle] at hpending
    cases hpending
  refine ⟨s, t, hs, ht, hnone, hone, hthree, hsent, ?_⟩
  exact (kill_switch_takes_effect reloadedGateway _ "query" hs ht hrevoked
    (by simp [calledAgain, LockLabel.hotConfig?])).1

end LockedDispatch

end SentinelGateway
