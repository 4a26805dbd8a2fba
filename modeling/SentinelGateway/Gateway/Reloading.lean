import SentinelGateway.Gateway.Frames
import SentinelGateway.Gateway.Handshake

/-!
# Reloading the configuration

On SIGHUP the configuration file is read again and the whole hot configuration is
replaced, the rate limiter with its buckets included. Even if the file has not
changed, every limit starts afresh. For the kill switch that makes no difference.
For the limiter it makes none exactly if every bucket is due for its refill anyway.
-/

namespace SentinelGateway

/-- The parts of `SentinelConfig` that are checked or used when it is reloaded. -/
structure SentinelConfig where
  backends : List BackendConfig := []
  killSwitch : KillSwitchConfig := {}
  rateLimits : RateLimitConfig := {}

/-- `load_config_lenient`, given what reading the file brings. The parser of the
file format is a parameter. -/
def loadConfigLenient (fromStr : String → Except String SentinelConfig) (path : String)
    (content : Except String String) : Except String SentinelConfig :=
  match content with
  | .error _ => .error ("Failed to read config file: " ++ path)
  | .ok text =>
    match fromStr text with
    | .error _ => .error ("Failed to parse config file: " ++ path)
    | .ok config =>
      match validateBackends config.backends with
      | .error e => .error e
      | .ok () => .ok config

/-- `reload_hot_config`. -/
def reloadHotConfig (fromStr : String → Except String SentinelConfig) (path : String)
    (content : Except String String) : Except String HotConfig :=
  match loadConfigLenient fromStr path content with
  | .error e => .error e
  | .ok config =>
    .ok { killSwitch := config.killSwitch, rateLimiter := .new config.rateLimits }

/-- A limiter just loaded has no buckets. -/
theorem buckets_of_reloadHotConfig {fromStr : String → Except String SentinelConfig}
    {path : String} {content : Except String String} {hotConfig : HotConfig}
    (h : reloadHotConfig fromStr path content = .ok hotConfig) :
    hotConfig.rateLimiter.buckets = ∅ := by
  unfold reloadHotConfig at h
  split at h
  · cases h
  · obtain rfl := Except.ok.inj h
    rfl

namespace RateLimiter

/-- Two buckets of a key, one of which may be missing, that no check from `T` on can
tell apart: they are the same, or one of them is due for a refill and the other is
missing, or there are no tokens to be had at all. -/
inductive Indistinguishable (T : Instant) (limit : ℕ) :
    Option TokenBucket → Option TokenBucket → Prop
  | same (bucket : Option TokenBucket) : Indistinguishable T limit bucket bucket
  | stale (bucket : TokenBucket) (full : bucket.maxTokens = limit)
      (due : 60 ≤ elapsed bucket.lastRefill T) :
      Indistinguishable T limit (some bucket) none
  | exhausted {bucket bucket' : Option TokenBucket} (none_left : limit = 0)
      (left : ∀ b ∈ bucket, b.tokens = 0 ∧ b.maxTokens = 0)
      (right : ∀ b ∈ bucket', b.tokens = 0 ∧ b.maxTokens = 0) :
      Indistinguishable T limit bucket bucket'

/-- The next check finds the same tokens in both, as long as both limiters have the
limit of the tool. -/
theorem Indistinguishable.refill {T : Instant} {limiter limiter' : RateLimiter}
    {client tool : String} (hrpm : limiter'.rpm tool = limiter.rpm tool)
    (h : Indistinguishable T (limiter.rpm tool) (limiter.buckets.lookup (client, tool))
      (limiter'.buckets.lookup (client, tool))) {now : Instant} (hnow : T ≤ now) :
    (limiter'.bucketFor client tool now).refill now =
        (limiter.bucketFor client tool now).refill now ∨
      limiter.rpm tool = 0 ∧
        (((limiter.bucketFor client tool now).refill now).tokens = 0 ∧
          ((limiter.bucketFor client tool now).refill now).maxTokens = 0) ∧
        ((limiter'.bucketFor client tool now).refill now).tokens = 0 ∧
          ((limiter'.bucketFor client tool now).refill now).maxTokens = 0 := by
  unfold bucketFor
  rw [hrpm]
  generalize limiter.buckets.lookup (client, tool) = bucket at h ⊢
  generalize limiter'.buckets.lookup (client, tool) = bucket' at h ⊢
  cases h with
  | same => exact Or.inl rfl
  | stale bucket full due =>
    left
    have hdue : 60 ≤ elapsed bucket.lastRefill now := by
      refine le_trans due ?_
      unfold elapsed
      exact max_le_max le_rfl (sub_le_sub_right hnow _)
    simp [TokenBucket.refill, TokenBucket.new, hdue, not_due_now, full]
  | exhausted none_left left right =>
    -- a refill of an empty bucket brings nothing
    have hempty (bucket : Option TokenBucket)
        (h : ∀ b ∈ bucket, b.tokens = 0 ∧ b.maxTokens = 0) :
        ((bucket.getD (.new (limiter.rpm tool) now)).refill now).tokens = 0 ∧
          ((bucket.getD (.new (limiter.rpm tool) now)).refill now).maxTokens = 0 := by
      obtain ⟨htokens, hmax⟩ : (bucket.getD (.new (limiter.rpm tool) now)).tokens = 0 ∧
          (bucket.getD (.new (limiter.rpm tool) now)).maxTokens = 0 := by
        cases bucket with
        | none => exact ⟨none_left, none_left⟩
        | some bucket => exact h bucket rfl
      have hle := TokenBucket.refill_tokens_le (htokens.le.trans (Nat.zero_le _)) now
      rw [TokenBucket.refill_maxTokens]
      omega
    exact Or.inr ⟨none_left, hempty bucket left, hempty bucket' right⟩

/-- A check from `T` on has the same answer on both and leaves them indistinguishable. -/
theorem Indistinguishable.check {T : Instant} {limiter limiter' : RateLimiter}
    {client tool : String} (hrpm : limiter'.rpm tool = limiter.rpm tool)
    (h : Indistinguishable T (limiter.rpm tool) (limiter.buckets.lookup (client, tool))
      (limiter'.buckets.lookup (client, tool))) {now : Instant} (hnow : T ≤ now) :
    Indistinguishable T (limiter.rpm tool)
        ((limiter.check client tool now).1.buckets.lookup (client, tool))
        ((limiter'.check client tool now).1.buckets.lookup (client, tool)) ∧
      ((limiter.check client tool now).2 = .ok () ↔
        (limiter'.check client tool now).2 = .ok ()) := by
  rcases limiter.check_lookup_self client tool now with
    ⟨hok, hpos, hlookup⟩ | ⟨herror, hzero, hlookup⟩ <;>
  rcases limiter'.check_lookup_self client tool now with
    ⟨hok', hpos', hlookup'⟩ | ⟨herror', hzero', hlookup'⟩ <;>
  rcases h.refill hrpm hnow with heq | ⟨hlimit, hempty, hempty'⟩
  · rw [hlookup, hlookup', heq]
    exact ⟨.same _, by simp [hok, hok']⟩
  · omega
  · rw [heq] at hzero'
    omega
  · omega
  · rw [heq] at hpos'
    omega
  · omega
  · rw [hlookup, hlookup', heq]
    exact ⟨.same _, by simp [herror, herror']⟩
  · rw [hlookup, hlookup']
    refine ⟨.exhausted hlimit ?_ ?_, by simp [herror, herror']⟩
    · rintro _ ⟨rfl⟩
      exact hempty
    · rintro _ ⟨rfl⟩
      exact hempty'

/-- A bucket that was checked at least once: it has the limit of its tool, and not
all of its tokens. -/
structure Used (limit : ℕ) (bucket : TokenBucket) : Prop where
  limit_eq : bucket.maxTokens = limit
  used : bucket.tokens ≤ limit - 1

/-- A check leaves a used bucket, if it finds a used one or none. -/
theorem Used.check {limiter : RateLimiter} {client tool : String}
    (h : ∀ bucket, limiter.buckets.lookup (client, tool) = some bucket →
      Used (limiter.rpm tool) bucket) (now : Instant) {bucket : TokenBucket}
    (hlookup : (limiter.check client tool now).1.buckets.lookup (client, tool) = some bucket) :
    Used (limiter.rpm tool) bucket := by
  obtain ⟨hmax, htokens⟩ : (limiter.bucketFor client tool now).maxTokens = limiter.rpm tool ∧
      (limiter.bucketFor client tool now).tokens ≤ limiter.rpm tool := by
    unfold bucketFor
    cases hfound : limiter.buckets.lookup (client, tool) with
    | none => exact ⟨rfl, le_rfl⟩
    | some found =>
      obtain ⟨hlimit, hused⟩ := h found hfound
      rw [Option.getD_some]
      omega
  have hmax' := (limiter.bucketFor client tool now).refill_maxTokens now
  have htokens' := TokenBucket.refill_tokens_le (htokens.trans hmax.ge) now
  rcases limiter.check_lookup_self client tool now with ⟨-, -, hafter⟩ | ⟨-, hempty, hafter⟩
  · rw [hafter, Option.some.injEq] at hlookup
    subst hlookup
    exact ⟨hmax'.trans hmax, Nat.sub_le_sub_right (htokens'.trans hmax.le) 1⟩
  · rw [hafter, Option.some.injEq] at hlookup
    subst hlookup
    exact ⟨hmax'.trans hmax, hempty.le.trans (Nat.zero_le _)⟩

/-- The tokens a check at `now` finds. -/
def tokensAt (limiter : RateLimiter) (client tool : String) (now : Instant) : ℕ :=
  ((limiter.bucketFor client tool now).refill now).tokens

/-- A check takes one token, and no other comes back at the same time. -/
theorem tokensAt_check (limiter : RateLimiter) (client tool : String) (now : Instant) :
    (limiter.check client tool now).1.tokensAt client tool now =
      limiter.tokensAt client tool now - 1 := by
  unfold tokensAt
  rcases limiter.check_lookup_self client tool now with ⟨-, -, hafter⟩ | ⟨-, hempty, hafter⟩
  · rw [bucketFor, hafter, Option.getD_some, TokenBucket.refill_of_refill]
  · rw [bucketFor, hafter, Option.getD_some, hempty]
    have hsame := (limiter.bucketFor client tool now).refill_of_refill 0 now
    rw [← hempty] at hsame
    rw [hsame]
    exact hempty

theorem check_ok_iff (limiter : RateLimiter) (client tool : String) (now : Instant) :
    (limiter.check client tool now).2 = .ok () ↔ 0 < limiter.tokensAt client tool now := by
  unfold tokensAt
  rcases limiter.check_lookup_self client tool now with ⟨hok, hpos, -⟩ | ⟨herror, hempty, -⟩
  · simp [hok, hpos]
  · simp [herror, hempty]

end RateLimiter

namespace Gateway

variable {gw : Gateway} {st st' : DispatchState} {line : InboundLine}

/-- The tool a line calls, if it is a call of a named tool in the operational state. -/
def calledTool (gw : Gateway) (state : McpState) (line : InboundLine) : Option String :=
  match gw.parseRequest line with
  | .error _ => none
  | .ok request =>
    if request.method = "tools/call" ∧ request.id.isSome ∧ state = .operational then
      toolName request.params
    else none

theorem calledTool_eq_some_iff {name : String} :
    gw.calledTool st.state line = some name ↔ ∃ id params, IsCall gw st line id name params := by
  constructor
  · intro h
    unfold calledTool at h
    split at h
    · cases h
    · rename_i request hparsed
      split_ifs at h with hcall
      obtain ⟨hmethod, hid, hoperational⟩ := hcall
      obtain ⟨id, hid⟩ := Option.isSome_iff_exists.mp hid
      refine ⟨id, request.params, ⟨request.jsonrpc, ?_⟩, hoperational, h⟩
      rw [hparsed, ← hid, ← hmethod]
  · rintro ⟨id, params, ⟨jsonrpc, hparsed⟩, hoperational, hname⟩
    simp [calledTool, hparsed, hoperational, hname]

theorem hasMethod_of_calledTool {state : McpState} {name : String}
    (h : gw.calledTool state line = some name) : gw.HasMethod "tools/call" (.line line) := by
  unfold calledTool at h
  split at h
  · cases h
  · rename_i request hparsed
    split_ifs at h with hcall
    exact ⟨line, request, rfl, hparsed, hcall.1⟩

/-- The tool whose limit a line comes to: it is called and not disabled. -/
def countedTool (gw : Gateway) (st : DispatchState) (line : InboundLine) : Option String :=
  (gw.calledTool st.state line).filter fun name =>
    (gw.killSwitchGate st.hotConfig.killSwitch name).isNone

theorem countedTool_eq_some_iff {name : String} :
    gw.countedTool st line = some name ↔ gw.calledTool st.state line = some name ∧
      gw.killSwitchGate st.hotConfig.killSwitch name = none := by
  simp [countedTool, Option.filter_eq_some_iff]

/-- After the gates, nothing touches the hot configuration. -/
theorem hotConfig_of_isCall {id : JsonRpcId} {name : String} {params : Option Json}
    (h : IsCall gw st line id name params) :
    (gw.step st (.line line)).1.hotConfig = (gw.passGates st line name params).1.hotConfig := by
  rw [step_of_isCall h, ← gated_of_named gw st line h.named]
  rcases toolsCall_eq gw st line id params with ⟨_, _, -, -, heq⟩ | ⟨-, heq⟩
  · rw [heq]
  · rw [heq, (backendDispatch_spec gw _ line id params).1]
    rcases handleToolsCall_cases gw (gw.gated st line params) line id params with
      ⟨_, _, hhandle, -⟩ | ⟨_, _, _, _, -, -, -, -, hhandle⟩
    · rw [hhandle]
    · rw [hhandle]
      rfl

/-- What a line does to the hot configuration: a call of a tool that is not disabled
is counted by the limiter, and nothing else happens to it. -/
theorem hotConfig_step (gw : Gateway) (st : DispatchState) (line : InboundLine) :
    (gw.step st (.line line)).1.hotConfig =
      match gw.countedTool st line with
      | none => st.hotConfig
      | some name => (gw.afterCheck st line name).hotConfig := by
  cases hcalled : gw.calledTool st.state line with
  | none =>
    have hcounted : gw.countedTool st line = none := by simp [countedTool, hcalled]
    rw [hcounted]
    have hcase := step_cases gw st (.line line)
    generalize gw.step st (.line line) = result at hcase ⊢
    cases hcase with
    | unparsed | refused | initializeLine | initializedLine | answered | callNotification
    | unnamedCall => rfl
    | call _ id name params isCall callCase =>
      have hsome := calledTool_eq_some_iff.mpr ⟨_, _, isCall⟩
      rw [hcalled] at hsome
      cases hsome
  | some name =>
    obtain ⟨id, params, hcall⟩ := calledTool_eq_some_iff.mp hcalled
    have hcounted (enabled : gw.killSwitchGate st.hotConfig.killSwitch name = none) :
        gw.countedTool st line = some name := countedTool_eq_some_iff.mpr ⟨hcalled, enabled⟩
    rw [hotConfig_of_isCall hcall]
    have hcase := passGates_cases gw st line name params
    generalize gw.passGates st line name params = result at hcase ⊢
    cases hcase with
    | killed rejection gate =>
      have hnone : gw.countedTool st line = none := by simp [countedTool, hcalled, gate]
      rw [hnone]
    | rateLimited rejection enabled gate => rw [hcounted enabled]
    | denied rejection enabled rate_ok gate => rw [hcounted enabled]
    | invalidArgs rejection enabled rate_ok gate => rw [hcounted enabled]
    | circuit policy =>
      rw [hcounted ((killSwitchGate_eq_none_iff st.hotConfig.killSwitch).mpr
        ⟨policy.tool_enabled, policy.backend_enabled⟩)]
      exact afterGates_hotConfig gw st line name

/-- What the SIGHUP handler does to the shared value. A failed reload keeps the
previous one. -/
def sighup (gw : Gateway) (fromStr : String → Except String SentinelConfig) (path : String)
    (content : Except String String) (st : DispatchState) : DispatchState :=
  match reloadHotConfig fromStr path content with
  | .ok hotConfig => (gw.step st (.replaceHotConfig hotConfig)).1
  | .error _ => st

/-- The decision of the kill switch on a line, if the line comes to it. -/
def killDecision (gw : Gateway) (st : DispatchState) (line : InboundLine) :
    Option (Option Rejection) :=
  (gw.calledTool st.state line).map (gw.killSwitchGate st.hotConfig.killSwitch)

/-- Whether the rate limiter lets a line pass, if the line comes to it. -/
def rateDecision (gw : Gateway) (st : DispatchState) (line : InboundLine) : Option Bool :=
  (gw.countedTool st line).map fun name => (gw.rateLimitGate st name line.checkedAt).2.isNone

/-- A line of a session, together with a decision that is taken on it. -/
def decidedStep {D : Type} (gw : Gateway) (decision : DispatchState → InboundLine → D)
    (st : DispatchState) (line : InboundLine) : DispatchState × D :=
  ((gw.step st (.line line)).1, decision st line)

/-- Calls of tools at nondecreasing times, none of them before `T`. -/
structure CallsFrom (gw : Gateway) (T : Instant) (lines : List InboundLine) : Prop where
  calls : ∀ line ∈ lines, gw.HasMethod "tools/call" (.line line)
  sorted : (lines.map InboundLine.checkedAt).Pairwise (· ≤ ·)
  from_T : ∀ line ∈ lines, T ≤ line.checkedAt

/-- Two hot configurations with the same kill switch and the same limits, whatever is
in their buckets. -/
structure SameConfig (hotConfig hotConfig' : HotConfig) : Prop where
  killSwitch : hotConfig'.killSwitch = hotConfig.killSwitch
  rpm : ∀ tool, hotConfig'.rateLimiter.rpm tool = hotConfig.rateLimiter.rpm tool

/-- A line changes neither the kill switch nor a limit. -/
theorem sameConfig_step (gw : Gateway) (st : DispatchState) (line : InboundLine) :
    SameConfig st.hotConfig (gw.step st (.line line)).1.hotConfig := by
  rw [hotConfig_step]
  split
  · exact ⟨rfl, fun _ => rfl⟩
  · exact ⟨rfl, fun _ => rfl⟩

theorem SameConfig.trans {first second third : HotConfig} (h : SameConfig first second)
    (h' : SameConfig second third) : SameConfig first third :=
  ⟨h'.killSwitch.trans h.killSwitch, fun tool => (h'.rpm tool).trans (h.rpm tool)⟩

theorem SameConfig.symm {first second : HotConfig} (h : SameConfig first second) :
    SameConfig second first := ⟨h.killSwitch.symm, fun tool => (h.rpm tool).symm⟩

/-- A line read on both sides keeps the configurations the same. -/
theorem SameConfig.step (h : SameConfig st.hotConfig st'.hotConfig) (line : InboundLine) :
    SameConfig (gw.step st (.line line)).1.hotConfig (gw.step st' (.line line)).1.hotConfig :=
  (sameConfig_step gw st line).symm.trans (h.trans (sameConfig_step gw st' line))

/-- A counted call leaves in the bucket of its tool what the check leaves there. -/
theorem lookup_step_of_counted {name : String} (h : gw.countedTool st line = some name) :
    (gw.step st (.line line)).1.hotConfig.rateLimiter.buckets.lookup (gw.identity.subject, name) =
      (st.hotConfig.rateLimiter.check gw.identity.subject name line.checkedAt).1.buckets.lookup
        (gw.identity.subject, name) := by
  rw [hotConfig_step, h]
  rfl

/-- The other buckets of the caller stay as they are. -/
theorem lookup_step_of_not_counted {tool : String} (h : gw.countedTool st line ≠ some tool) :
    (gw.step st (.line line)).1.hotConfig.rateLimiter.buckets.lookup (gw.identity.subject, tool) =
      st.hotConfig.rateLimiter.buckets.lookup (gw.identity.subject, tool) := by
  rw [hotConfig_step]
  cases hcounted : gw.countedTool st line with
  | none => rfl
  | some name =>
    rw [hcounted] at h
    have hne : (gw.identity.subject, tool) ≠ (gw.identity.subject, name) := by
      rintro heq
      exact h (congrArg some (Prod.mk.inj heq).2.symm)
    exact (differsOnlyAt_afterCheck gw st line name).buckets _ hne

/-- No `tools/call` moves the lifecycle. -/
theorem state_step_of_call (h : gw.HasMethod "tools/call" (.line line)) :
    (gw.step st (.line line)).1.state = st.state := by
  have hmethod (other : InboundLine) (request : JsonRpcRequest)
      (hother : Event.line line = .line other) (haccepts : Accepts gw st other request) :
      request.method = "tools/call" := by
    obtain ⟨line', request', hline', hparsed, hmethod⟩ := h
    obtain rfl := Event.line.inj hother
    obtain rfl := Event.line.inj hline'
    have hrequest := haccepts.parsed
    rw [hparsed, Except.ok.injEq] at hrequest
    rw [← hrequest, hmethod]
  rcases step_state_cases gw st (.line line) with hsame |
    ⟨other, request, hother, haccepts, hinitialize, -⟩ |
    ⟨other, request, hother, haccepts, hinitialized, -⟩
  · exact hsame
  · rw [hmethod other request hother haccepts] at hinitialize
    simp at hinitialize
  · rw [hmethod other request hother haccepts] at hinitialized
    simp at hinitialized

/-- Two states that no call of a tool from `T` on can tell apart by the decisions of
the kill switch and of the rate limiter. -/
structure DecideAlike (gw : Gateway) (T : Instant) (st st' : DispatchState) : Prop where
  state : st'.state = st.state
  config : SameConfig st.hotConfig st'.hotConfig
  buckets : ∀ tool, RateLimiter.Indistinguishable T (st.hotConfig.rateLimiter.rpm tool)
    (st.hotConfig.rateLimiter.buckets.lookup (gw.identity.subject, tool))
    (st'.hotConfig.rateLimiter.buckets.lookup (gw.identity.subject, tool))

theorem DecideAlike.countedTool {T : Instant} (h : DecideAlike gw T st st') :
    gw.countedTool st' line = gw.countedTool st line := by
  unfold Gateway.countedTool
  rw [h.state, h.config.killSwitch]

/-- The limiter's decision, read off its answer. -/
theorem rateLimitGate_isNone (gw : Gateway) (st : DispatchState) (name : String) (now : Instant) :
    (gw.rateLimitGate st name now).2.isNone = true ↔
      (st.hotConfig.rateLimiter.check gw.identity.subject name now).2 = .ok () := by
  simp only [rateLimitGate]
  cases (st.hotConfig.rateLimiter.check gw.identity.subject name now).2 with
  | ok => simp
  | error => simp

/-- A call from `T` on leaves both states alike. -/
theorem DecideAlike.step {T : Instant} (h : DecideAlike gw T st st')
    (hcall : gw.HasMethod "tools/call" (.line line)) (hnow : T ≤ line.checkedAt) :
    DecideAlike gw T (gw.step st (.line line)).1 (gw.step st' (.line line)).1 := by
  refine ⟨?_, h.config.step line, ?_⟩
  · rw [state_step_of_call hcall, state_step_of_call hcall, h.state]
  · intro tool
    rw [(sameConfig_step gw st line).rpm]
    by_cases hcounted : gw.countedTool st line = some tool
    · have hcounted' : gw.countedTool st' line = some tool := h.countedTool.trans hcounted
      rw [lookup_step_of_counted hcounted, lookup_step_of_counted hcounted']
      exact ((h.buckets tool).check (h.config.rpm tool) hnow).1
    · have hcounted' : gw.countedTool st' line ≠ some tool := by rwa [h.countedTool]
      rw [lookup_step_of_not_counted hcounted, lookup_step_of_not_counted hcounted']
      exact h.buckets tool

/-- Both states decide alike on a call from `T` on. -/
theorem DecideAlike.rateDecision {T : Instant} (h : DecideAlike gw T st st')
    (hnow : T ≤ line.checkedAt) : gw.rateDecision st line = gw.rateDecision st' line := by
  unfold Gateway.rateDecision
  rw [h.countedTool]
  congr 1
  funext name
  have hanswer := ((h.buckets name).check (h.config.rpm name) hnow).2
  rw [← rateLimitGate_isNone, ← rateLimitGate_isNone] at hanswer
  exact Bool.eq_iff_iff.mpr hanswer

/-- Repeating a counted call at one time is refused once the tokens are used up. -/
theorem refused_mem_iff {name : String} (h : gw.countedTool st line = some name) (k : ℕ) :
    some false ∈ Runs.outputs (gw.decidedStep gw.rateDecision) st (List.replicate k line) ↔
      st.hotConfig.rateLimiter.tokensAt gw.identity.subject name line.checkedAt < k := by
  induction k generalizing st with
  | zero => simp
  | succ k ih =>
    obtain ⟨hcalled, henabled⟩ := countedTool_eq_some_iff.mp h
    have hafter : (gw.step st (.line line)).1.hotConfig =
        (gw.afterCheck st line name).hotConfig := by
      rw [hotConfig_step, h]
    have hcounted : gw.countedTool (gw.step st (.line line)).1 line = some name := by
      rw [countedTool_eq_some_iff, state_step_of_call (hasMethod_of_calledTool hcalled), hafter]
      exact ⟨hcalled, henabled⟩
    have htokens : (gw.step st (.line line)).1.hotConfig.rateLimiter.tokensAt
        gw.identity.subject name line.checkedAt =
        st.hotConfig.rateLimiter.tokensAt gw.identity.subject name line.checkedAt - 1 := by
      rw [hafter]
      exact st.hotConfig.rateLimiter.tokensAt_check gw.identity.subject name line.checkedAt
    have hdecision : gw.rateDecision st line = some false ↔
        st.hotConfig.rateLimiter.tokensAt gw.identity.subject name line.checkedAt = 0 := by
      have hanswer := rateLimitGate_isNone gw st name line.checkedAt
      rw [RateLimiter.check_ok_iff] at hanswer
      rw [rateDecision, h, Option.map_some, Option.some.injEq, ← Bool.not_eq_true, hanswer]
      omega
    rw [List.replicate_succ, Runs.outputs_cons, List.mem_cons]
    simp only [decidedStep] at ih ⊢
    rw [eq_comm, hdecision, ih hcounted, htokens]
    omega

/-- What the lines read since `loaded` was loaded leave of it: the configuration is
the same, and each bucket of the caller was used by one of the lines. -/
structure Charged (gw : Gateway) (loaded : HotConfig) (past : List InboundLine)
    (hotConfig : HotConfig) : Prop where
  config : SameConfig loaded hotConfig
  used : ∀ tool bucket,
    hotConfig.rateLimiter.buckets.lookup (gw.identity.subject, tool) = some bucket →
      RateLimiter.Used (loaded.rateLimiter.rpm tool) bucket
  called : ∀ tool bucket,
    hotConfig.rateLimiter.buckets.lookup (gw.identity.subject, tool) = some bucket →
      gw.killSwitchGate loaded.killSwitch tool = none ∧
        ∃ line ∈ past, gw.calledTool .operational line = some tool

/-- One more line keeps it. -/
theorem Charged.step {loaded : HotConfig} {past : List InboundLine}
    (h : Charged gw loaded past st.hotConfig) (line : InboundLine) :
    Charged gw loaded (past ++ [line]) (gw.step st (.line line)).1.hotConfig := by
  refine ⟨h.config.trans (sameConfig_step gw st line), ?_, ?_⟩
  · intro tool bucket hlookup
    by_cases hcounted : gw.countedTool st line = some tool
    · rw [lookup_step_of_counted hcounted] at hlookup
      have hused := h.used tool
      rw [← h.config.rpm tool] at hused ⊢
      exact RateLimiter.Used.check hused line.checkedAt hlookup
    · rw [lookup_step_of_not_counted hcounted] at hlookup
      exact h.used tool bucket hlookup
  · intro tool bucket hlookup
    by_cases hcounted : gw.countedTool st line = some tool
    · obtain ⟨hcalled, henabled⟩ := countedTool_eq_some_iff.mp hcounted
      rw [h.config.killSwitch] at henabled
      obtain ⟨_, _, hcall⟩ := calledTool_eq_some_iff.mp hcalled
      rw [hcall.operational] at hcalled
      exact ⟨henabled, line, by simp, hcalled⟩
    · rw [lookup_step_of_not_counted hcounted] at hlookup
      obtain ⟨henabled, other, hmem, hother⟩ := h.called tool bucket hlookup
      exact ⟨henabled, other, List.mem_append_left _ hmem, hother⟩

/-- Every line keeps it, and a limiter without buckets starts it. -/
theorem charged_after (hempty : st.hotConfig.rateLimiter.buckets = ∅) (past : List InboundLine) :
    Charged gw st.hotConfig past (Runs.after gw.step st (past.map Event.line)).hotConfig := by
  induction past using List.reverseRecOn with
  | nil =>
    refine ⟨⟨rfl, fun _ => rfl⟩, ?_, ?_⟩
    · intro tool bucket hlookup
      simp [hempty] at hlookup
    · intro tool bucket hlookup
      simp [hempty] at hlookup
  | append_singleton past line ih =>
    rw [List.map_append, List.map_singleton, Runs.after_concat]
    exact ih.step line

/-- Every bucket of the caller that has tokens at all is due for its refill at `T`. -/
def AllDue (gw : Gateway) (T : Instant) (st : DispatchState) : Prop :=
  ∀ tool bucket,
    st.hotConfig.rateLimiter.buckets.lookup (gw.identity.subject, tool) = some bucket →
      0 < bucket.maxTokens → 60 ≤ elapsed bucket.lastRefill T

/-- What reloading an unchanged file makes of a state. -/
theorem sighup_of_loaded {fromStr : String → Except String SentinelConfig} {path : String}
    {content : Except String String} {loaded : HotConfig}
    (h : reloadHotConfig fromStr path content = .ok loaded) (st : DispatchState) :
    gw.sighup fromStr path content st = { st with hotConfig := loaded } := by
  simp only [sighup, h, Gateway.step]

/-- If all buckets are due, fresh ones decide alike. -/
theorem Charged.decideAlike {loaded : HotConfig} {past : List InboundLine} {T : Instant}
    (h : Charged gw loaded past st.hotConfig) (hempty : loaded.rateLimiter.buckets = ∅)
    (hdue : AllDue gw T st) : DecideAlike gw T st { st with hotConfig := loaded } := by
  refine ⟨rfl, h.config.symm, ?_⟩
  intro tool
  have hnone : loaded.rateLimiter.buckets.lookup (gw.identity.subject, tool) = none := by
    simp [hempty]
  rw [h.config.rpm, hnone]
  cases hlookup : st.hotConfig.rateLimiter.buckets.lookup (gw.identity.subject, tool) with
  | none => exact .same none
  | some bucket =>
    obtain ⟨hlimit, hused⟩ := h.used tool bucket hlookup
    by_cases hpos : 0 < bucket.maxTokens
    · exact .stale bucket hlimit (hdue tool bucket hlookup hpos)
    · refine .exhausted (by omega) ?_ (by simp)
      rintro _ ⟨rfl⟩
      omega

/-- The kill switch decides the same after a reload, on every later sequence of calls. -/
theorem killDecisions_congr {T : Instant} {st' : DispatchState} {later : List InboundLine}
    (hstate : st'.state = st.state) (hconfig : SameConfig st.hotConfig st'.hotConfig)
    (hlater : CallsFrom gw T later) :
    Runs.outputs (gw.decidedStep gw.killDecision) st later =
      Runs.outputs (gw.decidedStep gw.killDecision) st' later := by
  refine Runs.outputs_congr _ (R := fun s t => t.state = s.state ∧
    SameConfig s.hotConfig t.hotConfig) ?_ ⟨hstate, hconfig⟩ hlater.calls
  rintro s t line ⟨hstate, hconfig⟩ hcall
  refine ⟨⟨?_, hconfig.step line⟩, ?_⟩
  · simp only [decidedStep, state_step_of_call hcall, hstate]
  · simp only [decidedStep, killDecision, hstate, hconfig.killSwitch]

/-- Outside the operational state no call comes to the limiter. -/
theorem rateDecisions_congr_of_not_operational {T : Instant} {st' : DispatchState}
    {later : List InboundLine} (hstate : st'.state = st.state)
    (hoperational : st.state ≠ .operational) (hlater : CallsFrom gw T later) :
    Runs.outputs (gw.decidedStep gw.rateDecision) st later =
      Runs.outputs (gw.decidedStep gw.rateDecision) st' later := by
  refine Runs.outputs_congr _ (R := fun s t => t.state = s.state ∧ s.state ≠ .operational) ?_
    ⟨hstate, hoperational⟩ hlater.calls
  rintro s t line ⟨hstate, hoperational⟩ hcall
  have hsilent (u : DispatchState) (hu : u.state ≠ .operational) :
      gw.rateDecision u line = none := by
    have hcounted : gw.countedTool u line = none := by
      rw [Option.eq_none_iff_forall_ne_some]
      intro name hcounted
      obtain ⟨_, _, hcall⟩ := calledTool_eq_some_iff.mp (countedTool_eq_some_iff.mp hcounted).1
      exact hu hcall.operational
    rw [rateDecision, hcounted, Option.map_none]
  refine ⟨⟨?_, ?_⟩, ?_⟩
  · simp only [decidedStep, state_step_of_call hcall, hstate]
  · simpa only [decidedStep, state_step_of_call hcall] using hoperational
  · simp only [decidedStep]
    rw [hsilent s hoperational, hsilent t (hstate ▸ hoperational)]

/-- A bucket that is not due yet is told apart from a fresh one by calling its tool
once more than it has tokens. -/
theorem Charged.exists_later {loaded : HotConfig} {past : List InboundLine} {T : Instant}
    {tool : String} {bucket : TokenBucket} (h : Charged gw loaded past st.hotConfig)
    (hempty : loaded.rateLimiter.buckets = ∅) (hoperational : st.state = .operational)
    (hlookup : st.hotConfig.rateLimiter.buckets.lookup (gw.identity.subject, tool) = some bucket)
    (hpos : 0 < bucket.maxTokens) (hdue : ¬60 ≤ elapsed bucket.lastRefill T) :
    ∃ later, CallsFrom gw T later ∧
      Runs.outputs (gw.decidedStep gw.rateDecision) st later ≠
        Runs.outputs (gw.decidedStep gw.rateDecision) { st with hotConfig := loaded } later := by
  obtain ⟨hlimit, hused⟩ := h.used tool bucket hlookup
  obtain ⟨henabled, line, -, hcalled⟩ := h.called tool bucket hlookup
  have hagain : gw.calledTool .operational { line with checkedAt := T } = some tool := hcalled
  refine ⟨List.replicate (bucket.tokens + 1) { line with checkedAt := T }, ⟨?_, ?_, ?_⟩, ?_⟩
  · intro other hother
    obtain rfl := List.eq_of_mem_replicate hother
    exact hasMethod_of_calledTool hagain
  · rw [List.map_replicate, List.pairwise_replicate]
    exact Or.inr le_rfl
  · intro other hother
    obtain rfl := List.eq_of_mem_replicate hother
    exact le_rfl
  · intro hsame
    have hcounted : gw.countedTool st { line with checkedAt := T } = some tool := by
      rw [countedTool_eq_some_iff, hoperational, h.config.killSwitch]
      exact ⟨hagain, henabled⟩
    have hcounted' : gw.countedTool { st with hotConfig := loaded } { line with checkedAt := T } =
        some tool := by
      rw [countedTool_eq_some_iff]
      exact ⟨hoperational ▸ hagain, henabled⟩
    have htokens : st.hotConfig.rateLimiter.tokensAt gw.identity.subject tool T =
        bucket.tokens := by
      rw [RateLimiter.tokensAt, RateLimiter.bucketFor, hlookup, Option.getD_some,
        TokenBucket.refill, if_neg hdue]
    have htokens' : loaded.rateLimiter.tokensAt gw.identity.subject tool T =
        loaded.rateLimiter.rpm tool := by
      simp [RateLimiter.tokensAt, RateLimiter.bucketFor, hempty, TokenBucket.refill,
        TokenBucket.new, not_due_now]
    -- the last of the calls is refused on one side only
    have hrefused := (refused_mem_iff hcounted (bucket.tokens + 1)).mpr
      (htokens.trans_lt (Nat.lt_succ_self _))
    rw [hsame, refused_mem_iff hcounted'] at hrefused
    have hrefused : loaded.rateLimiter.tokensAt gw.identity.subject tool T <
      bucket.tokens + 1 := hrefused
    omega

/-- **Reload of an unchanged file.** The kill switch decides as it would have without
the reload. The rate limiter does so on every later sequence of calls exactly if the
session is not operational, so that no call comes to it, or every bucket in use was
last refilled at least a minute before. -/
theorem reload_unchanged_iff {fromStr : String → Except String SentinelConfig} {path : String}
    {content : Except String String} (initial : DispatchState)
    (hloaded : reloadHotConfig fromStr path content = .ok initial.hotConfig)
    (past : List InboundLine) (T : Instant) :
    let st := Runs.after gw.step initial (past.map Event.line)
    let reloaded := gw.sighup fromStr path content st
    (∀ later, CallsFrom gw T later →
      Runs.outputs (gw.decidedStep gw.killDecision) st later =
        Runs.outputs (gw.decidedStep gw.killDecision) reloaded later) ∧
    ((∀ later, CallsFrom gw T later →
      Runs.outputs (gw.decidedStep gw.rateDecision) st later =
        Runs.outputs (gw.decidedStep gw.rateDecision) reloaded later) ↔
      (st.state = .operational → AllDue gw T st)) := by
  intro st reloaded
  have hempty := buckets_of_reloadHotConfig hloaded
  have hcharged : Charged gw initial.hotConfig past st.hotConfig := charged_after hempty past
  have hreloaded : reloaded = { st with hotConfig := initial.hotConfig } :=
    sighup_of_loaded hloaded st
  rw [hreloaded]
  refine ⟨?_, ?_, ?_⟩
  · intro later hlater
    have hstate : ({ st with hotConfig := initial.hotConfig } : DispatchState).state =
        st.state := rfl
    exact killDecisions_congr hstate hcharged.config.symm hlater
  · intro hsame hoperational tool bucket hlookup hpos
    by_contra hdue
    obtain ⟨later, hlater, hdiffer⟩ :=
      hcharged.exists_later hempty hoperational hlookup hpos hdue
    exact hdiffer (hsame later hlater)
  · intro hdue later hlater
    by_cases hoperational : st.state = .operational
    · refine Runs.outputs_congr _ (R := DecideAlike gw T)
        (P := fun line => gw.HasMethod "tools/call" (.line line) ∧ T ≤ line.checkedAt) ?_
        (hcharged.decideAlike hempty (hdue hoperational)) ?_
      · rintro s t line halike ⟨hcall, hnow⟩
        exact ⟨halike.step hcall hnow, halike.rateDecision hnow⟩
      · intro line hline
        exact ⟨hlater.calls line hline, hlater.from_T line hline⟩
    · exact rateDecisions_congr_of_not_operational rfl hoperational hlater

/-- A file that allows one call of each tool per minute. -/
def onePerMinuteToml : String :=
  "[gateway]\n[auth]\njwt_secret_env = \"JWT_SECRET_KEY\"\n" ++
    "[postgres]\nurl_env = \"DATABASE_URL\"\n[rate_limits]\ndefault_rpm = 1\n"

/-- A parser that knows this file only. -/
def onePerMinute (text : String) : Except String SentinelConfig :=
  if text = onePerMinuteToml then .ok { rateLimits := { defaultRpm := 1 } }
  else .error "TOML parse error at line 1, column 1"

/-- An operational session that has just loaded that file. -/
def justLoaded : DispatchState where
  state := .operational
  hotConfig := { killSwitch := {}, rateLimiter := .new { defaultRpm := 1 } }
  idRemapper := .new
  circuitBreakers := ∅

/-- A minute after its last refill, the limiter loses nothing by a reload. -/
theorem reload_unchanged_after_a_minute :
    let gw := bare (.ofValues [queryMessage])
    let st := Runs.after gw.step justLoaded [.line (.message queryMessage)]
    reloadHotConfig onePerMinute "sentinel.toml" (.ok onePerMinuteToml) =
        .ok justLoaded.hotConfig ∧
      ∀ later, CallsFrom gw 60 later →
        Runs.outputs (gw.decidedStep gw.rateDecision) st later =
          Runs.outputs (gw.decidedStep gw.rateDecision)
            (gw.sighup onePerMinute "sentinel.toml" (.ok onePerMinuteToml) st) later := by
  intro gw st
  have hloaded : reloadHotConfig onePerMinute "sentinel.toml" (.ok onePerMinuteToml) =
      .ok justLoaded.hotConfig := by simp [reloadHotConfig, loadConfigLenient, onePerMinute,
        validateBackends, validateBackendsFrom, justLoaded]
  refine ⟨hloaded, (reload_unchanged_iff justLoaded hloaded [.message queryMessage] 60).2.mpr ?_⟩
  intro _ tool bucket hlookup _
  have hcharged : Charged gw justLoaded.hotConfig [.message queryMessage] st.hotConfig :=
    charged_after rfl [.message queryMessage]
  obtain ⟨-, line, hline, hcalled⟩ := hcharged.called tool bucket hlookup
  obtain rfl := List.mem_singleton.mp hline
  obtain rfl : "query" = tool := Option.some.inj hcalled
  have hrefilled : (st.hotConfig.rateLimiter.buckets.lookup ("admin", "query")).map
      TokenBucket.lastRefill = some 0 := by decide +kernel
  have hlast : bucket.lastRefill = 0 := by
    have hfound : st.hotConfig.rateLimiter.buckets.lookup ("admin", "query") = some bucket :=
      hlookup
    simpa [hfound] using hrefilled
  simp [hlast, elapsed]

/-- One second after the only call of a minute the next one is refused, unless the
unchanged file is reloaded in between. -/
theorem not_reload_unchanged :
    let gw := bare (.ofValues [queryMessage])
    let st := Runs.after gw.step justLoaded [.line (.message queryMessage)]
    reloadHotConfig onePerMinute "sentinel.toml" (.ok onePerMinuteToml) =
        .ok justLoaded.hotConfig ∧
      ¬∀ later, CallsFrom gw 0 later →
        Runs.outputs (gw.decidedStep gw.rateDecision) st later =
          Runs.outputs (gw.decidedStep gw.rateDecision)
            (gw.sighup onePerMinute "sentinel.toml" (.ok onePerMinuteToml) st) later := by
  intro gw st
  refine ⟨rfl, ?_⟩
  intro h
  have hcall : gw.HasMethod "tools/call"
      (.line { InboundLine.message queryMessage with checkedAt := 1 }) := ⟨_, _, rfl, rfl, rfl⟩
  have hsame := h [{ InboundLine.message queryMessage with checkedAt := 1 }]
    ⟨by simpa using hcall, by simp, by simp⟩
  exact absurd hsame (by decide +kernel)

end Gateway

end SentinelGateway
