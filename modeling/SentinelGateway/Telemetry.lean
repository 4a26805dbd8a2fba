import SentinelGateway.Audit
import SentinelGateway.Gateway.Locking

/-!
# Counters and rows

The dispatch loop tells of every call twice: it increments counters, and it offers an
entry to the audit log. Nobody compares the two. They agree all the same, for every tool
and every status, as long as the entries that were dropped because the channel was full
are added to those handed to the database.
-/

namespace SentinelGateway

/-- The number of entries about a tool with a status. -/
def entriesOf (tool status : String) (entries : List AuditEntry) : ℕ :=
  entries.countP fun entry => entry.toolName = tool ∧ entry.responseStatus = status

/-- The counters say what the entries say. -/
structure Reconciled (metrics : Metrics) (entries : List AuditEntry) : Prop where
  requests : ∀ tool status, metrics.requestsTotal (tool, status) = entriesOf tool status entries
  errors : ∀ tool status, metrics.errorsTotal (tool, status) =
    if status = "success" then 0 else entriesOf tool status entries
  hits : ∀ tool, metrics.rateLimitHitsTotal tool = entriesOf tool "rate_limited" entries
  durations : ∀ tool, (metrics.requestDurationSeconds tool).length =
    entries.countP fun entry => entry.toolName = tool

theorem reconciled_new : Reconciled .new [] :=
  ⟨fun _ _ => rfl, fun _ _ => by split_ifs <;> rfl, fun _ => rfl, fun _ => rfl⟩

/-- The order of the entries does not matter to the counters. -/
theorem Reconciled.perm {metrics : Metrics} {entries others : List AuditEntry}
    (h : Reconciled metrics entries) (hperm : entries.Perm others) :
    Reconciled metrics others := by
  have hcount : ∀ tool status, entriesOf tool status entries = entriesOf tool status others :=
    fun tool status => hperm.countP_eq _
  refine ⟨?_, ?_, ?_, ?_⟩
  · intro tool status
    rw [h.requests, hcount]
  · intro tool status
    rw [h.errors, hcount]
  · intro tool
    rw [h.hits, hcount]
  · intro tool
    rw [h.durations]
    exact hperm.countP_eq _

theorem entriesOf_concat (tool status : String) (entries : List AuditEntry) (entry : AuditEntry) :
    entriesOf tool status (entries ++ [entry]) = entriesOf tool status entries +
      if entry.toolName = tool ∧ entry.responseStatus = status then 1 else 0 := by
  rw [entriesOf, List.countP_append, List.countP_singleton, entriesOf]
  simp only [decide_eq_true_eq]

/-- The counter for the given labels is one higher. -/
theorem inc_apply {K : Type} [DecidableEq K] (counter : K → ℕ) (labels other : K) :
    inc counter labels other = counter other + if labels = other then 1 else 0 := by
  unfold inc
  by_cases h : labels = other
  · subst h
    rw [Function.update_self, if_pos rfl]
  · rw [Function.update_of_ne (Ne.symm h), if_neg h]
    rfl

/-- What the counters are told of a call: `record_request`, and `record_rate_limit_hit` if
it was refused for that reason. -/
def Metrics.recordCall (metrics : Metrics) (tool : String) (status : CallStatus)
    (seconds : Duration) : Metrics :=
  let counted := metrics.recordRequest tool status.label seconds
  if status = .rateLimited then counted.recordRateLimitHit tool else counted

theorem CallStatus.label_eq_rateLimited_iff (status : CallStatus) :
    status.label = "rate_limited" ↔ status = .rateLimited := by
  cases status <;> decide

/-- A call is told to the counters and to the log. -/
theorem Reconciled.record {metrics : Metrics} {entries : List AuditEntry}
    (h : Reconciled metrics entries) {entry : AuditEntry} {status : CallStatus}
    (hstatus : entry.responseStatus = status.label) (seconds : Duration) :
    Reconciled (metrics.recordCall entry.toolName status seconds) (entries ++ [entry]) := by
  have hrequests : (metrics.recordCall entry.toolName status seconds).requestsTotal =
      inc metrics.requestsTotal (entry.toolName, status.label) := by
    unfold Metrics.recordCall
    split_ifs <;> rfl
  have herrors : (metrics.recordCall entry.toolName status seconds).errorsTotal =
      if status.label ≠ "success" then inc metrics.errorsTotal (entry.toolName, status.label)
      else metrics.errorsTotal := by
    unfold Metrics.recordCall
    by_cases hlimited : status = .rateLimited
    · rw [if_pos hlimited]
      rfl
    · rw [if_neg hlimited]
      rfl
  have hhits : (metrics.recordCall entry.toolName status seconds).rateLimitHitsTotal =
      if status = .rateLimited then inc metrics.rateLimitHitsTotal entry.toolName
      else metrics.rateLimitHitsTotal := by
    unfold Metrics.recordCall
    split_ifs <;> rfl
  have hdurations : (metrics.recordCall entry.toolName status seconds).requestDurationSeconds =
      Function.update metrics.requestDurationSeconds entry.toolName
        (metrics.requestDurationSeconds entry.toolName ++ [seconds]) := by
    unfold Metrics.recordCall
    split_ifs <;> rfl
  refine ⟨?_, ?_, ?_, ?_⟩
  · intro tool label
    rw [hrequests, inc_apply, h.requests, entriesOf_concat, hstatus]
    simp only [Prod.mk.injEq]
  · intro tool label
    rw [herrors, entriesOf_concat, hstatus]
    by_cases hsuccess : status.label = "success"
    · rw [if_neg (not_not.mpr hsuccess), h.errors, hsuccess]
      by_cases hlabel : label = "success"
      · rw [if_pos hlabel, if_pos hlabel]
      · rw [if_neg hlabel, if_neg hlabel, if_neg (fun heq => hlabel heq.2.symm)]
        rfl
    · rw [if_pos hsuccess, inc_apply, h.errors]
      by_cases hlabel : label = "success"
      · have hne : (entry.toolName, status.label) ≠ (tool, label) := by
          intro heq
          exact hsuccess ((Prod.mk.inj heq).2.trans hlabel)
        rw [if_pos hlabel, if_pos hlabel, if_neg hne]
      · rw [if_neg hlabel, if_neg hlabel]
        simp only [Prod.mk.injEq]
  · intro tool
    rw [hhits, entriesOf_concat, hstatus]
    by_cases hlimited : status = .rateLimited
    · have hlabel := status.label_eq_rateLimited_iff.mpr hlimited
      rw [if_pos hlimited, inc_apply, h.hits]
      simp [hlabel]
    · have hlabel : status.label ≠ "rate_limited" :=
        fun heq => hlimited (status.label_eq_rateLimited_iff.mp heq)
      rw [if_neg hlimited, h.hits, if_neg (fun heq => hlabel heq.2)]
      rfl
  · intro tool
    rw [hdurations, List.countP_append, List.countP_singleton]
    by_cases htool : entry.toolName = tool
    · subst htool
      rw [Function.update_self, List.length_append, h.durations]
      simp
    · rw [Function.update_of_ne (Ne.symm htool), h.durations]
      simp [htool]

theorem Metrics.after_append (metrics : Metrics) (effects more : List Effect) :
    metrics.after (effects ++ more) = (metrics.after effects).after more :=
  List.foldl_append

namespace Gateway

variable {gw : Gateway} {st : DispatchState} {line : InboundLine} {id : JsonRpcId}
  {params : Option Json}

/-- The effects tell counters and log of the same call. -/
def TellsOf (effects : List Effect) (entry : AuditEntry) (status : CallStatus)
    (seconds : Duration) : Prop :=
  audits effects = [entry] ∧ entry.responseStatus = status.label ∧
    ∀ metrics : Metrics, metrics.after effects = metrics.recordCall entry.toolName status seconds

theorem tellsOf_reject (haudit : gw.auditTx = true) (hmetrics : gw.metrics = true)
    (name : String) (rejection : Rejection) :
    TellsOf (gw.reject line id name params rejection)
      (gw.auditEntry line name rejection.backendName params rejection.status
        (some rejection.message) 0) rejection.status 0 := by
  unfold TellsOf
  rw [reject_eq haudit hmetrics]
  refine ⟨?_, rfl, ?_⟩
  · split_ifs <;> rfl
  · intro metrics
    unfold Metrics.recordCall
    split_ifs <;> rfl

theorem tellsOf_report (haudit : gw.auditTx = true) (hmetrics : gw.metrics = true)
    (response : JsonRpcResponse) :
    ∃ entry status, TellsOf (gw.report line params response) entry status line.latencySecs := by
  unfold report
  rw [haudit, hmetrics]
  cases response.error with
  | none => exact ⟨_, .success, rfl, rfl, fun _ => rfl⟩
  | some error => exact ⟨_, .error, rfl, rfl, fun _ => rfl⟩

/-- What is sent to a backend is told neither the counters nor the log. -/
theorem TellsOf.after_sends {effects sent : List Effect} {entry : AuditEntry}
    {status : CallStatus} {seconds : Duration} (h : TellsOf effects entry status seconds)
    (hsent : sent = [] ∨ ∃ backendName backend body, sent = [.send backendName backend body]) :
    TellsOf (sent ++ effects) entry status seconds := by
  rcases hsent with rfl | ⟨backendName, backend, body, rfl⟩
  · exact h
  · exact ⟨h.1, h.2.1, h.2.2⟩

/-- Every call of a tool is told to both. -/
theorem tellsOf_of_isToolsCall (haudit : gw.auditTx = true) (hmetrics : gw.metrics = true)
    (h : IsToolsCall gw st line id params) :
    ∃ entry status seconds, TellsOf (gw.step st (.line line)).2 entry status seconds := by
  rw [step_of_isToolsCall h]
  rcases toolsCall_eq gw st line id params with ⟨name, rejection, -, -, heq⟩ | ⟨-, heq⟩
  · rw [heq]
    exact ⟨_, _, _, tellsOf_reject haudit hmetrics name rejection⟩
  · rw [heq, backendDispatch_eq_report]
    obtain ⟨entry, status, htells⟩ := tellsOf_report haudit hmetrics
      (gw.handleToolsCall _ line id params).2.2
    exact ⟨entry, status, _, htells.after_sends (handleToolsCall_effects gw _ line id params)⟩

/-- **One event.** What was reconciled remains so. -/
theorem reconciled_step (haudit : gw.auditTx = true) (hmetrics : gw.metrics = true)
    {metrics : Metrics} {entries : List AuditEntry} (h : Reconciled metrics entries)
    (st : DispatchState) (event : Event) :
    Reconciled (metrics.after (gw.step st event).2) (entries ++ audits (gw.step st event).2) := by
  cases hline : gw.callLine? st event with
  | some line =>
    obtain ⟨rfl, id, params, hcall⟩ := (gw.callLine?_eq_some_iff st event line).mp hline
    obtain ⟨entry, status, seconds, haudits, hlabel, hafter⟩ :=
      tellsOf_of_isToolsCall haudit hmetrics hcall
    rw [haudits, hafter]
    exact h.record hlabel seconds
  | none =>
    have hother : ∀ line id params, event = .line line → ¬IsToolsCall gw st line id params := by
      intro line id params hevent hcall
      have hsome := (gw.callLine?_eq_some_iff st event line).mpr ⟨hevent, id, params, hcall⟩
      rw [hline] at hsome
      cases hsome
    have hsilent := leavesNoRecord_of_not_toolsCall hother
    rw [hsilent.unaudited, hsilent.metrics_eq, List.append_nil]
    exact h

/-- The counters after a session say what its entries say. -/
theorem reconciled_session (haudit : gw.auditTx = true) (hmetrics : gw.metrics = true)
    (initial : DispatchState) (events : List Event) :
    Reconciled (Metrics.new.after (Runs.outputs gw.step initial events).flatten)
      ((Runs.outputs gw.step initial events).flatMap audits) := by
  induction events using List.reverseRecOn with
  | nil => exact reconciled_new
  | append_singleton events event ih =>
    rw [Runs.outputs_concat, List.flatten_append, List.flatten_singleton, Metrics.after_append,
      List.flatMap_append, List.flatMap_singleton]
    exact reconciled_step haudit hmetrics ih _ event

end Gateway

namespace AuditTrail

variable {gw : Gateway} {initial : DispatchState} {s : AuditTrail} {labels : List AuditLabel}

/-- **Reconciliation.** However dispatch loop, audit writer and shutdown were interleaved:
when the process ends, for every tool and every status, the counters count the entries
handed to the database and those that were dropped. -/
theorem counters_reconciled (haudit : gw.auditTx = true) (hmetrics : gw.metrics = true)
    (h : Runs.exec (step gw) (start initial) labels = some s) (hcomplete : s.stage = .complete) :
    Reconciled
      (Metrics.new.after (Runs.outputs gw.step initial (sessionEvents labels)).flatten)
      (s.attempted ++ s.dropped) := by
  have hperm := perm_of_complete (kept_of_exec h).2 hcomplete
  exact (Gateway.reconciled_session haudit hmetrics initial (sessionEvents labels)).perm hperm.symm

/-- The gateway of the run above, with metrics. -/
def countedGateway : Gateway := { auditedGateway with metrics := true }

/-- Two calls have been counted at its end, one of them as killed. -/
theorem counters_reconciled_two_calls :
    ∃ s, Runs.exec (step countedGateway) (start auditedInitial) twoCalls = some s ∧
      Reconciled (Metrics.new.after
          (Runs.outputs countedGateway.step auditedInitial (sessionEvents twoCalls)).flatten)
        (s.attempted ++ s.dropped) ∧
      entriesOf "drop" "killed" (s.attempted ++ s.dropped) = 1 := by
  have hfacts : (Runs.exec (step countedGateway) (start auditedInitial) twoCalls).map
      (fun s => (s.stage, entriesOf "drop" "killed" (s.attempted ++ s.dropped))) =
      some (.complete, 1) := by
    decide +kernel
  obtain ⟨s, hs, heq⟩ := Option.map_eq_some_iff.mp hfacts
  obtain ⟨hcomplete, hkilled⟩ := Prod.mk.inj heq
  exact ⟨s, hs, counters_reconciled rfl rfl hs hcomplete, hkilled⟩

end AuditTrail

end SentinelGateway
