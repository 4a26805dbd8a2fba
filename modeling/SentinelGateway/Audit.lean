import SentinelGateway.Gateway.Accounting
import SentinelGateway.Gateway.Mediation
import SentinelGateway.Library.Channel

/-!
# The audit trail

The dispatch loop offers an entry for each call of a tool to a channel of 1024
places and does not wait: an entry that finds the channel full is lost. The writer
takes the entries out one by one and inserts them into the database. At the end
`main` drops the last sender and waits for the writer, so whatever got into the
channel has been inserted, or its insertion has failed, before the process ends.
-/

namespace SentinelGateway

/-- Where `audit_writer` is: in its first loop, waiting or with an entry in hand, in
the loop that empties the channel, or past both. -/
inductive WriterPhase where
  | receiving
  | inserting (entry : AuditEntry)
  | draining
  | insertingDrained (entry : AuditEntry)
  | finished

/-- The entry the writer has taken out and not inserted yet. -/
def WriterPhase.inHand : WriterPhase → List AuditEntry
  | .inserting entry => [entry]
  | .insertingDrained entry => [entry]
  | .receiving | .draining | .finished => []

/-- Where `main` is: in `run_dispatch`, past it, waiting for the writer, or done. -/
inductive ShutdownStage where
  | dispatching
  | returned
  | waiting
  | complete
  deriving DecidableEq

/-- The senders of the audit channel that are left: one is `main`'s, the other one
belongs to `run_dispatch`. -/
def ShutdownStage.senders : ShutdownStage → ℕ
  | .dispatching => 2
  | .returned => 1
  | .waiting | .complete => 0

/-- The dispatch loop, the audit channel and its writer. `dropped` are the entries
that found the channel full, `attempted` those that were handed to
`insert_audit_entry`, and `rows` those it inserted. -/
structure AuditTrail where
  dispatch : DispatchState
  channel : Channel AuditEntry
  writer : WriterPhase
  stage : ShutdownStage
  dropped : List AuditEntry
  attempted : List AuditEntry
  rows : List AuditEntry

/-- The steps of dispatch loop, writer and `main`. -/
inductive AuditLabel where
  | dispatch (event : Event)
  | returnDispatch
  | dropSender
  | receive
  | tryReceive
  | insert (succeeds : Bool)
  | join

/-- The event of a session a step processes. -/
def AuditLabel.event? : AuditLabel → Option Event
  | .dispatch event => some event
  | _ => none

/-- The session in a run. -/
def sessionEvents (labels : List AuditLabel) : List Event := labels.filterMap AuditLabel.event?

namespace Gateway

variable {gw : Gateway} {st : DispatchState} {line : InboundLine} {id : JsonRpcId}
  {params : Option Json}

theorem audits_reject (name : String) (rejection : Rejection) :
    audits (gw.reject line id name params rejection) = if gw.auditTx then
      [gw.auditEntry line name rejection.backendName params rejection.status
        (some rejection.message) 0] else [] := by
  unfold reject
  split_ifs <;> rfl

/-- The last stage audits what `handle_tools_call` answers. -/
theorem audits_backendDispatch (gw : Gateway) (st : DispatchState) (line : InboundLine)
    (id : JsonRpcId) (params : Option Json) :
    ∃ status message, audits (gw.backendDispatch st line id params).2 = if gw.auditTx then
      [gw.auditEntry line ((toolName params).getD "unknown")
        (gw.auditedBackend ((toolName params).getD "unknown")) params status message
        line.latencyMs] else [] := by
  refine ⟨responseStatus (gw.handleToolsCall st line id params).2.2,
    (gw.handleToolsCall st line id params).2.2.error.map JsonRpcError.message, ?_⟩
  have hsends : audits (gw.handleToolsCall st line id params).2.1 = [] := by
    rcases handleToolsCall_effects gw st line id params with h | ⟨backendName, backend, body, h⟩ <;>
      rw [h] <;> rfl
  unfold backendDispatch
  simp only [audits, List.filterMap_append] at hsends ⊢
  rw [hsends]
  cases gw.metrics <;> cases gw.auditTx <;> rfl

/-- The entry of a call names the tool, the backend it routes to and the parameters of
the request, whatever became of the call. -/
theorem audits_of_isToolsCall (h : IsToolsCall gw st line id params) :
    ∃ status message latencyMs, audits (gw.step st (.line line)).2 = if gw.auditTx then
      [gw.auditEntry line ((toolName params).getD "unknown")
        (gw.auditedBackend ((toolName params).getD "unknown")) params status message latencyMs]
      else [] := by
  rw [step_of_isToolsCall h]
  rcases toolsCall_eq gw st line id params with ⟨name, rejection, hname, hpass, heq⟩ | ⟨-, heq⟩
  · refine ⟨rejection.status, some rejection.message, 0, ?_⟩
    rw [heq, hname, Option.getD_some, ← (reports_of_passGates hpass).backend_eq]
    exact audits_reject name rejection
  · obtain ⟨status, message, haudits⟩ :=
      audits_backendDispatch gw (gw.gated st line params) line id params
    exact ⟨status, message, line.latencyMs, by rw [heq, haudits]⟩

/-- An event offers at most one entry. -/
theorem length_audits_step_le (gw : Gateway) (st : DispatchState) (event : Event) :
    (audits (gw.step st event).2).length ≤ 1 := by
  by_cases h : ∃ line id params, event = .line line ∧ IsToolsCall gw st line id params
  · obtain ⟨line, id, params, rfl, hcall⟩ := h
    obtain ⟨status, message, latencyMs, haudits⟩ := audits_of_isToolsCall hcall
    rw [haudits]
    split_ifs <;> simp
  · rw [(leavesNoRecord_of_not_toolsCall fun line id params hevent hcall =>
      h ⟨line, id, params, hevent, hcall⟩).unaudited]
    exact Nat.zero_le _

/-- An event offers nothing, or the entry of a call by the gateway's caller. -/
theorem caller_of_mem_audits {event : Event} {entry : AuditEntry}
    (h : entry ∈ audits (gw.step st event).2) :
    entry.clientSubject = gw.identity.subject ∧ entry.clientRole = gw.identity.role := by
  by_cases hcall : ∃ line id params, event = .line line ∧ IsToolsCall gw st line id params
  · obtain ⟨line, id, params, rfl, hcall⟩ := hcall
    obtain ⟨status, message, latencyMs, haudits⟩ := audits_of_isToolsCall hcall
    rw [haudits] at h
    split_ifs at h
    · obtain rfl := List.mem_singleton.mp h
      exact ⟨rfl, rfl⟩
    · cases h
  · rw [(leavesNoRecord_of_not_toolsCall fun line id params hevent hother =>
      hcall ⟨line, id, params, hevent, hother⟩).unaudited] at h
    cases h

/-- A call that is sent is offered to the audit channel in the same step, with the
backend it is sent to and the parameters that are sent. -/
theorem sends_audited (haudit : gw.auditTx = true) (st : DispatchState) (event : Event) :
    ((sends (gw.step st event).2).map fun call => (call.1, call.2.2.get "params")).Sublist
      ((audits (gw.step st event).2).map fun entry => (entry.backendName, entry.requestArgs)) := by
  rcases send_cases gw st event with ⟨hsilent, -⟩ |
    ⟨line, id, name, params, backendName, backend, rfl, hcall, -, -, hroute, -, -, hsends⟩
  · rw [hsilent]
    exact List.nil_sublist _
  · obtain ⟨status, message, latencyMs, haudits⟩ := audits_of_isToolsCall hcall.isToolsCall
    have hbackend : gw.auditedBackend ((toolName params).getD "unknown") = backendName := by
      rw [hcall.named, Option.getD_some, auditedBackend, hroute, Option.getD_some]
    rw [hsends, haudits, if_pos haudit, hbackend]
    simp only [List.map_cons, List.map_nil, get_params_outboundRequest hcall.named]
    exact List.Sublist.refl _

end Gateway

namespace AuditTrail

variable {gw : Gateway} {initial : DispatchState} {s t : AuditTrail}

/-- The state before the first line. -/
def start (initial : DispatchState) : AuditTrail :=
  { dispatch := initial, channel := .new 1024 2, writer := .receiving, stage := .dispatching,
    dropped := [], attempted := [], rows := [] }

/-- An entry is offered to the channel with `try_send`. -/
def offer (s : AuditTrail) (entry : AuditEntry) : AuditTrail :=
  { s with
    channel := (s.channel.trySend entry).1
    dropped := s.dropped ++ if (s.channel.trySend entry).2 then [] else [entry] }

/-- `insert_audit_entry`, whose error is only logged. -/
def insert (s : AuditTrail) (entry : AuditEntry) (succeeds : Bool) : AuditTrail :=
  { s with
    attempted := s.attempted ++ [entry]
    rows := s.rows ++ if succeeds then [entry] else [] }

/-- One step. -/
def step (gw : Gateway) (s : AuditTrail) : AuditLabel → Option AuditTrail
  | .dispatch event =>
    match s.stage with
    | .dispatching =>
      some ((audits (gw.step s.dispatch event).2).foldl offer
        { s with dispatch := (gw.step s.dispatch event).1 })
    | _ => none
  | .returnDispatch =>
    match s.stage with
    | .dispatching => some { s with stage := .returned, channel := s.channel.dropSender }
    | _ => none
  | .dropSender =>
    match s.stage with
    | .returned => some { s with stage := .waiting, channel := s.channel.dropSender }
    | _ => none
  | .receive =>
    match s.writer with
    | .receiving => s.channel.recv.map fun result =>
        { s with
          channel := result.1
          writer := match result.2 with
            | some entry => .inserting entry
            | none => .draining }
    | _ => none
  | .tryReceive =>
    match s.writer, s.channel.queue with
    | .draining, entry :: _ =>
      some { s with channel := s.channel.pop, writer := .insertingDrained entry }
    | .draining, [] => some { s with channel := s.channel.dropReceiver, writer := .finished }
    | _, _ => none
  | .insert succeeds =>
    match s.writer with
    | .inserting entry => some { s.insert entry succeeds with writer := .receiving }
    | .insertingDrained entry => some { s.insert entry succeeds with writer := .draining }
    | _ => none
  | .join =>
    match s.stage, s.writer with
    | .waiting, .finished => some { s with stage := .complete }
    | _, _ => none

/-- Everything a step can do, with the state in which it can be done. -/
inductive StepCase (gw : Gateway) (s : AuditTrail) : AuditLabel → AuditTrail → Prop
  | dispatched (event : Event) (stage : s.stage = .dispatching) :
      StepCase gw s (.dispatch event) ((audits (gw.step s.dispatch event).2).foldl offer
        { s with dispatch := (gw.step s.dispatch event).1 })
  | returned (stage : s.stage = .dispatching) :
      StepCase gw s .returnDispatch { s with stage := .returned, channel := s.channel.dropSender }
  | released (stage : s.stage = .returned) :
      StepCase gw s .dropSender { s with stage := .waiting, channel := s.channel.dropSender }
  | received (entry : AuditEntry) (writer : s.writer = .receiving)
      (queue : s.channel.queue = entry :: s.channel.pop.queue) :
      StepCase gw s .receive { s with channel := s.channel.pop, writer := .inserting entry }
  | ended (writer : s.writer = .receiving) (queue : s.channel.queue = [])
      (senders : s.channel.senders = 0) :
      StepCase gw s .receive { s with writer := .draining }
  | receivedLate (entry : AuditEntry) (writer : s.writer = .draining)
      (queue : s.channel.queue = entry :: s.channel.pop.queue) :
      StepCase gw s .tryReceive
        { s with channel := s.channel.pop, writer := .insertingDrained entry }
  | finished (writer : s.writer = .draining) (queue : s.channel.queue = []) :
      StepCase gw s .tryReceive { s with channel := s.channel.dropReceiver, writer := .finished }
  | inserted (entry : AuditEntry) (succeeds : Bool) (writer : s.writer = .inserting entry) :
      StepCase gw s (.insert succeeds) { s.insert entry succeeds with writer := .receiving }
  | insertedLate (entry : AuditEntry) (succeeds : Bool)
      (writer : s.writer = .insertingDrained entry) :
      StepCase gw s (.insert succeeds) { s.insert entry succeeds with writer := .draining }
  | joined (stage : s.stage = .waiting) (writer : s.writer = .finished) :
      StepCase gw s .join { s with stage := .complete }

/-- **Inversion.** Every step is one of the listed ones. -/
theorem step_cases {label : AuditLabel} (h : s.step gw label = some t) :
    StepCase gw s label t := by
  cases label with
  | dispatch event =>
    cases hstage : s.stage with
    | dispatching =>
      obtain rfl : _ = t := by simpa [step, hstage] using h
      rw [← hstage]
      exact .dispatched event hstage
    | returned | waiting | complete => simp [step, hstage] at h
  | returnDispatch =>
    cases hstage : s.stage with
    | dispatching =>
      obtain rfl : _ = t := by simpa [step, hstage] using h
      exact .returned hstage
    | returned | waiting | complete => simp [step, hstage] at h
  | dropSender =>
    cases hstage : s.stage with
    | returned =>
      obtain rfl : _ = t := by simpa [step, hstage] using h
      exact .released hstage
    | dispatching | waiting | complete => simp [step, hstage] at h
  | receive =>
    cases hwriter : s.writer with
    | receiving =>
      simp only [step, hwriter] at h
      obtain ⟨⟨channel, message⟩, hrecv, rfl⟩ := Option.map_eq_some_iff.mp h
      rcases Channel.recv_cases hrecv with ⟨entry, rfl, hqueue, rfl⟩ | ⟨rfl, hqueue, hsenders, rfl⟩
      · exact .received entry hwriter hqueue
      · exact .ended hwriter hqueue hsenders
    | inserting | draining | insertingDrained | finished => simp [step, hwriter] at h
  | tryReceive =>
    cases hwriter : s.writer with
    | draining =>
      cases hqueue : s.channel.queue with
      | cons entry rest =>
        obtain rfl : _ = t := by simpa [step, hwriter, hqueue] using h
        exact .receivedLate entry hwriter (by simp [hqueue])
      | nil =>
        obtain rfl : _ = t := by simpa [step, hwriter, hqueue] using h
        exact .finished hwriter hqueue
    | receiving | inserting | insertingDrained | finished => simp [step, hwriter] at h
  | insert succeeds =>
    cases hwriter : s.writer with
    | inserting entry =>
      obtain rfl : _ = t := by simpa [step, hwriter] using h
      exact .inserted entry succeeds hwriter
    | insertingDrained entry =>
      obtain rfl : _ = t := by simpa [step, hwriter] using h
      exact .insertedLate entry succeeds hwriter
    | receiving | draining | finished => simp [step, hwriter] at h
  | join =>
    cases hstage : s.stage with
    | waiting =>
      cases hwriter : s.writer with
      | finished =>
        obtain rfl : _ = t := by simpa [step, hstage, hwriter] using h
        rw [← hwriter]
        exact .joined hstage hwriter
      | receiving | inserting | draining | insertingDrained => simp [step, hstage, hwriter] at h
    | dispatching | returned | complete => simp [step, hstage] at h

/-- What is known of a run in which the entries `offered` were offered: those that got
into the channel, in order, have been handed to the database, are in the writer's hand
or in the channel, and the others were dropped. The writer leaves its first loop when
all senders are gone and the channel is empty, so the second loop finds nothing. -/
structure Kept (offered : List AuditEntry) (s : AuditTrail) : Prop where
  in_order : (s.attempted ++ s.writer.inHand ++ s.channel.queue).Sublist offered
  conserved : (s.attempted ++ s.writer.inHand ++ s.channel.queue ++ s.dropped).Perm offered
  rows : s.rows.Sublist s.attempted
  capacity : s.channel.capacity = 1024
  senders : s.channel.senders = s.stage.senders
  receiver : s.channel.receiverOpen = true ∨ s.writer = .finished
  past_loop : s.writer = .draining ∨ s.writer = .finished →
    s.channel.queue = [] ∧ s.stage.senders = 0
  not_late : ∀ entry, s.writer ≠ .insertingDrained entry
  joined : s.stage = .complete → s.writer = .finished

theorem kept_start (initial : DispatchState) : Kept [] (start initial) :=
  ⟨by simp [start, WriterPhase.inHand, Channel.new],
    by simp [start, WriterPhase.inHand, Channel.new],
    by simp [start], rfl, rfl, Or.inl rfl, by simp [start], by simp [start], by simp [start]⟩

/-- An offered entry goes to the end of the channel, or there is no room and it is
dropped. -/
theorem offer_cases (s : AuditTrail) (entry : AuditEntry) :
    (∃ h : s.channel.Ready, s.offer entry = { s with channel := s.channel.push entry h }) ∨
      ¬s.channel.Ready ∧ s.offer entry = { s with dropped := s.dropped ++ [entry] } := by
  unfold offer
  rcases s.channel.trySend_cases entry with ⟨hready, hsend⟩ | ⟨hfull, hsend⟩
  · refine Or.inl ⟨hready, ?_⟩
    simp [hsend]
  · refine Or.inr ⟨hfull, ?_⟩
    simp [hsend]

/-- While lines are processed an offered entry is accounted for, and nothing else of
what is known is touched. -/
theorem Kept.offer {offered : List AuditEntry} (h : Kept offered s)
    (hstage : s.stage = .dispatching) (entry : AuditEntry) :
    Kept (offered ++ [entry]) (s.offer entry) := by
  rcases offer_cases s entry with ⟨hready, hoffer⟩ | ⟨-, hoffer⟩ <;> rw [hoffer]
  · refine ⟨?_, ?_, h.rows, h.capacity, h.senders, h.receiver, ?_, h.not_late, h.joined⟩
    · rw [Channel.queue_push, ← List.append_assoc]
      exact h.in_order.append (List.Sublist.refl _)
    · rw [Channel.queue_push, ← List.append_assoc, List.append_assoc _ [entry]]
      have hcomm : ([entry] ++ s.dropped).Perm (s.dropped ++ [entry]) := List.perm_append_comm
      have hswap := hcomm.append_left (s.attempted ++ s.writer.inHand ++ s.channel.queue)
      rw [← List.append_assoc _ s.dropped] at hswap
      exact hswap.trans (h.conserved.append_right [entry])
    · intro hpast
      have hnone := (h.past_loop hpast).2
      rw [hstage] at hnone
      cases hnone
  · refine ⟨h.in_order.trans (List.sublist_append_left _ _), ?_, h.rows, h.capacity, h.senders,
      h.receiver, h.past_loop, h.not_late, h.joined⟩
    rw [← List.append_assoc]
    exact h.conserved.append_right [entry]

theorem stage_offer (s : AuditTrail) (entry : AuditEntry) : (s.offer entry).stage = s.stage := rfl

/-- All entries of an event are accounted for. -/
theorem Kept.offerAll {offered : List AuditEntry} (h : Kept offered s)
    (hstage : s.stage = .dispatching) (entries : List AuditEntry) :
    Kept (offered ++ entries) (entries.foldl AuditTrail.offer s) := by
  induction entries generalizing offered s with
  | nil => simpa using h
  | cons entry entries ih =>
    have hnext := ih (h.offer hstage entry) ((stage_offer s entry).trans hstage)
    rwa [List.append_assoc, List.singleton_append] at hnext

/-- Handing the entry in hand to the database changes nothing about the others. -/
theorem Kept.insert {offered : List AuditEntry} (h : Kept offered s) {entry : AuditEntry}
    (hwriter : s.writer = .inserting entry) (succeeds : Bool) :
    Kept offered { s.insert entry succeeds with writer := .receiving } := by
  have horder := h.in_order
  have hconserved := h.conserved
  rw [hwriter] at horder hconserved
  refine ⟨?_, ?_, ?_, h.capacity, h.senders, ?_, by simp, by simp, ?_⟩
  · simpa [AuditTrail.insert, WriterPhase.inHand] using horder
  · simpa [AuditTrail.insert, WriterPhase.inHand] using hconserved
  · refine h.rows.append ?_
    cases succeeds <;> simp
  · exact Or.inl (h.receiver.resolve_right (by simp [hwriter]))
  · intro hcomplete
    have hfinished := h.joined hcomplete
    rw [hwriter] at hfinished
    cases hfinished

/-- What a step adds to the offered entries. -/
def offeredBy (gw : Gateway) (s : AuditTrail) : AuditLabel → List AuditEntry
  | .dispatch event => audits (gw.step s.dispatch event).2
  | _ => []

/-- Every step keeps the account. -/
theorem Kept.step {offered : List AuditEntry} (h : Kept offered s) {label : AuditLabel}
    (hcase : StepCase gw s label t) : Kept (offered ++ offeredBy gw s label) t := by
  cases hcase with
  | dispatched event stage =>
    exact Kept.offerAll (s := { s with dispatch := (gw.step s.dispatch event).1 })
      ⟨h.in_order, h.conserved, h.rows, h.capacity, h.senders, h.receiver, h.past_loop, h.not_late,
        h.joined⟩ stage _
  | returned stage =>
    have hsenders := h.senders
    rw [stage] at hsenders
    refine ⟨by simpa [offeredBy] using h.in_order, by simpa [offeredBy] using h.conserved, h.rows,
      h.capacity, ?_, h.receiver, ?_, h.not_late, by simp⟩
    · simp [Channel.dropSender, hsenders, ShutdownStage.senders]
    · intro hpast
      have hnone := (h.past_loop hpast).2
      rw [stage] at hnone
      cases hnone
  | released stage =>
    have hsenders := h.senders
    rw [stage] at hsenders
    refine ⟨by simpa [offeredBy] using h.in_order, by simpa [offeredBy] using h.conserved, h.rows,
      h.capacity, ?_, h.receiver, ?_, h.not_late, by simp⟩
    · simp [Channel.dropSender, hsenders, ShutdownStage.senders]
    · intro hpast
      exact ⟨(h.past_loop hpast).1, rfl⟩
  | received entry writer queue =>
    have horder := h.in_order
    have hconserved := h.conserved
    rw [writer, queue] at horder hconserved
    refine ⟨?_, ?_, h.rows, h.capacity, h.senders, ?_, by simp, by simp, ?_⟩
    · simpa [offeredBy, WriterPhase.inHand] using horder
    · simpa [offeredBy, WriterPhase.inHand] using hconserved
    · exact Or.inl (h.receiver.resolve_right (by simp [writer]))
    · intro hcomplete
      have hfinished := h.joined hcomplete
      rw [writer] at hfinished
      cases hfinished
  | ended writer queue senders =>
    have horder := h.in_order
    have hconserved := h.conserved
    rw [writer] at horder hconserved
    refine ⟨by simpa [offeredBy, WriterPhase.inHand] using horder,
      by simpa [offeredBy, WriterPhase.inHand] using hconserved, h.rows, h.capacity, h.senders,
      ?_, ?_, by simp, ?_⟩
    · exact Or.inl (h.receiver.resolve_right (by simp [writer]))
    · exact fun _ => ⟨queue, h.senders.symm.trans senders⟩
    · intro hcomplete
      have hfinished := h.joined hcomplete
      rw [writer] at hfinished
      cases hfinished
  | receivedLate entry writer queue =>
    -- the first loop has emptied the channel
    rw [(h.past_loop (Or.inl writer)).1] at queue
    cases queue
  | finished writer queue =>
    have horder := h.in_order
    have hconserved := h.conserved
    rw [writer] at horder hconserved
    refine ⟨?_, ?_, h.rows, h.capacity, h.senders, Or.inr rfl, ?_, by simp, fun _ => rfl⟩
    · simpa [offeredBy, WriterPhase.inHand, queue] using horder
    · simpa [offeredBy, WriterPhase.inHand, queue] using hconserved
    · exact fun _ => ⟨rfl, (h.past_loop (Or.inl writer)).2⟩
  | inserted entry succeeds writer => simpa [offeredBy] using h.insert writer succeeds
  | insertedLate entry succeeds writer => exact absurd writer (h.not_late entry)
  | joined stage writer =>
    have hsenders := h.senders
    rw [stage] at hsenders
    exact ⟨by simpa [offeredBy] using h.in_order, by simpa [offeredBy] using h.conserved, h.rows,
      h.capacity, hsenders, h.receiver, fun hpast => ⟨(h.past_loop hpast).1, rfl⟩, h.not_late,
      fun _ => writer⟩

theorem dispatch_foldl_offer (s : AuditTrail) (entries : List AuditEntry) :
    (entries.foldl offer s).dispatch = s.dispatch := by
  induction entries generalizing s with
  | nil => rfl
  | cons entry entries ih => exact ih (s.offer entry)

/-- The dispatch loop moves with the events, and with nothing else. -/
theorem dispatch_step {label : AuditLabel} (hcase : StepCase gw s label t) :
    t.dispatch = Runs.after gw.step s.dispatch label.event?.toList := by
  cases hcase with
  | dispatched event stage => exact dispatch_foldl_offer _ _
  | returned | released | received | ended | receivedLate | finished | inserted | insertedLate
  | joined => rfl

/-- The entries a session offers. -/
def offeredIn (gw : Gateway) (initial : DispatchState) (events : List Event) : List AuditEntry :=
  (Runs.outputs gw.step initial events).flatMap audits

/-- In every run the dispatch loop is where its session leads, and every entry the
session offered is accounted for. -/
theorem kept_of_exec {labels : List AuditLabel}
    (h : Runs.exec (step gw) (start initial) labels = some s) :
    s.dispatch = Runs.after gw.step initial (sessionEvents labels) ∧
      Kept (offeredIn gw initial (sessionEvents labels)) s := by
  refine Runs.exec_induction (step gw) (motive := fun labels s =>
    s.dispatch = Runs.after gw.step initial (sessionEvents labels) ∧
      Kept (offeredIn gw initial (sessionEvents labels)) s) ⟨rfl, kept_start initial⟩ ?_ h
  rintro labels label s t - ⟨hdispatch, hkept⟩ hstep
  have hcase := step_cases hstep
  have hevents : sessionEvents (labels ++ [label]) =
      sessionEvents labels ++ label.event?.toList := by
    rw [sessionEvents, List.filterMap_append]
    cases hevent : label.event? <;> simp [hevent, sessionEvents]
  have hoffered : offeredIn gw initial (sessionEvents (labels ++ [label])) =
      offeredIn gw initial (sessionEvents labels) ++ offeredBy gw s label := by
    rw [hevents, offeredIn, Runs.outputs_append, List.flatMap_append, ← hdispatch]
    congr 1
    cases label <;> simp [AuditLabel.event?, offeredBy]
  refine ⟨?_, ?_⟩
  · rw [dispatch_step hcase, hevents, Runs.after_append, hdispatch]
  · rw [hoffered]
    exact hkept.step hcase

/-- Whenever an event is processed, the channel has a place left. -/
def NeverFull (gw : Gateway) (initial : DispatchState) (labels : List AuditLabel) : Prop :=
  ∀ before event after s, labels = before ++ .dispatch event :: after →
    Runs.exec (step gw) (start initial) before = some s → s.channel.queue.length < 1024

/-- A channel with a place left takes what an event offers. -/
theorem dropped_dispatch {offered : List AuditEntry} (h : Kept offered s)
    (hstage : s.stage = .dispatching) (hroom : s.channel.queue.length < 1024) (event : Event) :
    ((audits (gw.step s.dispatch event).2).foldl offer
      { s with dispatch := (gw.step s.dispatch event).1 }).dropped = s.dropped := by
  have hready : s.channel.Ready := by
    refine ⟨h.receiver.resolve_right ?_, h.capacity ▸ hroom⟩
    intro hfinished
    have hnone := (h.past_loop (Or.inr hfinished)).2
    rw [hstage] at hnone
    cases hnone
  have hone := Gateway.length_audits_step_le gw s.dispatch event
  cases hentries : audits (gw.step s.dispatch event).2 with
  | nil => rfl
  | cons entry rest =>
    rw [hentries, List.length_cons] at hone
    obtain rfl : rest = [] := List.length_eq_zero_iff.mp (by omega)
    rcases offer_cases { s with dispatch := (gw.step s.dispatch event).1 } entry with
      ⟨_, hoffer⟩ | ⟨hfull, -⟩
    · rw [List.foldl_cons, List.foldl_nil, hoffer]
    · exact absurd hready hfull

theorem dropped_of_neverFull {labels : List AuditLabel}
    (h : Runs.exec (step gw) (start initial) labels = some s)
    (hroom : NeverFull gw initial labels) : s.dropped = [] := by
  refine Runs.exec_induction (step gw) (motive := fun labels s =>
    NeverFull gw initial labels → s.dropped = []) (fun _ => rfl) ?_ h hroom
  intro labels label s t hexec ih hstep hroom
  have hbefore : NeverFull gw initial labels := fun before event after u hlabels =>
    hroom before event (after ++ [label]) u (by simp [hlabels])
  have hdropped := ih hbefore
  have hkept := (kept_of_exec hexec).2
  cases step_cases hstep with
  | dispatched event stage =>
    rw [dropped_dispatch hkept stage (hroom labels event [] s rfl hexec), hdropped]
  | returned | released | received | ended | receivedLate | finished | inserted | insertedLate
  | joined => exact hdropped

theorem length_offeredIn_le (gw : Gateway) (initial : DispatchState) (events : List Event) :
    (offeredIn gw initial events).length ≤ events.length := by
  induction events generalizing initial with
  | nil => simp [offeredIn]
  | cons event events ih =>
    have hone := Gateway.length_audits_step_le gw initial event
    have hrest := ih (gw.step initial event).1
    rw [offeredIn] at hrest
    rw [offeredIn, Runs.outputs_cons, List.flatMap_cons, List.length_append, List.length_cons]
    omega

/-- A session of no more events than there are places never fills the channel. -/
theorem neverFull_of_length_le {labels : List AuditLabel}
    (h : (sessionEvents labels).length ≤ 1024) : NeverFull gw initial labels := by
  rintro before event after s rfl hexec
  have hkept := (kept_of_exec hexec).2
  have hqueue := hkept.in_order.length_le
  have hoffered := length_offeredIn_le gw initial (sessionEvents before)
  have hlength : (sessionEvents before).length <
      (sessionEvents (before ++ .dispatch event :: after)).length := by
    simp [sessionEvents, AuditLabel.event?]
  simp only [List.length_append] at hqueue
  omega

/-- When the process ends, every entry was handed to the database or dropped. -/
theorem perm_of_complete {offered : List AuditEntry} (h : Kept offered s)
    (hcomplete : s.stage = .complete) : (s.attempted ++ s.dropped).Perm offered := by
  have hfinished := h.joined hcomplete
  have hperm := h.conserved
  rw [(h.past_loop (Or.inr hfinished)).1, hfinished] at hperm
  simpa only [WriterPhase.inHand, List.append_nil] using hperm

theorem Kept.attempted_sublist {offered : List AuditEntry} (h : Kept offered s) :
    s.attempted.Sublist offered := by
  refine List.Sublist.trans ?_ h.in_order
  rw [List.append_assoc]
  exact List.sublist_append_left _ _

/-- If nothing was dropped, what was handed to the database is what was offered. -/
theorem attempted_of_complete {labels : List AuditLabel}
    (h : Runs.exec (step gw) (start initial) labels = some s) (hcomplete : s.stage = .complete)
    (hroom : NeverFull gw initial labels) :
    s.attempted = offeredIn gw initial (sessionEvents labels) := by
  have hkept := (kept_of_exec h).2
  have hperm := perm_of_complete hkept hcomplete
  rw [dropped_of_neverFull h hroom, List.append_nil] at hperm
  exact hkept.attempted_sublist.eq_of_length hperm.length_eq

/-- **Audit trail.** In every run of dispatch loop, writer and shutdown, the rows are
among the entries handed to the database, and these are entries the session offered,
in its order and each once. When the process ends, all the others were dropped, and
if the channel always had a place left, there are no others. -/
theorem inserted_in_order (gw : Gateway) (initial : DispatchState) {labels : List AuditLabel}
    (h : Runs.exec (step gw) (start initial) labels = some s) :
    s.rows.Sublist s.attempted ∧
      s.attempted.Sublist (offeredIn gw initial (sessionEvents labels)) ∧
      (s.stage = .complete →
        (s.attempted ++ s.dropped).Perm (offeredIn gw initial (sessionEvents labels)) ∧
        (NeverFull gw initial labels →
          s.attempted = offeredIn gw initial (sessionEvents labels))) := by
  have hkept := (kept_of_exec h).2
  refine ⟨hkept.rows, hkept.attempted_sublist, ?_⟩
  intro hcomplete
  exact ⟨perm_of_complete hkept hcomplete, attempted_of_complete h hcomplete⟩

/-- A run of the whole process with one call that is rejected and one that is sent. -/
def twoCalls : List AuditLabel :=
  handshake.map .dispatch ++ [.dispatch (.line (.message (callJson 8 "drop"))), .receive,
    .dispatch (.line (.message queryMessage)), .insert true, .receive, .insert false,
    .returnDispatch, .dropSender, .receive, .tryReceive, .join]

/-- The gateway of that run. -/
def auditedGateway : Gateway :=
  { Gateway.bare
      (.ofValues (handshakeMessages ++ [queryMessage, callJson 8 "drop"])) with
    catalog := ToolCatalog.new.registerBackend "db"
      [⟨"query", none, [], []⟩, ⟨"drop", none, [], []⟩]
    backends := AList.singleton "db" (.stdio ⟨"db", 0, 60⟩)
    auditTx := true }

/-- The state that run starts in. -/
def auditedInitial : DispatchState :=
  Gateway.start ⟨{ disabledTools := ["drop"] }, .new {}⟩ .new ∅

/-- That run is possible. Its second insertion fails. -/
theorem exec_twoCalls :
    ∃ s, Runs.exec (step auditedGateway) (start auditedInitial) twoCalls = some s ∧
      s.attempted.map AuditEntry.responseStatus = ["killed", "error"] ∧
      s.rows.map AuditEntry.responseStatus = ["killed"] ∧ s.stage = .complete := by
  have hfacts : (Runs.exec (step auditedGateway) (start auditedInitial) twoCalls).map
      (fun s => (s.attempted.map AuditEntry.responseStatus, s.rows.map AuditEntry.responseStatus,
        s.stage)) = some (["killed", "error"], ["killed"], .complete) := by
    decide +kernel
  obtain ⟨s, hs, heq⟩ := Option.map_eq_some_iff.mp hfacts
  obtain ⟨hattempted, heq⟩ := Prod.mk.inj heq
  obtain ⟨hrows, hstage⟩ := Prod.mk.inj heq
  exact ⟨s, hs, hattempted, hrows, hstage⟩

/-- Both entries are handed to the database, and one row is made. -/
theorem inserted_in_order_two_calls :
    ∃ s, Runs.exec (step auditedGateway) (start auditedInitial) twoCalls = some s ∧
      s.attempted = offeredIn auditedGateway auditedInitial (sessionEvents twoCalls) ∧
      s.attempted.map AuditEntry.responseStatus = ["killed", "error"] ∧
      s.rows.map AuditEntry.responseStatus = ["killed"] := by
  obtain ⟨s, hs, hattempted, hrows, hcomplete⟩ := exec_twoCalls
  have hroom : NeverFull auditedGateway auditedInitial twoCalls :=
    neverFull_of_length_le (by decide)
  exact ⟨s, hs, ((inserted_in_order auditedGateway auditedInitial hs).2.2 hcomplete).2 hroom,
    hattempted, hrows⟩

/-- **No unaudited call.** In every run to the end in which the channel always had a
place left, each call sent to a backend was handed to the database, with the backend,
the parameters that were sent and the caller of the session, in the order of sending. -/
theorem forwarded_inserted (haudit : gw.auditTx = true) {labels : List AuditLabel}
    (h : Runs.exec (step gw) (start initial) labels = some s) (hcomplete : s.stage = .complete)
    (hroom : NeverFull gw initial labels) :
    (((Runs.outputs gw.step initial (sessionEvents labels)).flatMap sends).map fun call =>
        (call.1, call.2.2.get "params")).Sublist
      (s.attempted.map fun entry => (entry.backendName, entry.requestArgs)) ∧
    ∀ entry ∈ s.attempted,
      entry.clientSubject = gw.identity.subject ∧ entry.clientRole = gw.identity.role := by
  rw [attempted_of_complete h hcomplete hroom, offeredIn]
  clear h hroom
  generalize sessionEvents labels = events
  induction events generalizing initial with
  | nil => simp
  | cons event events ih =>
    obtain ⟨hsent, hcaller⟩ := @ih (gw.step initial event).1
    rw [Runs.outputs_cons, List.flatMap_cons, List.flatMap_cons, List.map_append, List.map_append]
    refine ⟨(Gateway.sends_audited haudit initial event).append hsent, ?_⟩
    intro entry hentry
    rcases List.mem_append.mp hentry with hnow | hlater
    · exact Gateway.caller_of_mem_audits hnow
    · exact hcaller entry hlater

/-- The call that is sent is among the entries of the run above. -/
theorem forwarded_inserted_two_calls :
    ∃ s, Runs.exec (step auditedGateway) (start auditedInitial) twoCalls = some s ∧
      (((Runs.outputs auditedGateway.step auditedInitial (sessionEvents twoCalls)).flatMap
          sends).map fun call => (call.1, call.2.2.get "params")).Sublist
        (s.attempted.map fun entry => (entry.backendName, entry.requestArgs)) ∧
      ((Runs.outputs auditedGateway.step auditedInitial (sessionEvents twoCalls)).flatMap
        sends).map Prod.fst = ["db"] := by
  obtain ⟨s, hs, -, -, hcomplete⟩ := exec_twoCalls
  have hroom : NeverFull auditedGateway auditedInitial twoCalls :=
    neverFull_of_length_le (by decide)
  exact ⟨s, hs, (forwarded_inserted rfl hs hcomplete hroom).1, by decide +kernel⟩

end AuditTrail

end SentinelGateway
