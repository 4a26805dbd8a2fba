import SentinelGateway.Gateway.Locking
import SentinelGateway.Stdio.Blocking
import SentinelGateway.Stdio.Draining
import SentinelGateway.Stdio.Traffic

/-!
# The dispatch loop and a child

The calls of a child may overlap in every way, as far as the child is concerned. The one
who makes them is the dispatch loop, which waits for each of them before it takes up its
next line. So there is one request at most that a line of the child may answer when the
reader comes to it. What it says too late reaches nobody, and what it says too early
neither, unless the reader comes to it only when the call is made. But a child that does
not read what is written to it stops the whole gateway, once the queue in front of it is
full.
-/

namespace SentinelGateway

/-- A call of a child: the text that is sent to it, and what `StdioBackend::send` returns. -/
structure ChildCall where
  body : String
  outcome : Except BackendError String

/-- The call of the child that the dispatch loop waits for. -/
def LinePhase.callTo (gw : Gateway) (child : StdioBackend) : LinePhase → Option ChildCall
  | .calling line params backendName gatewayId =>
    if gw.backends.lookup backendName = some (.stdio child) then
      some { body := gw.serde.toString (outboundRequest gatewayId params), outcome := line.outcome }
    else none
  | _ => none

/-- A call that is over, with the lines the reader came to in the meantime. -/
structure ServedCall where
  call : ChildCall
  heard : List String

/-- The dispatch loop with a child of one of its backends. The child has printed lines that
its reader has not come to: they are in the pipe, in the buffer of the reader or with its
parser, and their identifiers were not looked up. The last call of the child has the ticket,
and since it was made the reader came to the lines that are heard. -/
structure ServedChild where
  loop : LockedDispatch
  pipe : ChildPipe
  unread : List String
  ticket : ℕ
  heard : List String
  served : List ServedCall

/-- A step of the loop or of the handler of SIGHUP, with a ticket in case the child is
called, or one of the tasks around the child, or the child prints a line. -/
inductive ServingLabel where
  | loop (label : LockLabel) (ticket : ℕ)
  | child (label : PipeLabel)
  | print (line : String)

/-- The step is one of the stdin writer. -/
def ServingLabel.isWriter : ServingLabel → Bool
  | .loop _ _ | .print _ => false
  | .child label => label.isWriter

namespace ChildPipe

variable {serde : SerdeJson} {lines : List String} {s t : ChildPipe} {ticket : ℕ}

theorem phaseOf_of_lookup {send : Send} (hsend : s.sends.lookup ticket = some send) :
    s.phaseOf ticket = some send.phase := by
  rw [phaseOf, hsend, Option.map_some]

/-- A call that begins was not made before. -/
theorem fresh_of_begin {body : String} (h : s.step serde (.begin ticket body) = some t) :
    s.sends.lookup ticket = none := by
  refine AList.lookup_eq_none.mpr fun hmem => ?_
  simp [step, hmem] at h

/-- What `StdioBackend::send` has returned. A text without an identifier is not sent. -/
def result (serde : SerdeJson) (s : ChildPipe) (ticket : ℕ) (body : String) :
    Option (Except BackendError String) :=
  match requestId serde body with
  | .error e => some (.error e)
  | .ok _ => (s.phaseOf ticket).bind fun
    | .returned result => some result
    | _ => none

/-- A call that has a result, and a text with an identifier, has returned it. -/
theorem result_eq_some_iff {body : String} {id : UInt64} (hid : requestId serde body = .ok id)
    {outcome : Except BackendError String} :
    s.result serde ticket body = some outcome ↔ s.phaseOf ticket = some (.returned outcome) := by
  simp only [result, hid, Option.bind_eq_some_iff]
  constructor
  · rintro ⟨phase, hphase, hresult⟩
    cases phase with
    | returned other =>
      obtain rfl := Option.some.inj hresult
      exact hphase
    | queuing | waiting | failing => cases hresult
  · intro hphase
    exact ⟨_, hphase, rfl⟩

/-- A call that was not made before a step is not made by it, if it is not its beginning. -/
theorem lookup_eq_none_of_step {label : PipeLabel} (hcase : StepCase serde s label t)
    (hlabel : ∀ body, label ≠ .begin ticket body) (hfresh : s.sends.lookup ticket = none) :
    t.sends.lookup ticket = none := by
  cases hcase with
  | rejected | wrote | closed | ignored | takenUp | outputEnded => exact hfresh
  | begun moved body =>
    have hne : ticket ≠ moved := by
      rintro rfl
      exact hlabel body rfl
    rw [AList.lookup_insert_ne hne, lookup_sends_dropSender, hfresh]
    simp
  | enqueued | refused | received | lost | timedOut | delivered =>
    rw [Table.lookup_modify, hfresh]
    simp
  | cleanedUp =>
    rw [Table.lookup_modify, lookup_sends_dropSender, hfresh]
    simp
  | drained =>
    rw [lookup_sends_drainPending, hfresh]
    simp

/-- No step changes the identifier of a call. -/
theorem Evolves.id_eq {label : PipeLabel} {old send : Send}
    (h : Evolves s label ticket old send) : send.id = old.id := by
  cases h <;> rfl

/-- A line in the hands of the reader was there before a step, or the step took it up. -/
theorem reader_of_step {label : PipeLabel} (hcase : StepCase serde s label t) {text : String}
    (hreader : t.reader = .delivering ticket text) :
    s.reader = .delivering ticket text ∨
      ∃ line id, label = .print line ∧ text = trim line ∧ lineId serde line = some id ∧
        s.pending.lookup id = some ticket := by
  cases hcase with
  | rejected | enqueued | refused | received | lost | timedOut | wrote | closed | ignored =>
    exact Or.inl hreader
  | begun | cleanedUp => exact Or.inl (by simpa using hreader)
  | takenUp line id owner _ hid hpending =>
    obtain ⟨rfl, rfl⟩ : owner = ticket ∧ trim line = text := by simpa using hreader
    exact Or.inr ⟨line, id, rfl, rfl, hid, hpending⟩
  | delivered | outputEnded => cases hreader
  | drained => exact Or.inl hreader

/-- What the call gets to see are lines among the given ones that complete it. -/
structure Hears (serde : SerdeJson) (lines : List String) (s : ChildPipe) (ticket : ℕ) :
    Prop where
  send : ∀ send, s.sends.lookup ticket = some send → SendSound serde lines send
  reader : ∀ text, s.reader = .delivering ticket text →
    ∃ id, idOf s.sends ticket = some id ∧ Completes serde lines id text

/-- A step lets a call see nothing but the line the reader has just come to. -/
theorem Hears.step (h : Hears serde lines s ticket) {all : List String} (hsound : Sound serde all s)
    {label : PipeLabel} (hcase : StepCase serde s label t) :
    Hears serde (lines ++ printed [label]) t ticket := by
  have hidOf {id : UInt64} (hid : idOf s.sends ticket = some id) :
      idOf t.sends ticket = some id := by
    obtain ⟨old, hold, rfl⟩ := Option.map_eq_some_iff.mp hid
    obtain ⟨next, hnext, hevolves⟩ := exists_evolves hcase hold
    rw [idOf, hnext, Option.map_some, hevolves.id_eq]
  refine ⟨?_, ?_⟩
  · intro send hsend
    obtain ⟨-, hphase, hslot⟩ | ⟨old, hold, hevolves⟩ := fresh_or_evolves hcase hsend
    · exact ⟨by simp [hslot], by simp [hphase]⟩
    · have hknown := h.send old hold
      have hslot (text : String) (heq : old.slot = .filled text) :
          Completes serde (lines ++ printed [label]) old.id text := (hknown.slot text heq).mono
      have hresult (text : String) (heq : old.phase = .returned (.ok text)) :
          Completes serde (lines ++ printed [label]) old.id text := (hknown.result text heq).mono
      cases hevolves with
      | kept => exact ⟨hslot, hresult⟩
      | dropped => exact ⟨by simp [Send.withSlot], hresult⟩
      | filled line hreader =>
        refine ⟨fun text htext => ?_, hresult⟩
        obtain rfl : line = text := by simpa [Send.withSlot] using htext
        obtain ⟨id, hid, hcompletes⟩ := h.reader line hreader
        obtain rfl : old.id = id := by simpa [idOf, hold] using hid
        exact hcompletes.mono
      | enqueued | refused | lost | timedOut => exact ⟨hslot, by simp [Send.withPhase]⟩
      | received line _ hfilled =>
        refine ⟨hslot, fun text htext => ?_⟩
        obtain rfl : line = text := by simpa [Send.withPhase] using htext
        exact hslot line hfilled
      | cleanedUp error slot _ hkept =>
        refine ⟨fun text htext => ?_, by simp [Send.withPhase]⟩
        rcases hkept with rfl | rfl
        · exact hslot text htext
        · cases htext
  · intro text hreader
    obtain hheld | ⟨line, id, rfl, rfl, hid, hpending⟩ := reader_of_step hcase hreader
    · obtain ⟨id, hid, hcompletes⟩ := h.reader text hheld
      exact ⟨id, hidOf hid, hcompletes.mono⟩
    · exact ⟨id, hidOf (hsound.pending id ticket hpending),
        completes_of_lineId (List.mem_append_right _ (by simp [printed])) hid⟩

/-- How often the call got past the queue: its line was queued, or the call failed before. -/
def pastQueue (s : ChildPipe) (ticket : ℕ) : ℕ :=
  match s.phaseOf ticket with
  | none | some .queuing => 0
  | some _ => 1

theorem pastQueue_le_one (s : ChildPipe) (ticket : ℕ) : s.pastQueue ticket ≤ 1 := by
  unfold pastQueue
  split <;> simp

theorem pastQueue_of_phase {phase : SendPhase} (hphase : s.phaseOf ticket = some phase)
    (hne : phase ≠ .queuing) : s.pastQueue ticket = 1 := by
  rw [pastQueue, hphase]
  cases phase with
  | queuing => exact absurd rfl hne
  | waiting | failing | returned => rfl

/-- As long as stdin is open, a call gets past the queue by queuing its line. -/
theorem pastQueue_step {label : PipeLabel} (hcase : StepCase serde s label t)
    (hopen : s.stdinOpen = true) (hlabel : ∀ body, label ≠ .begin ticket body) :
    t.pastQueue ticket ≤ s.pastQueue ticket + label.isEnqueue.toNat := by
  have hone := t.pastQueue_le_one ticket
  by_cases hmoves : label.ticket? = some ticket
  · have hpast {send : Send} {owner : ℕ} (howner : some owner = some ticket)
        (hsend : s.sends.lookup owner = some send) (hne : send.phase ≠ .queuing) :
        t.pastQueue ticket ≤ s.pastQueue ticket := by
      obtain rfl := Option.some.inj howner
      rw [pastQueue_of_phase (phaseOf_of_lookup hsend) hne]
      exact hone
    cases hcase with
    | enqueued => exact hone.trans (Nat.le_add_left _ _)
    | refused _ _ _ _ hclosed => exact absurd (hopen.symm.trans hclosed) (by simp)
    | received _ _ _ hsend hphase | lost _ _ hsend hphase | timedOut _ _ hsend hphase
    | cleanedUp _ _ _ hsend hphase => exact hpast hmoves hsend (by simp [hphase])
    | rejected | begun | wrote | closed | ignored | takenUp | delivered | outputEnded | drained =>
      cases hmoves
  · cases hphase : s.phaseOf ticket with
    | none =>
      have hnone : t.phaseOf ticket = none := by
        rw [phaseOf, Option.map_eq_none_iff] at hphase ⊢
        exact lookup_eq_none_of_step hcase hlabel hphase
      simp [pastQueue, hnone]
    | some phase =>
      have hsame : t.pastQueue ticket = s.pastQueue ticket := by
        rw [pastQueue, phaseOf_step hcase hmoves hphase, pastQueue, hphase]
      rw [hsame]
      exact Nat.le_add_right _ _

end ChildPipe

/-- As long as the loop waits for a call, it stays where it is and hands nothing over. -/
theorem LockedDispatch.stays_of_step {gw : Gateway} {s t : LockedDispatch} {label : LockLabel}
    (hcase : StepCase gw s label t) (child : StdioBackend) :
    t.phase = s.phase ∧ t.emitted = s.emitted ∨ s.phase.callTo gw child = none ∨
      t.phase.callTo gw child = none := by
  cases hcase with
  | taken line phase | listed line id lock phase | called call lock phase =>
    rw [phase]
    exact Or.inr (Or.inl rfl)
  | advanced state phase effects advance =>
    cases hphase : s.phase with
    | calling line params backendName gatewayId =>
      rw [hphase] at advance
      cases advance
      exact Or.inr (Or.inr rfl)
    | receiving | listing | filtering | arriving | guarded | limiting | admitted | breaking
    | dispatching | emitting => exact Or.inr (Or.inl rfl)
  | signalled | acquired | replaced | released => exact Or.inl ⟨rfl, rfl⟩

namespace ServedChild

variable {gw : Gateway} {child : StdioBackend} {s t : ServedChild}

/-- The call of the child that is under way. -/
def current (s : ServedChild) (gw : Gateway) (child : StdioBackend) : Option ChildCall :=
  s.loop.phase.callTo gw child

/-- The loop starts with a child whose tools are known. What it has printed in excess is
unread. -/
def start (initial : DispatchState) (pipe : ChildPipe) (unread : List String) : ServedChild :=
  { loop := .start initial, pipe, unread, ticket := 0, heard := [], served := [] }

/-- One step. The loop makes the calls, and goes on when `StdioBackend::send` returns. The
reader comes to the printed lines in their order. -/
def step (gw : Gateway) (child : StdioBackend) (s : ServedChild) :
    ServingLabel → Option ServedChild
  | .loop label ticket =>
    (s.loop.step gw label).bind fun loop =>
      match s.current gw child, loop.phase.callTo gw child with
      | none, some call =>
        (s.pipe.step gw.serde (.begin ticket call.body)).map fun pipe =>
          { s with loop, pipe, ticket, heard := [] }
      | some call, none =>
        if s.pipe.result gw.serde s.ticket call.body = some call.outcome then
          some { s with loop, served := s.served ++ [{ call, heard := s.heard }] }
        else none
      | _, _ => some { s with loop }
  | .child (.begin _ _) => none
  | .child label =>
    let come := ChildPipe.printed [label]
    if come <+: s.unread then
      (s.pipe.step gw.serde label).map fun pipe =>
        { s with pipe, unread := s.unread.drop come.length, heard := s.heard ++ come }
    else none
  | .print line => some { s with unread := s.unread ++ [line] }

/-- Everything a step can do, with the state in which it can be done. -/
inductive StepCase (gw : Gateway) (child : StdioBackend) (s : ServedChild) :
    ServingLabel → ServedChild → Prop
  | moved (label : LockLabel) (ticket : ℕ) (loop : LockedDispatch)
      (step : s.loop.step gw label = some loop)
      (same : loop.phase.callTo gw child = s.current gw child) :
      StepCase gw child s (.loop label ticket) { s with loop }
  | called (label : LockLabel) (ticket : ℕ) (loop : LockedDispatch) (call : ChildCall)
      (pipe : ChildPipe) (step : s.loop.step gw label = some loop)
      (idle : s.current gw child = none) (current : loop.phase.callTo gw child = some call)
      (begun : s.pipe.step gw.serde (.begin ticket call.body) = some pipe) :
      StepCase gw child s (.loop label ticket) { s with loop, pipe, ticket, heard := [] }
  | settled (label : LockLabel) (ticket : ℕ) (loop : LockedDispatch) (call : ChildCall)
      (step : s.loop.step gw label = some loop) (current : s.current gw child = some call)
      (idle : loop.phase.callTo gw child = none)
      (result : s.pipe.result gw.serde s.ticket call.body = some call.outcome) :
      StepCase gw child s (.loop label ticket)
        { s with loop, served := s.served ++ [{ call, heard := s.heard }] }
  | child (label : PipeLabel) (pipe : ChildPipe) (unread : List String)
      (own : ∀ ticket body, label ≠ .begin ticket body)
      (come : ChildPipe.printed [label] ++ unread = s.unread)
      (step : s.pipe.step gw.serde label = some pipe) :
      StepCase gw child s (.child label)
        { s with pipe, unread, heard := s.heard ++ ChildPipe.printed [label] }
  | printed (line : String) :
      StepCase gw child s (.print line) { s with unread := s.unread ++ [line] }

/-- **Inversion.** Every step is one of the listed ones. -/
theorem step_cases {label : ServingLabel} (h : s.step gw child label = some t) :
    StepCase gw child s label t := by
  cases label with
  | loop label ticket =>
    simp only [step] at h
    obtain ⟨loop, hloop, h⟩ := Option.bind_eq_some_iff.mp h
    have hstays := LockedDispatch.stays_of_step (LockedDispatch.step_cases hloop) child
    cases hbefore : s.current gw child with
    | none =>
      cases hafter : loop.phase.callTo gw child with
      | none =>
        simp only [hbefore, hafter] at h
        obtain rfl := Option.some.inj h
        exact .moved label ticket loop hloop (hafter.trans hbefore.symm)
      | some call =>
        simp only [hbefore, hafter] at h
        obtain ⟨pipe, hpipe, rfl⟩ := Option.map_eq_some_iff.mp h
        exact .called label ticket loop call pipe hloop hbefore hafter hpipe
    | some call =>
      cases hafter : loop.phase.callTo gw child with
      | none =>
        simp only [hbefore, hafter] at h
        split_ifs at h with hresult
        obtain rfl := Option.some.inj h
        exact .settled label ticket loop call hloop hbefore hafter hresult
      | some other =>
        simp only [hbefore, hafter] at h
        obtain rfl := Option.some.inj h
        refine .moved label ticket loop hloop ?_
        rcases hstays with ⟨hsame, -⟩ | hnone | hnone
        · rw [hsame]
          rfl
        · exact absurd (hbefore.symm.trans hnone) (by simp)
        · exact absurd (hafter.symm.trans hnone) (by simp)
  | child label =>
    cases label with
    | begin => cases h
    | enqueue | refuse | receive | timeOut | cleanUp | write | closeStdin | print | deliver
    | endOfOutput | drain =>
      simp only [step] at h
      split_ifs at h with hcome
      obtain ⟨pipe, hpipe, rfl⟩ := Option.map_eq_some_iff.mp h
      exact .child _ pipe _ (by simp) (List.prefix_iff_eq_append.mp hcome) hpipe
  | print line =>
    obtain rfl := Option.some.inj h
    exact .printed line

/-- What the child and its tasks do along a run is a run of theirs. -/
theorem pipe_of_exec {initial : DispatchState} {pipe : ChildPipe} {unread : List String}
    {labels : List ServingLabel}
    (h : Runs.exec (step gw child) (start initial pipe unread) labels = some s) :
    ∃ steps, Runs.exec (ChildPipe.step gw.serde) pipe steps = some s.pipe := by
  refine Runs.exec_induction (step gw child) (motive := fun _ s =>
    ∃ steps, Runs.exec (ChildPipe.step gw.serde) pipe steps = some s.pipe) ⟨[], rfl⟩ ?_ h
  rintro labels label s t - ⟨steps, hsteps⟩ hstep
  have hnext {more : PipeLabel} {next : ChildPipe}
      (hmore : s.pipe.step gw.serde more = some next) :
      ∃ steps, Runs.exec (ChildPipe.step gw.serde) pipe steps = some next := by
    refine ⟨steps ++ [more], ?_⟩
    rw [Runs.exec_append, hsteps]
    simp [hmore]
  cases step_cases hstep with
  | moved | settled | printed => exact ⟨steps, hsteps⟩
  | called _ _ _ _ _ _ _ _ hbegun => exact hnext hbegun
  | child _ _ _ _ _ hpipe => exact hnext hpipe

/-- What the loop and the child have agreed on: the call under way is the one the loop
waits for, and every other one is over. -/
structure InTurn (gw : Gateway) (child : StdioBackend) (s : ServedChild) : Prop where
  current : ∀ call, s.current gw child = some call → ∀ send,
    s.pipe.sends.lookup s.ticket = some send → ChildPipe.requestId gw.serde call.body = .ok send.id
  made : ∀ call id, s.current gw child = some call →
    ChildPipe.requestId gw.serde call.body = .ok id →
    ∃ send, s.pipe.sends.lookup s.ticket = some send
  heard : ∀ call, s.current gw child = some call → s.pipe.Hears gw.serde s.heard s.ticket
  others : ∀ ticket send, s.pipe.sends.lookup ticket = some send →
    (s.current gw child = none ∨ ticket ≠ s.ticket) → ∃ result, send.phase = .returned result
  served : ∀ served ∈ s.served, ∀ text, served.call.outcome = .ok text →
    ∃ id, ChildPipe.requestId gw.serde served.call.body = .ok id ∧
      ChildPipe.Completes gw.serde served.heard id text

/-- A step of the child and its tasks lets the others be over. -/
theorem returned_of_step {serde : SerdeJson} {p q : ChildPipe} {label : PipeLabel} {ticket : ℕ}
    (hcase : ChildPipe.StepCase serde p label q) (hlabel : ∀ body, label ≠ .begin ticket body)
    (hreturned : ∀ send, p.sends.lookup ticket = some send → ∃ result,
      send.phase = .returned result) {send : Send} (hsend : q.sends.lookup ticket = some send) :
    ∃ result, send.phase = .returned result := by
  cases hold : p.sends.lookup ticket with
  | none =>
    rw [ChildPipe.lookup_eq_none_of_step hcase hlabel hold] at hsend
    cases hsend
  | some old =>
    obtain ⟨result, hphase⟩ := hreturned old hold
    have hbefore := ChildPipe.phaseOf_of_lookup hold
    rw [hphase] at hbefore
    have hkept := ChildPipe.phaseOf_step_of_returned hcase hbefore
    rw [ChildPipe.phaseOf_of_lookup hsend, Option.some.injEq] at hkept
    exact ⟨result, hkept⟩

/-- A new call has the identifier of its text, and has heard nothing yet. -/
theorem called_of_begin {serde : SerdeJson} {all : List String} {p q : ChildPipe} {ticket : ℕ}
    {body : String} (hsound : ChildPipe.Sound serde all p)
    (h : p.step serde (.begin ticket body) = some q) :
    (∀ send, q.sends.lookup ticket = some send → ChildPipe.requestId serde body = .ok send.id) ∧
      (∀ id, ChildPipe.requestId serde body = .ok id → ∃ send, q.sends.lookup ticket = some send) ∧
      q.Hears serde [] ticket := by
  have hfresh := ChildPipe.fresh_of_begin h
  have hfree (text : String) : p.reader ≠ .delivering ticket text := by
    intro hreader
    obtain ⟨id, hid, -⟩ := hsound.reader ticket text hreader
    simp [ChildPipe.idOf, hfresh] at hid
  cases ChildPipe.step_cases h with
  | rejected _ _ e herror =>
    refine ⟨by simp [hfresh], by simp [herror], by simp [hfresh], ?_⟩
    exact fun text hreader => absurd hreader (hfree text)
  | begun _ _ id _ hid =>
    refine ⟨?_, fun _ _ => ⟨_, AList.lookup_insert _⟩, ?_, ?_⟩
    · intro send hsend
      rw [AList.lookup_insert, Option.some.injEq] at hsend
      rw [hid, ← hsend]
    · intro send hsend
      rw [AList.lookup_insert, Option.some.injEq] at hsend
      subst hsend
      exact ⟨by simp, by simp⟩
    · intro text hreader
      exact absurd (by simpa using hreader) (hfree text)

/-- A step of the loop or of the handler that does not concern the child. -/
theorem InTurn.move (h : InTurn gw child s) {loop : LockedDispatch}
    (hsame : loop.phase.callTo gw child = s.current gw child) :
    InTurn gw child { s with loop } := by
  have hcurrent : ServedChild.current { s with loop } gw child = s.current gw child := hsame
  refine ⟨?_, ?_, ?_, ?_, h.served⟩
  · rw [hcurrent]
    exact h.current
  · rw [hcurrent]
    exact h.made
  · rw [hcurrent]
    exact h.heard
  · rw [hcurrent]
    exact h.others

/-- The loop calls the child. -/
theorem InTurn.call (h : InTurn gw child s) {all : List String}
    (hsound : ChildPipe.Sound gw.serde all s.pipe) {loop : LockedDispatch} {call : ChildCall}
    {pipe : ChildPipe} {ticket : ℕ} (hidle : s.current gw child = none)
    (hcall : loop.phase.callTo gw child = some call)
    (hbegun : s.pipe.step gw.serde (.begin ticket call.body) = some pipe) :
    InTurn gw child { s with loop, pipe, ticket, heard := [] } := by
  obtain ⟨hid, hmade, hears⟩ := called_of_begin hsound hbegun
  refine ⟨?_, ?_, fun _ _ => hears, ?_, h.served⟩
  · intro other hother
    obtain rfl : call = other := Option.some.inj (hcall.symm.trans hother)
    exact hid
  · intro other id hother
    obtain rfl : call = other := Option.some.inj (hcall.symm.trans hother)
    exact hmade id
  · intro other send hsend hother
    have hne : other ≠ ticket := by
      rcases hother with hnone | hne
      · exact absurd (hcall.symm.trans hnone) (by simp)
      · exact hne
    refine returned_of_step (ChildPipe.step_cases hbegun) ?_
      (fun send hsend => h.others other send hsend (Or.inl hidle)) hsend
    intro body heq
    cases heq
    exact hne rfl

/-- What a call returned that has an identifier was heard while it was under way. -/
theorem InTurn.answered (h : InTurn gw child s) {call : ChildCall}
    (hcall : s.current gw child = some call) {text : String}
    (hresult : s.pipe.result gw.serde s.ticket call.body = some (.ok text)) :
    ∃ id, ChildPipe.requestId gw.serde call.body = .ok id ∧
      ChildPipe.Completes gw.serde s.heard id text := by
  cases hid : ChildPipe.requestId gw.serde call.body with
  | error e =>
    rw [ChildPipe.result, hid, Option.some.injEq] at hresult
    cases hresult
  | ok id =>
    obtain ⟨send, hsend, hphase⟩ :=
      Option.map_eq_some_iff.mp ((ChildPipe.result_eq_some_iff hid).mp hresult)
    have hsame := h.current call hcall send hsend
    rw [hid, Except.ok.injEq] at hsame
    subst hsame
    exact ⟨send.id, rfl, ((h.heard call hcall).send send hsend).result text hphase⟩

/-- The call of the child is over. -/
theorem InTurn.settle (h : InTurn gw child s) {loop : LockedDispatch} {call : ChildCall}
    (hcall : s.current gw child = some call) (hidle : loop.phase.callTo gw child = none)
    (hresult : s.pipe.result gw.serde s.ticket call.body = some call.outcome) :
    InTurn gw child { s with loop, served := s.served ++ [{ call, heard := s.heard }] } := by
  have hnone : ServedChild.current { s with
      loop, served := s.served ++ [{ call, heard := s.heard }] } gw child = none := hidle
  refine ⟨?_, ?_, ?_, ?_, ?_⟩
  · rw [hnone]
    simp
  · rw [hnone]
    simp
  · rw [hnone]
    simp
  · intro other send hsend _
    by_cases heq : other = s.ticket
    · subst heq
      have hphase :=
        (ChildPipe.result_eq_some_iff (h.current call hcall send hsend)).mp hresult
      rw [ChildPipe.phaseOf_of_lookup hsend, Option.some.injEq] at hphase
      exact ⟨_, hphase⟩
    · exact h.others other send hsend (Or.inr heq)
  · intro served hmem text htext
    obtain hold | hnew := List.mem_append.mp hmem
    · exact h.served served hold text htext
    · obtain rfl := List.mem_singleton.mp hnew
      exact h.answered hcall (hresult.trans (congrArg some htext))

/-- A step of the child or of the tasks around it, none of which calls it. -/
theorem InTurn.pipe (h : InTurn gw child s) {all : List String}
    (hsound : ChildPipe.Sound gw.serde all s.pipe) {label : PipeLabel} {pipe : ChildPipe}
    {unread : List String} (hlabel : ∀ ticket body, label ≠ .begin ticket body)
    (hcase : ChildPipe.StepCase gw.serde s.pipe label pipe) :
    InTurn gw child { s with pipe, unread, heard := s.heard ++ ChildPipe.printed [label] } := by
  refine ⟨?_, ?_, ?_, ?_, h.served⟩
  · intro call hcall send hsend
    cases hold : s.pipe.sends.lookup s.ticket with
    | none =>
      rw [ChildPipe.lookup_eq_none_of_step hcase (hlabel s.ticket) hold] at hsend
      cases hsend
    | some old =>
      obtain ⟨next, hnext, hevolves⟩ := ChildPipe.exists_evolves hcase hold
      obtain rfl : next = send := Option.some.inj (hnext.symm.trans hsend)
      rw [hevolves.id_eq]
      exact h.current call hcall old hold
  · intro call id hcall hid
    obtain ⟨old, hold⟩ := h.made call id hcall hid
    obtain ⟨next, hnext, -⟩ := ChildPipe.exists_evolves hcase hold
    exact ⟨next, hnext⟩
  · intro call hcall
    exact (h.heard call hcall).step hsound hcase
  · intro other send hsend hother
    exact returned_of_step hcase (hlabel other)
      (fun old hold => h.others other old hold hother) hsend

/-- Every step keeps what the loop and the child have agreed on. -/
theorem InTurn.step (h : InTurn gw child s) {all : List String}
    (hsound : ChildPipe.Sound gw.serde all s.pipe) {label : ServingLabel}
    (hcase : StepCase gw child s label t) : InTurn gw child t := by
  cases hcase with
  | moved label ticket loop _ same => exact h.move same
  | called label ticket loop call pipe _ idle current begun =>
    exact h.call hsound idle current begun
  | settled label ticket loop call _ current idle result => exact h.settle current idle result
  | child label pipe unread own _ step => exact h.pipe hsound own (ChildPipe.step_cases step)
  | printed line => exact ⟨h.current, h.made, h.heard, h.others, h.served⟩

/-- A child whose discovery is over: every call it got has returned. -/
structure Discovered (serde : SerdeJson) (discovery : List PipeLabel) (pipe : ChildPipe) :
    Prop where
  run : Runs.exec (ChildPipe.step serde) .new discovery = some pipe
  returned : ∀ ticket send, pipe.sends.lookup ticket = some send →
    ∃ result, send.phase = .returned result

/-- The loop and the child agree in every state they reach. -/
theorem inTurn_of_exec {initial : DispatchState} {discovery : List PipeLabel} {pipe : ChildPipe}
    (hdiscovered : Discovered gw.serde discovery pipe) {unread : List String}
    {labels : List ServingLabel}
    (h : Runs.exec (step gw child) (start initial pipe unread) labels = some s) :
    InTurn gw child s ∧ ∃ steps, Runs.exec (ChildPipe.step gw.serde) .new steps = some s.pipe := by
  have hpipe {labels : List ServingLabel} {s : ServedChild}
      (h : Runs.exec (step gw child) (start initial pipe unread) labels = some s) :
      ∃ steps, Runs.exec (ChildPipe.step gw.serde) .new steps = some s.pipe := by
    obtain ⟨steps, hsteps⟩ := pipe_of_exec h
    refine ⟨discovery ++ steps, ?_⟩
    rw [Runs.exec_append, hdiscovered.run]
    exact hsteps
  refine ⟨?_, hpipe h⟩
  refine Runs.exec_induction (step gw child) (motive := fun _ s => InTurn gw child s) ?_ ?_ h
  · refine ⟨?_, ?_, ?_, fun ticket send hsend _ => hdiscovered.returned ticket send hsend, ?_⟩
    · intro call hcall
      cases hcall
    · intro call id hcall
      cases hcall
    · intro call hcall
      cases hcall
    · intro served hmem
      cases hmem
  · intro labels label s t hexec hturn hstep
    obtain ⟨steps, hsteps⟩ := hpipe hexec
    exact hturn.step (ChildPipe.sound_of_exec hsteps) (step_cases hstep)

/-- The lines the child prints along a run. -/
def printed (labels : List ServingLabel) : List String :=
  labels.filterMap fun
    | .print line => some line
    | .loop _ _ | .child _ => none

/-- The lines its reader comes to along a run. -/
def come (labels : List ServingLabel) : List String :=
  labels.flatMap fun
    | .loop _ _ | .print _ => []
    | .child label => ChildPipe.printed [label]

/-- The reader comes to the printed lines in their order. -/
theorem come_append_unread {initial : DispatchState} {pipe : ChildPipe} {unread : List String}
    {labels : List ServingLabel}
    (h : Runs.exec (step gw child) (start initial pipe unread) labels = some s) :
    come labels ++ s.unread = unread ++ printed labels := by
  refine Runs.exec_induction (step gw child) (motive := fun labels s =>
    come labels ++ s.unread = unread ++ printed labels) (by simp [come, printed, start]) ?_ h
  intro labels label s t _ ih hstep
  rw [come, List.flatMap_append, printed, List.filterMap_append, ← List.append_assoc]
  change come labels ++ _ ++ _ = unread ++ printed labels ++ _
  cases step_cases hstep with
  | moved | called | settled => simpa using ih
  | child label pipe unread _ hcome =>
    rw [← hcome] at ih
    simpa using ih
  | printed line =>
    have hnext : come labels ++ (s.unread ++ [line]) = unread ++ printed labels ++ [line] := by
      rw [← ih, List.append_assoc]
    simpa using hnext

/-- What the reader comes to is divided among the calls: what was heard during a call is a
part of it, and these parts follow one another. -/
theorem sublist_come {initial : DispatchState} {pipe : ChildPipe} {unread : List String}
    {labels : List ServingLabel}
    (h : Runs.exec (step gw child) (start initial pipe unread) labels = some s) :
    (s.served.flatMap ServedCall.heard ++
      if s.current gw child = none then [] else s.heard).Sublist (come labels) := by
  refine Runs.exec_induction (step gw child) (motive := fun labels s =>
    (s.served.flatMap ServedCall.heard ++
      if s.current gw child = none then [] else s.heard).Sublist (come labels)) ?_ ?_ h
  · exact List.Sublist.refl _
  · intro labels label s t _ ih hstep
    have hmore : come (labels ++ [label]) = come labels ++ come [label] := List.flatMap_append
    rw [hmore]
    cases step_cases hstep with
    | moved label ticket loop _ same =>
      have hsame : ServedChild.current { s with loop } gw child = s.current gw child := same
      rw [hsame]
      simpa [come] using ih
    | called label ticket loop call pipe _ idle current begun =>
      have hnone : (if ServedChild.current { s with loop, pipe, ticket, heard := [] } gw child =
          none then [] else ([] : List String)) = [] := ite_self _
      rw [hnone]
      rw [if_pos idle] at ih
      simpa [come] using ih
    | settled label ticket loop call _ current idle =>
      have hidle : ServedChild.current { s with
          loop, served := s.served ++ [{ call, heard := s.heard }] } gw child = none := idle
      rw [if_pos hidle]
      rw [if_neg (by simp [current])] at ih
      simpa [come] using ih
    | child label pipe unread =>
      have hsame : ServedChild.current { s with
          pipe, unread, heard := s.heard ++ ChildPipe.printed [label] } gw child =
            s.current gw child := rfl
      rw [hsame]
      have hlast : come [.child label] = ChildPipe.printed [label] := List.flatMap_singleton _ _
      rw [hlast]
      by_cases hidle : s.current gw child = none
      · rw [if_pos hidle] at ih ⊢
        exact ih.trans (List.sublist_append_left _ _)
      · rw [if_neg hidle] at ih ⊢
        rw [← List.append_assoc]
        exact ih.append (List.Sublist.refl _)
    | printed line =>
      have hsame : ServedChild.current { s with unread := s.unread ++ [line] } gw child =
          s.current gw child := rfl
      rw [hsame]
      simpa [come] using ih

/-- The calls of a child are served one at a time. -/
structure OneAtATime (gw : Gateway) (child : StdioBackend) (unread : List String)
    (labels : List ServingLabel) (s : ServedChild) : Prop where
  /-- No request is pending but that of the call the loop waits for. -/
  pending : ∀ id ticket, s.pipe.pending.lookup id = some ticket →
    ∃ call, s.current gw child = some call ∧ ChildPipe.requestId gw.serde call.body = .ok id
  /-- A line without the identifier of this call reaches nobody when the reader comes to it. -/
  ignored : ∀ line t, s.step gw child (.child (.print line)) = some t → t.pipe ≠ s.pipe →
    ∃ call id, s.current gw child = some call ∧
      ChildPipe.requestId gw.serde call.body = .ok id ∧ ChildPipe.lineId gw.serde line = some id
  /-- A call is answered by a line with its identifier, to which the reader came while it was
  under way. -/
  answered : ∀ served ∈ s.served, ∀ text, served.call.outcome = .ok text →
    ∃ id, ChildPipe.requestId gw.serde served.call.body = .ok id ∧
      ChildPipe.Completes gw.serde served.heard id text
  /-- What is heard during the calls are parts of the output that follow one another. -/
  disjoint : (s.served.flatMap ServedCall.heard).Sublist (unread ++ printed labels)

/-- **One call at a time.** However the dispatch loop, the handler of SIGHUP, the tasks
around the child and its output are interleaved, no request is pending but that of the
call the loop waits for. When the reader comes to a line with another identifier, that line
reaches nobody, and a call is answered by a line to which the reader came while it was under
way. The child may have printed that line before the call was made. -/
theorem one_call_at_a_time (gw : Gateway) (child : StdioBackend) (initial : DispatchState)
    {discovery : List PipeLabel} {pipe : ChildPipe}
    (hdiscovered : Discovered gw.serde discovery pipe) {unread : List String}
    {labels : List ServingLabel}
    (hrun : Runs.exec (step gw child) (start initial pipe unread) labels = some s) :
    OneAtATime gw child unread labels s := by
  obtain ⟨hturn, steps, hsteps⟩ := inTurn_of_exec hdiscovered hrun
  have hsound := ChildPipe.sound_of_exec hsteps
  have howned := ChildPipe.owned_of_exec hsteps
  have hpending : ∀ id ticket, s.pipe.pending.lookup id = some ticket →
      ∃ call, s.current gw child = some call ∧
        ChildPipe.requestId gw.serde call.body = .ok id := by
    intro id ticket hlookup
    obtain ⟨send, hsend, rfl⟩ := Option.map_eq_some_iff.mp (hsound.pending id ticket hlookup)
    -- the map has forgotten the calls that are over
    have hopen : ¬∃ result, send.phase = .returned result := by
      rintro ⟨result, hphase⟩
      exact howned.settled ticket send result hsend hphase hlookup
    cases hcurrent : s.current gw child with
    | none => exact absurd (hturn.others ticket send hsend (Or.inl hcurrent)) hopen
    | some call =>
      by_cases heq : ticket = s.ticket
      · subst heq
        exact ⟨call, rfl, hturn.current call hcurrent send hsend⟩
      · exact absurd (hturn.others ticket send hsend (Or.inr heq)) hopen
  refine ⟨hpending, ?_, hturn.served, ?_⟩
  · intro line t hstep hchanged
    cases step_cases hstep with
    | child _ pipe _ _ _ hprint =>
      cases ChildPipe.step_cases hprint with
      | ignored => exact absurd rfl hchanged
      | takenUp _ id ticket _ hid hlookup =>
        obtain ⟨call, hcurrent, hcall⟩ := hpending id ticket hlookup
        exact ⟨call, id, hcurrent, hcall, hid⟩
  · have hheard := (List.sublist_append_left _ _).trans (sublist_come hrun)
    rw [← come_append_unread hrun]
    exact hheard.trans (List.sublist_append_left _ _)

/-- A gateway with one tool, of a child. -/
def childGateway : Gateway :=
  { Gateway.bare (.ofValues (handshakeMessages ++ [queryMessage, discoveryInitialize,
      discoveryToolsList, resultJson 1, resultJson 2] ++
      (List.range' 1 67).map fun id => callJson (.ofNat id) "query")) with
    catalog := ToolCatalog.new.registerBackend "db" [⟨"query", none, [], []⟩]
    backends := AList.singleton "db" (.stdio ⟨"db", 0, 60⟩) }

/-- The reader comes to the answer of a call, and the call receives it. -/
def answeredCall (ticket : ℕ) (answer : Json) : List PipeLabel :=
  [.enqueue ticket, .write, .print answer.text, .deliver, .receive ticket]

/-- The discovery of the child. -/
def discovery : List PipeLabel :=
  .begin 0 discoveryInitialize.text :: answeredCall 0 (resultJson 1) ++
    .begin 1 discoveryToolsList.text :: answeredCall 1 (resultJson 2)

/-- The steps of the loop from a line to the call of the child, and those after it. -/
def untilCall (outcome : Except BackendError String) (ticket : ℕ) : List ServingLabel :=
  [.take { InboundLine.message queryMessage with outcome }, .acquireRead, .advance, .advance,
    .advance, .advance, .advance].map fun label => .loop label ticket

def afterCall : List ServingLabel := [.advance, .advance, .advance].map fun label => .loop label 0

/-- The handshake of the client. -/
def handshakeSteps : List ServingLabel :=
  [.take (.message initializeMessage), .advance, .advance, .take (.message initializedMessage),
    .advance].map fun label => .loop label 0

/-- A call times out. Its answer comes too late, and with it the answer to the next call,
which is not made yet. The reader comes to both when it is. -/
def lateAnswer : List ServingLabel :=
  handshakeSteps ++ untilCall (.error (.invalidResponse "request timed out")) 2 ++
    [.child (.enqueue 2), .child .write, .child (.timeOut 2), .child (.cleanUp 2)] ++ afterCall ++
    [.print (resultJson 1).text, .print (resultJson 2).text] ++
    untilCall (.ok (resultJson 2).text) 3 ++ .child (.print (resultJson 1).text) ::
    (answeredCall 3 (resultJson 2)).map .child ++ afterCall

/-- Both calls of the discovery return. -/
theorem exists_discovered : ∃ pipe, Discovered childGateway.serde discovery pipe := by
  have hrun : (Runs.exec (ChildPipe.step childGateway.serde) .new discovery).map
      (fun pipe => pipe.sends.values.map Send.phase) =
        some [.returned (.ok (resultJson 2).text), .returned (.ok (resultJson 1).text)] := by
    decide +kernel
  obtain ⟨pipe, hpipe, hphases⟩ := Option.map_eq_some_iff.mp hrun
  refine ⟨pipe, hpipe, fun ticket send hsend => ?_⟩
  have hmem := List.mem_map_of_mem (f := Send.phase) (Table.mem_values_of_lookup hsend)
  rw [hphases] at hmem
  rcases List.mem_cons.mp hmem with hphase | hphase
  · exact ⟨_, hphase⟩
  · exact ⟨_, List.mem_singleton.mp hphase⟩

/-- The late answer reaches nobody, and the next call gets its own, which was printed before
it was made. -/
theorem one_call_at_a_time_late_answer :
    ∃ pipe s, Discovered childGateway.serde discovery pipe ∧
      Runs.exec (step childGateway ⟨"db", 0, 60⟩)
        (start (Gateway.start ⟨{}, .new {}⟩ .new ∅) pipe []) lateAnswer = some s ∧
      s.served.map (fun served => (served.heard, served.call.outcome)) =
        [([], .error (.invalidResponse "request timed out")),
          ([(resultJson 1).text, (resultJson 2).text], .ok (resultJson 2).text)] ∧
      OneAtATime childGateway ⟨"db", 0, 60⟩ [] lateAnswer s := by
  obtain ⟨pipe, hdiscovered⟩ := exists_discovered
  have hafter : ((Runs.exec (ChildPipe.step childGateway.serde) .new discovery).bind fun pipe =>
      Runs.exec (step childGateway ⟨"db", 0, 60⟩)
        (start (Gateway.start ⟨{}, .new {}⟩ .new ∅) pipe []) lateAnswer).map
      (fun s => s.served.map fun served => (served.heard, served.call.outcome)) =
        some [([], .error (.invalidResponse "request timed out")),
          ([(resultJson 1).text, (resultJson 2).text], .ok (resultJson 2).text)] := by
    decide +kernel
  rw [hdiscovered.run, Option.bind_some] at hafter
  obtain ⟨s, hs, hserved⟩ := Option.map_eq_some_iff.mp hafter
  exact ⟨pipe, s, hdiscovered, hs, hserved,
    one_call_at_a_time childGateway ⟨"db", 0, 60⟩ _ hdiscovered hs⟩

/-- The calls of the child that got past its queue. Those whose text has no identifier
do not count. -/
def sent (s : ServedChild) (gw : Gateway) (child : StdioBackend) : ℕ :=
  s.served.countP (fun served => (ChildPipe.requestId gw.serde served.call.body).isOk) +
    if (s.current gw child).isSome then s.pipe.pastQueue s.ticket else 0

/-- The loop waits for a call that can make no step by itself. -/
structure Halted (gw : Gateway) (child : StdioBackend) (s : ServedChild) : Prop where
  waits : (s.current gw child).isSome
  blocked : s.pipe.Blocked gw.serde s.ticket

/-- Without a step of the writer, a call gets past the queue by making it longer. -/
theorem sent_step {label : ServingLabel} (hcase : StepCase gw child s label t)
    (hopen : s.pipe.stdinOpen = true) (hlabel : label.isWriter = false) :
    t.pipe.stdinOpen = true ∧
      t.sent gw child + s.pipe.queue.length ≤ s.sent gw child + t.pipe.queue.length := by
  cases hcase with
  | moved label ticket loop _ same =>
    have hsame : ServedChild.current { s with loop } gw child = s.current gw child := same
    refine ⟨hopen, ?_⟩
    unfold sent
    rw [hsame]
  | called label ticket loop call pipe _ idle current begun =>
    obtain ⟨hstdin, hqueue⟩ := ChildPipe.queue_step (ChildPipe.step_cases begun) rfl
    refine ⟨hstdin.trans hopen, ?_⟩
    have hlength : pipe.queue.length = s.pipe.queue.length := hqueue
    have hfresh : pipe.pastQueue ticket = 0 := by
      cases ChildPipe.step_cases begun with
      | rejected =>
        simp [ChildPipe.pastQueue, ChildPipe.phaseOf, ChildPipe.fresh_of_begin begun]
      | begun => simp [ChildPipe.pastQueue, ChildPipe.phaseOf]
    have hbefore : s.sent gw child =
        s.served.countP (fun served => (ChildPipe.requestId gw.serde served.call.body).isOk) := by
      simp [sent, idle]
    have hafter : ServedChild.sent { s with loop, pipe, ticket, heard := [] } gw child =
        s.served.countP (fun served => (ChildPipe.requestId gw.serde served.call.body).isOk) := by
      simp [sent, hfresh]
    rw [hafter, hbefore, hlength]
  | settled label ticket loop call _ current idle result =>
    refine ⟨hopen, Nat.add_le_add_right ?_ _⟩
    have hidle : ServedChild.current { s with
        loop, served := s.served ++ [{ call, heard := s.heard }] } gw child = none := idle
    unfold sent
    rw [hidle, current, List.countP_append, List.countP_singleton]
    simp only [Option.isSome_none, Bool.false_eq_true, if_false, Option.isSome_some, if_true]
    cases hid : ChildPipe.requestId gw.serde call.body with
    | error e => simp [Except.isOk, Except.toBool]
    | ok id =>
      have hphase := (ChildPipe.result_eq_some_iff hid).mp result
      rw [ChildPipe.pastQueue_of_phase hphase (by simp)]
      simp [Except.isOk, Except.toBool]
  | child label pipe unread own _ step =>
    have hcase := ChildPipe.step_cases step
    obtain ⟨hstdin, hqueue⟩ := ChildPipe.queue_step hcase hlabel
    have hpast := ChildPipe.pastQueue_step hcase hopen (own s.ticket)
    refine ⟨hstdin.trans hopen, ?_⟩
    have hsame : ServedChild.current { s with
        pipe, unread, heard := s.heard ++ ChildPipe.printed [label] } gw child =
          s.current gw child := rfl
    unfold sent
    rw [hsame]
    simp only
    split_ifs
    · omega
    · omega
  | printed line => exact ⟨hopen, le_rfl⟩

/-- What a run without a step of the writer does to the queue. -/
theorem sent_of_exec {labels : List ServingLabel}
    (h : Runs.exec (step gw child) s labels = some t) (hopen : s.pipe.stdinOpen = true)
    (hlabels : ∀ label ∈ labels, label.isWriter = false) :
    t.sent gw child + s.pipe.queue.length ≤ s.sent gw child + t.pipe.queue.length := by
  have hrun := Runs.exec_induction (step gw child) (motive := fun labels t =>
    (∀ label ∈ labels, label.isWriter = false) → t.pipe.stdinOpen = true ∧
      t.sent gw child + s.pipe.queue.length ≤ s.sent gw child + t.pipe.queue.length)
    (fun _ => ⟨hopen, le_rfl⟩) ?_ h
  · exact (hrun hlabels).2
  · intro labels label t u _ ih hstep hall
    obtain ⟨htopen, htsent⟩ := ih fun other hmem => hall other (List.mem_append_left _ hmem)
    obtain ⟨huopen, husent⟩ := sent_step (step_cases hstep) htopen
      (hall label (List.mem_append_right _ (List.mem_singleton_self _)))
    exact ⟨huopen, by omega⟩

/-- A loop that is halted stays where it is as long as the writer does nothing. -/
theorem Halted.step (h : Halted gw child s) (hturn : InTurn gw child s) {label : ServingLabel}
    (hcase : StepCase gw child s label t) (hlabel : label.isWriter = false) :
    Halted gw child t ∧ t.loop.phase = s.loop.phase ∧ t.loop.emitted = s.loop.emitted := by
  obtain ⟨call, hcall⟩ := Option.isSome_iff_exists.mp h.waits
  cases hcase with
  | moved label ticket loop hloop same =>
    have hwaits : loop.phase.callTo gw child = some call := same.trans hcall
    rcases LockedDispatch.stays_of_step (LockedDispatch.step_cases hloop) child with
      hstays | hnone | hnone
    · exact ⟨⟨Option.isSome_iff_exists.mpr ⟨call, hwaits⟩, h.blocked⟩, hstays⟩
    · exact absurd (hcall.symm.trans hnone) (by simp)
    · exact absurd (hwaits.symm.trans hnone) (by simp)
  | called _ _ _ _ _ _ idle => exact absurd (hcall.symm.trans idle) (by simp)
  | settled label ticket loop other _ current _ result =>
    -- a call that is blocked has no result
    obtain ⟨⟨send, hsend, hopen⟩, -⟩ := h.blocked
    have hphase := (ChildPipe.result_eq_some_iff (hturn.current other current send hsend)).mp result
    rw [ChildPipe.phaseOf_of_lookup hsend, Option.some.injEq] at hphase
    exact absurd hphase (hopen _)
  | child label pipe unread own _ step =>
    have hrun : Runs.exec (ChildPipe.step gw.serde) s.pipe [label] = some pipe := by simp [step]
    have hblocked := h.blocked.of_exec hrun fun other hmem => by
      obtain rfl := List.mem_singleton.mp hmem
      exact hlabel
    exact ⟨⟨h.waits, hblocked⟩, rfl, rfl⟩
  | printed line => exact ⟨⟨h.waits, h.blocked⟩, rfl, rfl⟩

/-- **A deaf child.** In every reachable state in which the loop waits for a call of the
child, the call has a result or can make a step by itself, or the loop is halted. If the
child's writer takes no more lines, no more calls get past the queue than it has room for.
Once the loop is halted, it stays so: it hands nothing over and takes up no other line. -/
theorem deaf_child (gw : Gateway) (child : StdioBackend) (initial : DispatchState)
    {discovery : List PipeLabel} {pipe : ChildPipe}
    (hdiscovered : Discovered gw.serde discovery pipe) {unread : List String}
    {before after : List ServingLabel}
    (hbefore : Runs.exec (step gw child) (start initial pipe unread) before = some s)
    (hafter : Runs.exec (step gw child) s after = some t)
    (hsilent : ∀ label ∈ after, label.isWriter = false) :
    (∀ call, s.current gw child = some call →
      (∃ outcome, s.pipe.result gw.serde s.ticket call.body = some outcome) ∨
        (∃ label, label.ticket? = some s.ticket ∧ (s.pipe.step gw.serde label).isSome) ∨
        Halted gw child s) ∧
    (s.pipe.stdinOpen = true →
      t.sent gw child ≤ s.sent gw child + (stdinCapacity - s.pipe.queue.length)) ∧
    (Halted gw child s →
      Halted gw child t ∧ t.loop.phase = s.loop.phase ∧ t.loop.emitted = s.loop.emitted) := by
  have hreached {labels : List ServingLabel} {u : ServedChild}
      (h : Runs.exec (step gw child) s labels = some u) :
      Runs.exec (step gw child) (start initial pipe unread) (before ++ labels) = some u := by
    rw [Runs.exec_append, hbefore]
    exact h
  refine ⟨?_, ?_, ?_⟩
  · intro call hcall
    obtain ⟨hturn, -⟩ := inTurn_of_exec hdiscovered hbefore
    cases hresult : s.pipe.result gw.serde s.ticket call.body with
    | some outcome => exact Or.inl ⟨outcome, rfl⟩
    | none =>
      by_cases hstep : ∃ label, label.ticket? = some s.ticket ∧ (s.pipe.step gw.serde label).isSome
      · exact Or.inr (Or.inl hstep)
      · refine Or.inr (Or.inr ⟨Option.isSome_iff_exists.mpr ⟨call, hcall⟩, ?_, ?_⟩)
        · cases hid : ChildPipe.requestId gw.serde call.body with
          | error e => simp [ChildPipe.result, hid] at hresult
          | ok id =>
            obtain ⟨send, hsend⟩ := hturn.made call id hcall hid
            refine ⟨send, hsend, fun outcome hphase => ?_⟩
            have hover := ChildPipe.phaseOf_of_lookup hsend
            rw [hphase] at hover
            rw [(ChildPipe.result_eq_some_iff hid).mpr hover] at hresult
            cases hresult
        · intro label hlabel
          exact Option.not_isSome_iff_eq_none.mp fun hsome => hstep ⟨label, hlabel, hsome⟩
  · intro hopen
    obtain ⟨-, steps, hsteps⟩ := inTurn_of_exec hdiscovered (hreached hafter)
    have hroom := ChildPipe.queue_bounded hsteps
    have hsent := sent_of_exec hafter hopen hsilent
    omega
  · intro hhalted
    have hrun := Runs.exec_induction (step gw child) (motive := fun labels u =>
      (∀ label ∈ labels, label.isWriter = false) →
        Halted gw child u ∧ u.loop.phase = s.loop.phase ∧ u.loop.emitted = s.loop.emitted)
      (fun _ => ⟨hhalted, rfl, rfl⟩) ?_ hafter
    · exact hrun hsilent
    · intro labels label u v hexec ih hstep hall
      obtain ⟨huhalted, huphase, huemitted⟩ :=
        ih fun other hmem => hall other (List.mem_append_left _ hmem)
      obtain ⟨hturn, -⟩ := inTurn_of_exec hdiscovered (hreached hexec)
      obtain ⟨hvhalted, hvphase, hvemitted⟩ := huhalted.step hturn (step_cases hstep)
        (hall label (List.mem_append_right _ (List.mem_singleton_self _)))
      exact ⟨hvhalted, hvphase.trans huphase, hvemitted.trans huemitted⟩

/-- Calls whose lines stay in the queue, and time out. -/
def deafCalls (calls : ℕ) : List ServingLabel :=
  (List.range calls).flatMap fun call =>
    untilCall (.error (.invalidResponse "request timed out")) (call + 4) ++
      [.child (.enqueue (call + 4)), .child (.timeOut (call + 4)), .child (.cleanUp (call + 4))] ++
      afterCall

/-- A child that was fine stops reading. The queue takes another 64 calls, and the one
after them halts the loop. -/
theorem deaf_child_after_two_calls :
    ∃ pipe s t, Discovered childGateway.serde discovery pipe ∧
      Runs.exec (step childGateway ⟨"db", 0, 60⟩)
        (start (Gateway.start ⟨{}, .new {}⟩ .new ∅) pipe []) lateAnswer = some s ∧
      Runs.exec (step childGateway ⟨"db", 0, 60⟩) s
        (deafCalls 64 ++ untilCall (.error .stdinClosed) 68) = some t ∧
      s.sent childGateway ⟨"db", 0, 60⟩ = 2 ∧ t.sent childGateway ⟨"db", 0, 60⟩ = 2 + 64 ∧
      t.sent childGateway ⟨"db", 0, 60⟩ ≤
        s.sent childGateway ⟨"db", 0, 60⟩ + (stdinCapacity - s.pipe.queue.length) ∧
      Halted childGateway ⟨"db", 0, 60⟩ t := by
  obtain ⟨pipe, hdiscovered⟩ := exists_discovered
  have hfacts : ((Runs.exec (ChildPipe.step childGateway.serde) .new discovery).bind fun pipe =>
      (Runs.exec (step childGateway ⟨"db", 0, 60⟩)
        (start (Gateway.start ⟨{}, .new {}⟩ .new ∅) pipe []) lateAnswer).bind fun s =>
      (Runs.exec (step childGateway ⟨"db", 0, 60⟩) s
        (deafCalls 64 ++ untilCall (.error .stdinClosed) 68)).map fun t =>
          ((s.sent childGateway ⟨"db", 0, 60⟩, s.pipe.stdinOpen),
            (t.sent childGateway ⟨"db", 0, 60⟩, (t.current childGateway ⟨"db", 0, 60⟩).isSome),
            (t.pipe.phaseOf t.ticket, t.pipe.stdinOpen, t.pipe.queue.length))) =
        some ((2, true), (66, true), (some .queuing, true, 64)) := by
    decide +kernel
  rw [hdiscovered.run, Option.bind_some] at hfacts
  obtain ⟨s, hs, hfacts⟩ := Option.bind_eq_some_iff.mp hfacts
  obtain ⟨t, ht, hfacts⟩ := Option.map_eq_some_iff.mp hfacts
  obtain ⟨hfirst, hfacts⟩ := Prod.mk.inj hfacts
  obtain ⟨htwo, hopen⟩ := Prod.mk.inj hfirst
  obtain ⟨hsecond, hqueue⟩ := Prod.mk.inj hfacts
  obtain ⟨hsent, hwaits⟩ := Prod.mk.inj hsecond
  obtain ⟨hphase, hqueue⟩ := Prod.mk.inj hqueue
  obtain ⟨hstdin, hlength⟩ := Prod.mk.inj hqueue
  have hsilent : ∀ label ∈ deafCalls 64 ++ untilCall (.error .stdinClosed) 68,
      label.isWriter = false := by decide +kernel
  have hbound := (deaf_child childGateway ⟨"db", 0, 60⟩ _ hdiscovered hs ht hsilent).2.1 hopen
  obtain ⟨send, hsend, hqueuing⟩ := Option.map_eq_some_iff.mp hphase
  have hblocked : t.pipe.Blocked childGateway.serde t.ticket :=
    ChildPipe.blocked_iff.mpr ⟨send, hsend, hqueuing, hstdin, hlength.ge⟩
  exact ⟨pipe, s, t, hdiscovered, hs, ht, htwo, hsent, hbound, hwaits, hblocked⟩

end ServedChild

end SentinelGateway
