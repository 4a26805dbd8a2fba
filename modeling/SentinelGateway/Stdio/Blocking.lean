import SentinelGateway.Stdio.Correlation

/-!
# A call without a deadline

The timeout of `StdioBackend::send` covers the wait for the response. The wait for room in
the queue to the stdin writer comes before it and has none. So a call can always go on by
itself, come what may, but for this one place; and a child that stops reading its stdin
stops for good the call that finds the queue full, and whoever waits for it.
-/

namespace SentinelGateway

/-- The call that makes a step by itself. -/
def PipeLabel.ticket? : PipeLabel → Option ℕ
  | .enqueue ticket | .refuse ticket | .receive ticket | .timeOut ticket | .cleanUp ticket =>
    some ticket
  | _ => none

/-- The step is one of the stdin writer. -/
def PipeLabel.isWriter : PipeLabel → Bool
  | .write | .closeStdin => true
  | _ => false

/-- The step puts a line into the queue. -/
def PipeLabel.isEnqueue : PipeLabel → Bool
  | .enqueue _ => true
  | _ => false

namespace ChildPipe

variable {serde : SerdeJson} {s t : ChildPipe} {ticket : ℕ} {labels : List PipeLabel}

/-- A call has not returned and can make no step by itself. -/
def Blocked (serde : SerdeJson) (s : ChildPipe) (ticket : ℕ) : Prop :=
  (∃ send, s.sends.lookup ticket = some send ∧ ∀ result, send.phase ≠ .returned result) ∧
    ∀ label : PipeLabel, label.ticket? = some ticket → s.step serde label = none

/-- A call is blocked exactly if it waits for room in a queue that is full and that the
writer still reads from. -/
theorem blocked_iff : Blocked serde s ticket ↔
    ∃ send, s.sends.lookup ticket = some send ∧ send.phase = .queuing ∧ s.stdinOpen = true ∧
      stdinCapacity ≤ s.queue.length := by
  constructor
  · rintro ⟨⟨send, hsend, hreturned⟩, hstuck⟩
    refine ⟨send, hsend, ?_⟩
    cases hphase : send.phase with
    | queuing =>
      have henqueue := hstuck (.enqueue ticket) rfl
      have hrefuse := hstuck (.refuse ticket) rfl
      simp only [step, advance, hsend, Option.bind_some, hphase, true_and] at henqueue hrefuse
      cases hopen : s.stdinOpen with
      | false => simp [hopen] at hrefuse
      | true => simpa [hopen] using henqueue
    | waiting =>
      exfalso
      cases hslot : send.slot with
      | empty =>
        have hstep := hstuck (.timeOut ticket) rfl
        simp [step, advance, hsend, hphase, hslot] at hstep
      | filled | dropped =>
        have hstep := hstuck (.receive ticket) rfl
        simp [step, advance, hsend, hphase, hslot] at hstep
    | failing error =>
      exfalso
      have hstep := hstuck (.cleanUp ticket) rfl
      obtain ⟨left, hleft⟩ : ∃ left, (s.dropSender send.id).sends.lookup ticket = some left := by
        rw [lookup_sends_dropSender, hsend]
        split_ifs
        · exact ⟨_, rfl⟩
        · exact ⟨_, rfl⟩
      simp [step, advance, hsend, hphase, hleft] at hstep
    | returned result => exact absurd hphase (hreturned result)
  · rintro ⟨send, hsend, hphase, hopen, hfull⟩
    refine ⟨⟨send, hsend, by simp [hphase]⟩, ?_⟩
    intro label hticket
    cases label with
    | enqueue | refuse | receive | timeOut | cleanUp =>
      cases hticket
      simp [step, advance, hsend, hphase, hopen, Nat.not_lt.mpr hfull]
    | _ => cases hticket

/-- A call stays where it is unless it makes a step itself. -/
theorem phaseOf_step {label : PipeLabel} (hcase : StepCase serde s label t)
    (hlabel : label.ticket? ≠ some ticket) {phase : SendPhase}
    (hphase : s.phaseOf ticket = some phase) : t.phaseOf ticket = some phase := by
  obtain ⟨send, hsend, rfl⟩ := Option.map_eq_some_iff.mp hphase
  have hother {changed : ℕ} (h : some changed ≠ some ticket) : ticket ≠ changed :=
    fun heq => h (congrArg some heq.symm)
  cases hcase with
  | rejected | ignored | wrote | closed | takenUp | outputEnded => exact hphase
  | begun moved body id hmem =>
    have hne : ticket ≠ moved := by
      rintro rfl
      simp [AList.lookup_eq_none.mpr hmem] at hsend
    rw [phaseOf, AList.lookup_insert_ne hne, lookup_sends_dropSender, hsend]
    split_ifs <;> rfl
  | enqueued moved | refused moved | received moved | lost moved | timedOut moved =>
    rw [phaseOf, Table.lookup_modify_of_ne _ (hother hlabel), ← phaseOf]
    exact hphase
  | cleanedUp moved =>
    rw [phaseOf, Table.lookup_modify_of_ne _ (hother hlabel), lookup_sends_dropSender, hsend]
    split_ifs <;> rfl
  | delivered moved line hreader =>
    exact (phaseOf_modify_slot s moved ticket (.filled line)).trans hphase
  | drained =>
    rw [phaseOf, lookup_sends_drainPending, hsend]
    split_ifs <;> rfl

theorem dropSender_stdin (s : ChildPipe) (id : UInt64) :
    (s.dropSender id).queue = s.queue ∧ (s.dropSender id).stdinOpen = s.stdinOpen := by
  unfold dropSender
  cases s.pending.lookup id with
  | none => exact ⟨rfl, rfl⟩
  | some ticket => exact ⟨rfl, rfl⟩

/-- Only the writer makes room in the queue, or closes it. -/
theorem queue_step {label : PipeLabel} (hcase : StepCase serde s label t)
    (hlabel : label.isWriter = false) :
    t.stdinOpen = s.stdinOpen ∧ t.queue.length = s.queue.length + label.isEnqueue.toNat := by
  cases hcase with
  | wrote | closed => cases hlabel
  | enqueued moved send => exact ⟨rfl, List.length_append⟩
  | begun moved body id | cleanedUp moved send error =>
    obtain ⟨hqueue, hopen⟩ := s.dropSender_stdin _
    exact ⟨hopen, congrArg List.length hqueue⟩
  | _ => exact ⟨rfl, rfl⟩

/-- The queue never holds more than it has room for. -/
theorem queue_bounded (h : Runs.exec (step serde) new labels = some s) :
    s.queue.length ≤ stdinCapacity := by
  refine Runs.exec_induction (step serde) (motive := fun _ s => s.queue.length ≤ stdinCapacity)
    (Nat.zero_le _) ?_ h
  intro labels label s t _ ih hstep
  cases label with
  | write =>
    simp only [step] at hstep
    split at hstep
    · rename_i message queue _ hqueue
      obtain rfl := Option.some.inj hstep
      rw [hqueue, List.length_cons] at ih
      exact Nat.le_of_succ_le ih
    · cases hstep
  | closeStdin =>
    obtain rfl := Option.some.inj hstep
    exact Nat.zero_le _
  | enqueue ticket =>
    cases step_cases hstep with
    | enqueued _ send lookup phase stdin room =>
      rw [List.length_append, List.length_singleton]
      exact room
  | begin | refuse | receive | timeOut | cleanUp | print | deliver | endOfOutput | drain =>
    rw [(queue_step (step_cases hstep) rfl).2]
    exact ih

/-- What a run without the writer does to the queue. -/
theorem queue_of_exec (h : Runs.exec (step serde) s labels = some t)
    (hlabels : ∀ label ∈ labels, label.isWriter = false) :
    t.stdinOpen = s.stdinOpen ∧
      t.queue.length = s.queue.length + labels.countP PipeLabel.isEnqueue := by
  have hrun := Runs.exec_induction (step serde) (motive := fun labels t =>
    (∀ label ∈ labels, label.isWriter = false) → t.stdinOpen = s.stdinOpen ∧
      t.queue.length = s.queue.length + labels.countP PipeLabel.isEnqueue)
    (fun _ => ⟨rfl, rfl⟩) ?_ h
  · exact hrun hlabels
  · intro labels label t u _ ih hstep hall
    obtain ⟨hopen, hlength⟩ := ih fun other hmem => hall other (List.mem_append_left _ hmem)
    have hlast := hall label (List.mem_append_right _ (List.mem_singleton_self _))
    obtain ⟨hopen', hlength'⟩ := queue_step (step_cases hstep) hlast
    refine ⟨hopen'.trans hopen, ?_⟩
    rw [hlength', hlength, List.countP_append, List.countP_singleton, Nat.add_assoc]
    cases label.isEnqueue <;> rfl

/-- A blocked call stays blocked as long as the writer does nothing. -/
theorem Blocked.of_exec (h : Blocked serde s ticket)
    (hexec : Runs.exec (step serde) s labels = some t)
    (hlabels : ∀ label ∈ labels, label.isWriter = false) : Blocked serde t ticket := by
  have hrun := Runs.exec_induction (step serde) (motive := fun labels t =>
    (∀ label ∈ labels, label.isWriter = false) → Blocked serde t ticket) (fun _ => h) ?_ hexec
  · exact hrun hlabels
  · intro labels label t u _ ih hstep hall
    have hblocked := ih fun other hmem => hall other (List.mem_append_left _ hmem)
    have hcase := step_cases hstep
    have hlabel : label.ticket? ≠ some ticket := by
      intro heq
      rw [hblocked.2 label heq] at hstep
      cases hstep
    obtain ⟨send, hsend, hphase, hopen, hfull⟩ := blocked_iff.mp hblocked
    obtain ⟨hopen', hlength⟩ :=
      queue_step hcase (hall label (List.mem_append_right _ (List.mem_singleton_self _)))
    have hqueuing : t.phaseOf ticket = some .queuing := by
      rw [phaseOf, hsend, Option.map_some, hphase]
    obtain ⟨next, hnext, hkept⟩ := Option.map_eq_some_iff.mp (phaseOf_step hcase hlabel hqueuing)
    exact blocked_iff.mpr ⟨next, hnext, hkept, hopen'.trans hopen, by omega⟩

/-- **A call without a deadline.** In every reachable state, and whatever the child does, a
call that has not returned can make a step by itself, unless it waits for room in the full
queue of a writer that is still there: for that there is no timeout. If the writer takes no
more lines, as it does when the child stops reading, no more calls get past the queue than
it has room for, and a call that is blocked stays so for good. -/
theorem blocked_without_deadline (serde : SerdeJson) {before : List PipeLabel}
    (hbefore : Runs.exec (step serde) new before = some s) :
    (∀ ticket, Blocked serde s ticket ↔ s.phaseOf ticket = some .queuing ∧
      s.stdinOpen = true ∧ s.queue.length = stdinCapacity) ∧
    ∀ after t, Runs.exec (step serde) s after = some t →
      (∀ label ∈ after, label.isWriter = false) →
        after.countP PipeLabel.isEnqueue ≤ stdinCapacity - s.queue.length ∧
          ∀ ticket, Blocked serde s ticket → Blocked serde t ticket := by
  have hbounded := queue_bounded hbefore
  refine ⟨?_, ?_⟩
  · intro ticket
    rw [blocked_iff, phaseOf, Option.map_eq_some_iff]
    constructor
    · rintro ⟨send, hsend, hphase, hopen, hfull⟩
      exact ⟨⟨send, hsend, hphase⟩, hopen, Nat.le_antisymm hbounded hfull⟩
    · rintro ⟨⟨send, hsend, hphase⟩, hopen, hfull⟩
      exact ⟨send, hsend, hphase, hopen, hfull.ge⟩
  · intro after t hafter hlabels
    have hall : Runs.exec (step serde) new (before ++ after) = some t := by
      rw [Runs.exec_append, hbefore]
      exact hafter
    have hroom := queue_bounded hall
    have hlength := (queue_of_exec hafter hlabels).2
    exact ⟨by omega, fun ticket h => h.of_exec hafter hlabels⟩

/-- Calls one after the other, each of which times out because the child does not read. -/
def deafCalls (body : String) (calls : ℕ) : List PipeLabel :=
  (List.range calls).flatMap fun ticket =>
    [.begin ticket body, .enqueue ticket, .timeOut ticket, .cleanUp ticket]

/-- After 64 calls that timed out, the next one never returns. -/
theorem blocked_without_deadline_deaf_child :
    let serde := SerdeJson.ofValues [callJson 7 "query"]
    let body := (callJson 7 "query").text
    ∃ s, Runs.exec (step serde) new (deafCalls body 64 ++ [.begin 64 body]) = some s ∧
      Blocked serde s 64 := by
  intro serde body
  have hfacts : (Runs.exec (step serde) new (deafCalls body 64 ++ [.begin 64 body])).map
      (fun s => (s.phaseOf 64, s.stdinOpen, s.queue.length)) = some (some .queuing, true, 64) := by
    decide +kernel
  obtain ⟨s, hs, heq⟩ := Option.map_eq_some_iff.mp hfacts
  obtain ⟨hphase, heq⟩ := Prod.mk.inj heq
  obtain ⟨hopen, hlength⟩ := Prod.mk.inj heq
  exact ⟨s, hs, ((blocked_without_deadline serde hs).1 64).mpr ⟨hphase, hopen, hlength⟩⟩

end ChildPipe

end SentinelGateway
