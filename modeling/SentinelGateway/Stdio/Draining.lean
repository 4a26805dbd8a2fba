import SentinelGateway.Stdio.Correlation

/-!
# Calls on a child that is gone

When its output ends, the stdout reader drains the map of pending identifiers, and
the supervisor drains it again. Nobody closes the channel to the stdin writer: a
call that registers itself afterwards can still queue its line, and then waits for
an answer that nobody will give it.
-/

namespace SentinelGateway.ChildPipe

variable {serde : SerdeJson} {s t u : ChildPipe}

/-- The call is still to be answered: it queues its line or awaits its response,
and was given none. -/
def InFlight (send : Send) : Prop :=
  (send.phase = .queuing ∨ send.phase = .waiting) ∧ ∀ line, send.slot ≠ .filled line

/-- The result says that the child is gone: `ProcessExited` or `StdinClosed`. -/
def ReportsExit (result : Except BackendError String) : Prop :=
  (∃ reason, result = .error (.processExited reason)) ∨ result = .error .stdinClosed

/-- Along the run, a child whose pending requests were drained strands no call. -/
structure NeverStrands (serde : SerdeJson) (labels : List PipeLabel) : Prop where
  /-- After draining, no call has queued its line and waits with its entry in the map. -/
  unlisted : ∀ before more t, before ++ .drain :: more <+: labels →
    Runs.exec (step serde) new (before ++ .drain :: more) = some t →
    ∀ ticket send, t.sends.lookup ticket = some send → send.phase = .waiting →
      t.pending.lookup send.id ≠ some ticket
  /-- A call that waits after draining can return without its timeout. -/
  ready : ∀ before more t, before ++ .drain :: more <+: labels →
    Runs.exec (step serde) new (before ++ .drain :: more) = some t →
    ∀ ticket, t.phaseOf ticket = some .waiting → (t.step serde (.receive ticket)).isSome
  /-- A call that is in flight when the map is drained, or is made later, learns that
  the child is gone. -/
  reported : ∀ before more s t, before ++ .drain :: more <+: labels →
    Runs.exec (step serde) new before = some s →
    Runs.exec (step serde) new (before ++ .drain :: more) = some t →
    ∀ ticket result, (∀ send, s.sends.lookup ticket = some send → InFlight send) →
      t.phaseOf ticket = some (.returned result) → ReportsExit result

/-- Every line queued after a draining is that of a call whose sender was gone by
then: the call had registered itself before. -/
def RegistersBefore (serde : SerdeJson) (labels : List PipeLabel) : Prop :=
  ∀ before ticket after s send, labels = before ++ .enqueue ticket :: after → .drain ∈ before →
    Runs.exec (step serde) new before = some s → s.sends.lookup ticket = some send →
    send.slot ≠ .empty

/-- A call after a draining can only learn that the child is gone. -/
structure Doomed (send : Send) : Prop where
  unanswered : ∀ line, send.slot ≠ .filled line
  failing : ∀ error, send.phase = .failing error → error = .stdinClosed
  returned : ∀ result, send.phase = .returned result → ReportsExit result

/-- How things are after a draining in state `s`. -/
structure Drained (s t : ChildPipe) : Prop where
  reader : t.reader = .ended
  ready : ∀ ticket send, t.sends.lookup ticket = some send → send.phase = .waiting →
    send.slot ≠ .empty
  doomed : ∀ ticket send, t.sends.lookup ticket = some send →
    (∀ old, s.sends.lookup ticket = some old → InFlight old) → Doomed send

/-- A call that is in flight knows nothing that speaks against the end of the child. -/
theorem InFlight.doomed {send : Send} (h : InFlight send) : Doomed send := by
  obtain ⟨hphase | hphase, hslot⟩ := h
  · exact ⟨hslot, by simp [hphase], by simp [hphase]⟩
  · exact ⟨hslot, by simp [hphase], by simp [hphase]⟩

theorem Doomed.dropped {send : Send} (h : Doomed send) : Doomed (send.withSlot .dropped) :=
  ⟨by simp [Send.withSlot], h.failing, h.returned⟩

/-- Draining itself: every sender the map had is gone. -/
theorem drained_drainPending (h : Owned s) (hended : s.reader = .ended) :
    Drained s s.drainPending := by
  refine ⟨hended, ?_, ?_⟩
  · intro ticket send hsend _
    exact slot_of_drainPending h hended hsend
  · intro ticket send hsend hflight
    rw [lookup_sends_drainPending] at hsend
    split_ifs at hsend
    · obtain ⟨old, hold, rfl⟩ := Option.map_eq_some_iff.mp hsend
      exact (hflight old hold).doomed.dropped
    · exact (hflight send hsend).doomed

/-- A reader behind its loop stays there. -/
theorem reader_of_ended {label : PipeLabel} (hcase : StepCase serde t label u)
    (hended : t.reader = .ended) : u.reader = .ended := by
  cases hcase with
  | rejected | enqueued | refused | received | lost | timedOut | wrote | closed | ignored =>
    exact hended
  | begun | cleanedUp => simp [hended]
  | takenUp _ _ _ hreader | delivered _ _ hreader | outputEnded hreader =>
    cases hreader.symm.trans hended
  | drained => exact hended

/-- A call that a step finds for the first time was just made. -/
theorem eq_of_fresh {label : PipeLabel} (hcase : StepCase serde t label u) {ticket : ℕ}
    {send : Send} (hfresh : t.sends.lookup ticket = none)
    (hsend : u.sends.lookup ticket = some send) : send.phase = .queuing ∧ send.slot = .empty := by
  cases hcase with
  | rejected | wrote | closed | ignored | takenUp | outputEnded => simp [hfresh] at hsend
  | begun moved body id =>
    by_cases heq : ticket = moved
    · subst heq
      rw [AList.lookup_insert, Option.some.injEq] at hsend
      subst hsend
      exact ⟨rfl, rfl⟩
    · rw [AList.lookup_insert_ne heq, lookup_sends_dropSender, hfresh] at hsend
      simp at hsend
  | enqueued | refused | received | lost | timedOut | delivered =>
    rw [Table.lookup_modify, hfresh] at hsend
    simp at hsend
  | cleanedUp =>
    rw [Table.lookup_modify, lookup_sends_dropSender, hfresh] at hsend
    simp at hsend
  | drained =>
    rw [lookup_sends_drainPending, hfresh] at hsend
    simp at hsend

/-- A call found after a step was just made, or evolved from what it was. -/
theorem fresh_or_evolves {label : PipeLabel} (hcase : StepCase serde t label u) {ticket : ℕ}
    {send : Send} (hsend : u.sends.lookup ticket = some send) :
    (t.sends.lookup ticket = none ∧ send.phase = .queuing ∧ send.slot = .empty) ∨
      ∃ old, t.sends.lookup ticket = some old ∧ Evolves t label ticket old send := by
  cases hold : t.sends.lookup ticket with
  | none => exact .inl ⟨rfl, eq_of_fresh hcase hold hsend⟩
  | some old =>
    obtain ⟨next, hnext, hevolves⟩ := exists_evolves hcase hold
    obtain rfl : next = send := Option.some.inj (hnext.symm.trans hsend)
    exact .inr ⟨old, rfl, hevolves⟩

/-- A doomed call stays doomed, provided it does not wait for a sender in vain. -/
theorem Doomed.evolves {label : PipeLabel} {ticket : ℕ} {old send : Send} (h : Doomed old)
    (hended : t.reader = .ended) (hready : old.phase = .waiting → old.slot ≠ .empty)
    (hevolves : Evolves t label ticket old send) : Doomed send := by
  cases hevolves with
  | kept => exact h
  | dropped => exact h.dropped
  | filled line hreader => cases hreader.symm.trans hended
  | enqueued => exact ⟨h.unanswered, by simp [Send.withPhase], by simp [Send.withPhase]⟩
  | refused =>
    refine ⟨h.unanswered, ?_, by simp [Send.withPhase]⟩
    intro error herror
    cases herror
    rfl
  | received line _ hslot => exact absurd hslot (h.unanswered line)
  | lost =>
    refine ⟨h.unanswered, by simp [Send.withPhase], ?_⟩
    intro result hresult
    cases hresult
    exact .inl ⟨_, rfl⟩
  | timedOut hphase hslot => exact absurd hslot (hready hphase)
  | cleanedUp error slot hphase hslot =>
    obtain rfl : error = .stdinClosed := h.failing error hphase
    refine ⟨?_, by simp [Send.withPhase], ?_⟩
    · intro line
      rcases hslot with rfl | rfl
      · exact h.unanswered line
      · simp [Send.withPhase, Send.withSlot]
    · intro result hresult
      cases hresult
      exact .inr rfl

/-- A step after a draining, if it does not queue the line of a call whose sender is
still held. -/
theorem Drained.step (h : Drained s t) {label : PipeLabel}
    (hqueued : ∀ ticket send, label = .enqueue ticket → t.sends.lookup ticket = some send →
      send.slot ≠ .empty)
    (hcase : StepCase serde t label u) : Drained s u := by
  refine ⟨reader_of_ended hcase h.reader, ?_, ?_⟩
  · intro ticket send hsend hwaiting
    obtain ⟨-, hphase, -⟩ | ⟨old, hold, hevolves⟩ := fresh_or_evolves hcase hsend
    · cases hphase.symm.trans hwaiting
    · cases hevolves with
      | kept => exact h.ready ticket _ hold hwaiting
      | dropped | filled => simp [Send.withSlot]
      | enqueued _ hlabel => exact hqueued ticket old hlabel hold
      | refused | received | lost | timedOut | cleanedUp => cases hwaiting
  · intro ticket send hsend hflight
    obtain ⟨-, hphase, hslot⟩ | ⟨old, hold, hevolves⟩ := fresh_or_evolves hcase hsend
    · exact InFlight.doomed ⟨.inl hphase, by simp [hslot]⟩
    · exact (h.doomed ticket old hold hflight).evolves h.reader (h.ready ticket old hold) hevolves

/-- A run with a draining in it leads to the draining, and on from there. -/
theorem exec_drain_iff {before more : List PipeLabel} :
    Runs.exec (step serde) new (before ++ .drain :: more) = some t ↔
      ∃ s, Runs.exec (step serde) new before = some s ∧ s.reader = .ended ∧
        Runs.exec (step serde) s.drainPending more = some t := by
  rw [Runs.exec_append, Option.bind_eq_some_iff]
  constructor
  · rintro ⟨s, hs, htail⟩
    rw [Runs.exec_cons, Option.bind_eq_some_iff] at htail
    obtain ⟨drained, hstep, hmore⟩ := htail
    cases step_cases hstep with
    | drained hended => exact ⟨s, hs, hended, hmore⟩
  · rintro ⟨s, hs, hended, hmore⟩
    refine ⟨s, hs, ?_⟩
    simpa [step, hended] using hmore

/-- After a draining, along a run whose calls register themselves before. -/
theorem drained_of_exec {labels before more : List PipeLabel}
    (hregisters : RegistersBefore serde labels) (hstart : before ++ .drain :: more <+: labels)
    (hs : Runs.exec (step serde) new before = some s)
    (hrun : Runs.exec (step serde) new (before ++ .drain :: more) = some t) : Drained s t := by
  obtain ⟨drained, hdrained, hended, hmore⟩ := exec_drain_iff.mp hrun
  obtain rfl : drained = s := Option.some.inj (hdrained.symm.trans hs)
  -- the induction is on what follows the draining
  refine Runs.exec_induction (step serde) (motive := fun more t =>
    before ++ .drain :: more <+: labels → Drained drained t) ?_ ?_ hmore hstart
  · intro _
    exact drained_drainPending (owned_of_exec hs) hended
  · intro more label t u hexec ih hstep hlonger
    obtain ⟨rest, hrest⟩ := hlonger
    have hsplit : labels = (before ++ .drain :: more) ++ label :: rest := by
      simp [← hrest]
    have hreached : Runs.exec (step serde) new (before ++ .drain :: more) = some t :=
      exec_drain_iff.mpr ⟨drained, hs, hended, hexec⟩
    refine (ih ⟨label :: rest, hsplit.symm⟩).step ?_ (step_cases hstep)
    rintro ticket send rfl hsend
    exact hregisters _ ticket rest t send hsplit (by simp) hreached hsend

/-- Calls that register themselves before the map is drained are not stranded. -/
theorem neverStrands_of_registersBefore {labels : List PipeLabel}
    (h : RegistersBefore serde labels) : NeverStrands serde labels := by
  have hdrained {before more : List PipeLabel} {t : ChildPipe}
      (hstart : before ++ .drain :: more <+: labels)
      (hrun : Runs.exec (step serde) new (before ++ .drain :: more) = some t) :
      ∃ s, Drained s t := by
    obtain ⟨s, hs, -⟩ := exec_drain_iff.mp hrun
    exact ⟨s, drained_of_exec h hstart hs hrun⟩
  refine ⟨?_, ?_, ?_⟩
  · intro before more t hstart hrun ticket send hsend hwaiting
    obtain ⟨s, hspent⟩ := hdrained hstart hrun
    exact (owned_of_exec hrun).forgotten hsend (hspent.ready ticket send hsend hwaiting)
  · intro before more t hstart hrun ticket hphase
    obtain ⟨s, hspent⟩ := hdrained hstart hrun
    obtain ⟨send, hsend, hwaiting⟩ := Option.map_eq_some_iff.mp hphase
    have hslot := hspent.ready ticket send hsend hwaiting
    cases hcase : send.slot with
    | empty => exact absurd hcase hslot
    | filled | dropped => simp [step, advance, hsend, hwaiting, hcase]
  · intro before more s t hstart hs hrun ticket result hflight hreturned
    obtain ⟨send, hsend, hphase⟩ := Option.map_eq_some_iff.mp hreturned
    have hdoomed := (drained_of_exec h hstart hs hrun).doomed ticket send hsend hflight
    exact hdoomed.returned result hphase

/-- A call that queues its line although the map holds its sender waits in vain. -/
theorem receive_of_enqueue {ticket : ℕ} {send : Send} (hsend : s.sends.lookup ticket = some send)
    (hempty : send.slot = .empty) (hstep : s.step serde (.enqueue ticket) = some t) :
    t.phaseOf ticket = some .waiting ∧ t.step serde (.receive ticket) = none := by
  cases step_cases hstep with
  | enqueued _ other hother hphase =>
    have hlookup : (s.sends.modify ticket (Send.withPhase .waiting)).lookup ticket =
        some (send.withPhase .waiting) := by
      rw [Table.lookup_modify_self, hsend]
      rfl
    refine ⟨?_, ?_⟩
    · rw [phaseOf, hlookup]
      rfl
    · simp [step, advance, hlookup, Send.withPhase, hempty]

/-- **Draining.** A run strands no call if and only if every call that queues its
line after a draining had registered itself before one. -/
theorem neverStrands_iff (serde : SerdeJson) {labels : List PipeLabel} {final : ChildPipe}
    (hrun : Runs.exec (step serde) new labels = some final) :
    NeverStrands serde labels ↔ RegistersBefore serde labels := by
  refine ⟨?_, neverStrands_of_registersBefore⟩
  rintro h before ticket after s send rfl hmem hs hsend hempty
  obtain ⟨first, more, rfl⟩ := List.append_of_mem hmem
  rw [Runs.exec_append, hs, Option.bind_some, Runs.exec_cons, Option.bind_eq_some_iff] at hrun
  obtain ⟨t, hstep, -⟩ := hrun
  have hlonger : first ++ .drain :: (more ++ [.enqueue ticket]) <+:
      first ++ .drain :: more ++ .enqueue ticket :: after := ⟨after, by simp⟩
  have hreached : Runs.exec (step serde) new (first ++ .drain :: (more ++ [.enqueue ticket])) =
      some t := by
    have hconcat : first ++ .drain :: (more ++ [.enqueue ticket]) =
        first ++ .drain :: more ++ [.enqueue ticket] := by simp
    rw [hconcat, Runs.exec_append, hs]
    simp [hstep]
  obtain ⟨hwaiting, hnone⟩ := receive_of_enqueue hsend hempty hstep
  have hready := h.ready first (more ++ [.enqueue ticket]) t hlonger hreached ticket hwaiting
  simp [hnone] at hready

/-- A call is under way when the output ends, and another one comes after the stdin
writer has noticed: both learn that the child is gone. -/
theorem neverStrands_in_flight :
    let serde := SerdeJson.ofValues [callJson 5 "query", callJson 6 "query"]
    let labels : List PipeLabel :=
      [.begin 0 (callJson 5 "query").text, .enqueue 0, .endOfOutput, .drain, .receive 0,
        .closeStdin, .begin 1 (callJson 6 "query").text, .refuse 1, .drain, .cleanUp 1]
    NeverStrands serde labels := by
  intro serde labels
  have hrun : (Runs.exec (step serde) new labels).isSome := by decide +kernel
  obtain ⟨final, hfinal⟩ := Option.isSome_iff_exists.mp hrun
  refine (neverStrands_iff serde hfinal).mpr ?_
  intro before ticket after s send hsplit hmem
  -- the only line is queued before the map is drained
  obtain ⟨rfl, -⟩ : before = [.begin 0 (callJson 5 "query").text] ∧ ticket = 0 := by
    simp [labels, List.cons_eq_append_iff] at hsplit
    exact ⟨hsplit.1, hsplit.2.1⟩
  simp at hmem

/-- A call registers itself after both drainings, finds the channel open, and ends by
its timeout. -/
theorem not_neverStrands_late_call :
    let serde := SerdeJson.ofValues [callJson 6 "query"]
    let labels : List PipeLabel :=
      [.endOfOutput, .drain, .drain, .begin 0 (callJson 6 "query").text, .enqueue 0, .timeOut 0,
        .cleanUp 0]
    (∃ s, Runs.exec (step serde) new labels = some s ∧
      s.phaseOf 0 = some (.returned (.error (.invalidResponse "request timed out")))) ∧
      ¬NeverStrands serde labels := by
  intro serde labels
  have hrun : (Runs.exec (step serde) new labels).bind (fun s => s.phaseOf 0) =
      some (.returned (.error (.invalidResponse "request timed out"))) := by decide +kernel
  obtain ⟨s, hs, hreturned⟩ := Option.bind_eq_some_iff.mp hrun
  refine ⟨⟨s, hs, hreturned⟩, ?_⟩
  intro h
  have hreports := h.reported [.endOfOutput] _ { new with reader := .ended } s
    (List.prefix_refl labels) rfl hs 0 _ (by simp [new]) hreturned
  simp [ReportsExit] at hreports

end SentinelGateway.ChildPipe
