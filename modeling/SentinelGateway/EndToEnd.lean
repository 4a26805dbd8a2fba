import SentinelGateway.Framing
import SentinelGateway.Gateway.Monitor

/-!
# From bytes to the monitor

The layers put together. At the bottom three tasks, two channels and two byte streams, one
of which may break off anywhere; at the top a monitor that keeps a ledger and answers one
message after the other. What reaches stdout, byte for byte, is a beginning of what the
monitor answers, and all of it once the tasks have come to rest in good order. What is
missing if `main` returns before that are the last bytes.
-/

namespace SentinelGateway

/-- The step is one of the three tasks, and not one of a signal handler or of `main`. -/
def ByteLabel.isTask : ByteLabel → Bool
  | .put => true
  | .task label => label.isTask

namespace ByteTransport

open Transport

variable {gw : Gateway} {initial : DispatchState} {bytes : List UInt8} {s : ByteTransport}
  {labels : List ByteLabel}

/-- No task can move, and no byte is on its way to stdout. -/
def Quiet (gw : Gateway) (s : ByteTransport) : Prop :=
  ∀ label : ByteLabel, label.isTask = true → s.step gw label = none

/-- A writer that waits for its bytes can still move. -/
theorem Quiet.transport (h : s.Quiet gw) : s.transport.Quiet gw := by
  intro label htask
  have hlabel := h (.task label) htask
  match label with
  | .write true =>
    cases hstep : s.transport.step gw (.write true) with
    | none => rfl
    | some next =>
      exfalso
      cases hrest : s.unwritten with
      | nil => simp [step, hrest, hstep] at hlabel
      | cons byte rest =>
        have hrunning := (turn_of_step hstep).1
        cases Transport.step_cases hstep with
        | wrote text printer =>
          have hput := h .put rfl
          simp [step, hrunning, printer, hrest] at hput
  | .write false | .fetch | .read | .forward | .take _ | .hangUp | .noticeCancel | .respond =>
    exact Option.map_eq_none_iff.mp hlabel
  | .reload _ | .cancel | .exit => cases htask

/-- The bytes on stdout are the beginning of what the session answers. -/
theorem out_begins (h : Runs.exec (step gw) (start initial bytes) labels = some s) :
    s.out <+: stdioWriter (answers gw initial s.transport.events) := by
  have hflows := flows_of_exec (exec_transport h)
  obtain ⟨next, ⟨later, hlater⟩, hout⟩ := (framed_of_exec h).exists_next hflows.written_answers
  rw [← hlater, stdioWriter_append]
  exact hout.trans (List.prefix_append _ _)

/-- The bytes that have not reached stdout: those of the message in hand, and those of the
messages in the channel of the writer. -/
def missing (s : ByteTransport) : List UInt8 :=
  s.unwritten ++ stdioWriter s.transport.outbound.queue

/-- Once the dispatch loop has left, the bytes on stdout and the missing ones are all. -/
theorem out_missing_eq (h : Runs.exec (step gw) (start initial bytes) labels = some s)
    (hdispatcher : s.transport.dispatcher.active = false)
    (hprinter : s.transport.printer ≠ .failed) :
    s.out ++ s.missing = stdioWriter (answers gw initial s.transport.events) := by
  have hanswers := (flows_of_exec (exec_transport h)).answers_eq hdispatcher hprinter
  rw [missing, ← List.append_assoc, (framed_of_exec h).in_hand hprinter, hanswers,
    Transport.unwritten, ← stdioWriter_append, List.append_assoc]

/-- When all is at rest and `main` has not returned, every byte of every answer has reached
stdout. -/
theorem out_of_quiet (h : Runs.exec (step gw) (start initial bytes) labels = some s)
    (hquiet : s.Quiet gw) (hrunning : s.transport.exited = false)
    (hdispatcher : s.transport.dispatcher.active = false)
    (hprinter : s.transport.printer ≠ .failed) :
    s.out = stdioWriter (answers gw initial s.transport.events) := by
  have hflows := flows_of_exec (exec_transport h)
  have hunwritten := unwritten_of_quiet (exec_transport h) hquiet.transport hrunning
  refine (out_begins h).eq_of_length_le ?_
  rw [hflows.answers_eq hdispatcher hprinter, hunwritten, List.append_nil]
  exact (framed_of_exec h).complete.length_le

/-- After the end of `main` no byte reaches stdout. -/
theorem step_of_exited (h : s.transport.exited = true) (label : ByteLabel) :
    s.step gw label = none := by
  have hstep : ∀ label, s.transport.step gw label = none := Transport.step_of_exited h
  match label with
  | .put => simp [step, h]
  | .task (.write true) => simp [step, hstep]
  | .task (.write false) | .task .fetch | .task .read | .task .forward | .task (.take _)
  | .task .hangUp | .task .noticeCancel | .task .respond | .task (.reload _) | .task .cancel
  | .task .exit =>
    exact Option.map_eq_none_iff.mpr (hstep _)

/-- **From bytes to the monitor.** The gateway starts with unused limits and breakers, its
reloads bring unused limits, and its clock is read in order. Then however its tasks, the
signal handlers and single bytes on stdout take turns: it takes up the first messages of
the client's stream; what it does to the outside about them is what the monitor does; and
the bytes on stdout are a beginning of the monitor's answers. Once the dispatch loop has
left, it has taken up all messages of the stream, unless the process was told to stop; and
unless stdout broke, the bytes on stdout and the missing ones are the monitor's answers to
them. None is missing when nothing can move any more, but those that are missing when
`main` returns stay so. -/
theorem stdout_refines_monitor (gw : Gateway) (initial : DispatchState) (bytes : List UInt8)
    (labels : List ByteLabel) (s : ByteTransport)
    (h : Runs.exec (step gw) (start initial bytes) labels = some s)
    (hlimits : initial.hotConfig.rateLimiter.buckets = ∅)
    (hbreakers : ∀ backendName cb, initial.circuitBreakers.lookup backendName = some cb →
      cb = .new cb.failureThreshold cb.recoveryTimeout)
    (hfresh : ∀ event ∈ s.transport.events, Monitor.FreshReload event)
    (hsorted : (s.transport.events.flatMap Event.readings).Pairwise (· ≤ ·))
    (hlength : s.transport.events.length < 2 ^ 32) :
    let outputs := Runs.outputs (Monitor.ofGateway gw initial).step (.start initial)
      s.transport.events
    s.transport.events.filterMap eventText <+: messages (rawLines bytes) ∧
      Runs.outputs gw.step initial s.transport.events = outputs ∧
      s.out <+: stdioWriter (outputs.flatMap (responseLines gw)) ∧
      (s.transport.exited = false → s.Quiet gw → s.transport.dispatcher.active = false) ∧
      (s.transport.dispatcher.active = false →
        (s.transport.cancelled = false →
          s.transport.events.filterMap eventText = messages (rawLines bytes)) ∧
        (s.transport.printer ≠ .failed →
          s.out ++ s.missing = stdioWriter (outputs.flatMap (responseLines gw)) ∧
          (s.transport.exited = false → s.Quiet gw →
            s.out = stdioWriter (outputs.flatMap (responseLines gw))))) ∧
      (s.transport.exited = true →
        s.transport.dispatcher.active = false ∧ ∀ label, s.step gw label = none) := by
  intro outputs
  have houtputs : Runs.outputs gw.step initial s.transport.events = outputs :=
    (Monitor.agrees_ofGateway hlimits hbreakers).outputs (fun _ _ => Set.mem_univ _) hsorted
      hfresh fun backendName => Monitor.runsFit_of_length_lt _ _ hlength backendName
  have hanswers : answers gw initial s.transport.events = outputs.flatMap (responseLines gw) := by
    rw [answers, houtputs]
  have htransport := exec_transport h
  rw [← hanswers]
  have hflows := flows_of_exec htransport
  exact ⟨hflows.taken_prefix, houtputs, out_begins h,
    fun hrunning hquiet => (finished_of_quiet hflows hquiet.transport hrunning).2.1,
    fun hdispatcher => ⟨taken_of_left htransport hdispatcher, fun hprinter =>
      ⟨out_missing_eq h hdispatcher hprinter,
        fun hrunning hquiet => out_of_quiet h hquiet hrunning hdispatcher hprinter⟩⟩,
    fun hexited => ⟨left_of_exited htransport hexited, step_of_exited hexited⟩⟩

/-- When all three tasks have left their loops, nothing can move any more. -/
theorem quiet_of_finished (hreader : s.transport.reader.active = false)
    (hdispatcher : s.transport.dispatcher.active = false)
    (hprinter : s.transport.printer.active = false) : s.Quiet gw := by
  have hquiet : s.transport.Quiet gw := Transport.quiet_of_finished hreader hdispatcher hprinter
  intro label htask
  match label with
  | .put =>
    cases hcase : s.transport.printer with
    | writing text =>
      rw [hcase] at hprinter
      cases hprinter
    | receiving | finished | failed => simp [step, hcase]
  | .task (.write true) =>
    have hwrite := hquiet (.write true) htask
    simp [step, hwrite]
  | .task (.write false) | .task .fetch | .task .read | .task .forward | .task (.take _)
  | .task .hangUp | .task .noticeCancel | .task .respond =>
    exact Option.map_eq_none_iff.mpr (hquiet _ htask)
  | .task (.reload _) | .task .cancel => cases htask

/-- The client asks once and closes its end, and the dispatch loop leaves when twenty bytes
of the answer are on stdout. -/
def askedOnce : List ByteLabel :=
  [.task .read, .task .forward, .task (.take (.plain "")), .task .respond, .task .read,
    .task .fetch] ++ List.replicate 20 .put ++ [.task .hangUp]

/-- What the theorem needs to know of a run in which the client has asked once. -/
theorem facts_of_events {s : ByteTransport}
    (htexts : s.transport.events.map eventText = [some pingText]) :
    (∀ event ∈ s.transport.events, Monitor.FreshReload event) ∧
      s.transport.events.length < 2 ^ 32 := by
  refine ⟨?_, ?_⟩
  · intro event hevent
    have htext : eventText event ∈ [some pingText] := htexts ▸ List.mem_map_of_mem hevent
    cases event with
    | line => trivial
    | replaceHotConfig => simp [eventText] at htext
  · have hone := congrArg List.length htexts
    rw [List.length_map, List.length_singleton] at hone
    omega

/-- If the writer goes on, the client reads the monitor's answers from stdout. If `main`
returns at once, it reads twenty bytes of them and will not get the others. -/
theorem stdout_refines_monitor_asked_once :
    let initial := Gateway.start ⟨{}, .new {}⟩ .new ∅
    let run := fun labels => Runs.exec (step pingedGateway)
      (start initial (stdinWriter [pingText])) (askedOnce ++ labels)
    let monitor := fun s : ByteTransport => stdioWriter ((Runs.outputs
      (Monitor.ofGateway pingedGateway initial).step (.start initial) s.transport.events).flatMap
        (responseLines pingedGateway))
    (∃ s, run (List.replicate 17 .put ++ [.task (.write true), .task .fetch]) = some s ∧
      s.out = stdioWriter [pongText] ∧ s.out = monitor s) ∧
    ∃ s, run [.task .exit] = some s ∧ s.out.length = 20 ∧ s.missing.length = 17 ∧
      s.out ++ s.missing = monitor s ∧ ∀ label, s.step pingedGateway label = none := by
  intro initial run monitor
  have hrefines : ∀ labels s, run labels = some s →
      s.transport.events.map eventText = [some pingText] →
      s.transport.events.flatMap Event.readings = [0, 0] → _ :=
    fun labels s hs htexts hreadings => stdout_refines_monitor pingedGateway initial _ _ s hs rfl
      (fun _ _ hlookup => by cases hlookup) (facts_of_events htexts).1
      (by rw [hreadings]; decide +kernel) (facts_of_events htexts).2
  refine ⟨?_, ?_⟩
  · have hfacts : (run (List.replicate 17 .put ++ [.task (.write true), .task .fetch])).map
        (fun s => (s.out, s.transport.events.map eventText,
          s.transport.events.flatMap Event.readings,
          !s.transport.reader.active && !s.transport.dispatcher.active &&
            !s.transport.printer.active && !s.transport.exited &&
            s.transport.printer ≠ .failed)) =
        some (stdioWriter [pongText], [some pingText], [0, 0], true) := by
      decide +kernel
    obtain ⟨s, hs, heq⟩ := Option.map_eq_some_iff.mp hfacts
    obtain ⟨hout, heq⟩ := Prod.mk.inj heq
    obtain ⟨htexts, heq⟩ := Prod.mk.inj heq
    obtain ⟨hreadings, hends⟩ := Prod.mk.inj heq
    simp only [Bool.and_eq_true, Bool.not_eq_true', decide_eq_true_eq] at hends
    obtain ⟨⟨⟨⟨hreader, hdispatcher⟩, hprinter⟩, hrunning⟩, hunbroken⟩ := hends
    obtain ⟨-, -, -, -, hleft, -⟩ := hrefines _ s hs htexts hreadings
    exact ⟨s, hs, hout, ((hleft hdispatcher).2 hunbroken).2 hrunning
      (quiet_of_finished hreader hdispatcher hprinter)⟩
  · have hfacts : (run [.task .exit]).map (fun s => ((s.out.length, s.missing.length),
          s.transport.events.map eventText, s.transport.events.flatMap Event.readings,
          s.transport.exited && s.transport.printer ≠ .failed)) =
        some ((20, 17), [some pingText], [0, 0], true) := by
      decide +kernel
    obtain ⟨s, hs, heq⟩ := Option.map_eq_some_iff.mp hfacts
    obtain ⟨hlengths, heq⟩ := Prod.mk.inj heq
    obtain ⟨hout, hmissing⟩ := Prod.mk.inj hlengths
    obtain ⟨htexts, heq⟩ := Prod.mk.inj heq
    obtain ⟨hreadings, hends⟩ := Prod.mk.inj heq
    rw [Bool.and_eq_true, decide_eq_true_eq] at hends
    obtain ⟨hexited, hunbroken⟩ := hends
    obtain ⟨-, -, -, -, hleft, hend⟩ := hrefines _ s hs htexts hreadings
    obtain ⟨hdispatcher, hfinal⟩ := hend hexited
    exact ⟨s, hs, hout, hmissing, ((hleft hdispatcher).2 hunbroken).1, hfinal⟩

end ByteTransport

end SentinelGateway
