import SentinelGateway.Gateway.Outbound
import SentinelGateway.Library.Channel
import SentinelGateway.Streams

/-!
# From stdin to stdout

Three tasks stand between the client's bytes and the gateway's answers: the reader
of stdin, the dispatch loop and the writer to stdout, with a channel of 64 places
between each two of them. However they are interleaved, the client sees the answers
of the session that processes its lines one after the other, in order; the tasks
never wait for each other in a circle; and when none of them can move any more, every
line has been answered and every answer written, unless the process was told to stop
or stdout broke. But `main` waits for the dispatch loop only. When it returns before the
writer is through, the answers that the writer has fetched or still in its channel are
lost.
-/

namespace SentinelGateway

/-- Where `stdio_reader` is: about to read a line, waiting for room for a message, or
past its loop, because its input ended or because nobody listens. -/
inductive ReaderTask where
  | reading
  | sending (text : String)
  | finished
  | refused

/-- Where `run_dispatch` is: waiting for a line, handing over what it answers, or past
its loop, because its input ended or because it was cancelled. -/
inductive DispatchTask where
  | receiving
  | responding (text : String) (texts : List String)
  | finished
  | cancelled

/-- Where `stdio_writer` is: waiting for a message, writing one, or past its loop,
because its input ended or because a write failed. -/
inductive PrinterTask where
  | receiving
  | writing (text : String)
  | finished
  | failed
deriving DecidableEq

/-- The task is in its loop, and holds its end of the channel. -/
def ReaderTask.active : ReaderTask → Bool
  | .reading | .sending _ => true
  | .finished | .refused => false

def DispatchTask.active : DispatchTask → Bool
  | .receiving | .responding _ _ => true
  | .finished | .cancelled => false

def PrinterTask.active : PrinterTask → Bool
  | .receiving | .writing _ => true
  | .finished | .failed => false

/-- The task is about to take up its next line. -/
def DispatchTask.ofTexts : List String → DispatchTask
  | [] => .receiving
  | text :: texts => .responding text texts

/-- The lines the dispatch loop has still to hand over. -/
def DispatchTask.texts : DispatchTask → List String
  | .responding text texts => text :: texts
  | .receiving | .finished | .cancelled => []

/-- The line that is being written. -/
def PrinterTask.inHand : PrinterTask → List String
  | .writing text => [text]
  | .receiving | .finished | .failed => []

/-- The three tasks and the channels between them. `events` is what the dispatch loop
has processed, `written` the lines that are on stdout. `exited` says that `main` has
returned. -/
structure Transport where
  rest : List (List UInt8)
  reader : ReaderTask
  inbound : Channel String
  state : DispatchState
  dispatcher : DispatchTask
  outbound : Channel String
  printer : PrinterTask
  events : List Event
  written : List String
  cancelled : Bool
  exited : Bool

/-- The steps of the three tasks and of the signal handlers, and the end of `main`. -/
inductive TransportLabel where
  | read
  | forward
  | take (env : InboundLine)
  | hangUp
  | noticeCancel
  | respond
  | fetch
  | write (succeeds : Bool)
  | reload (hotConfig : HotConfig)
  | cancel
  | exit

/-- The step is one of the three tasks, and not one of a signal handler or of `main`. -/
def TransportLabel.isTask : TransportLabel → Bool
  | .reload _ => false
  | .cancel => false
  | .exit => false
  | _ => true

namespace Transport

variable {gw : Gateway} {initial : DispatchState} {bytes : List UInt8} {s t : Transport}

/-- The state before the first byte is read. -/
def start (initial : DispatchState) (bytes : List UInt8) : Transport :=
  { rest := rawLines bytes, reader := .reading, inbound := .new 64 1, state := initial,
    dispatcher := .receiving, outbound := .new 64 1, printer := .receiving, events := [],
    written := [], cancelled := false, exited := false }

/-- The lines `send_response` makes of what an event causes. -/
def responseLines (gw : Gateway) (effects : List Effect) : List String :=
  (responses effects).map gw.sendResponse

/-- One step of a process that runs. -/
def turn (gw : Gateway) (s : Transport) : TransportLabel → Option Transport
  | .read =>
    match s.reader with
    | .reading =>
      match stdioReader (readLine s.rest).1 with
      | none => some { s with
          reader := .finished, rest := (readLine s.rest).2, inbound := s.inbound.dropSender }
      | some none => some { s with rest := (readLine s.rest).2 }
      | some (some text) => some { s with reader := .sending text, rest := (readLine s.rest).2 }
    | _ => none
  | .forward =>
    match s.reader with
    | .sending text => (s.inbound.send text).map fun result =>
        if result.2 then { s with reader := .reading, inbound := result.1 }
        else { s with reader := .refused, inbound := result.1.dropSender }
    | _ => none
  | .take env =>
    match s.dispatcher, s.inbound.recv with
    | .receiving, some (inbound, some text) =>
      let event := Event.line { env with text }
      some { s with
        inbound
        state := (gw.step s.state event).1
        dispatcher := .ofTexts (responseLines gw (gw.step s.state event).2)
        events := s.events ++ [event] }
    | _, _ => none
  | .hangUp =>
    match s.dispatcher, s.inbound.recv with
    | .receiving, some (_, none) => some { s with
        dispatcher := .finished, inbound := s.inbound.dropReceiver
        outbound := s.outbound.dropSender }
    | _, _ => none
  | .noticeCancel =>
    match s.dispatcher, s.cancelled with
    | .receiving, true => some { s with
        dispatcher := .cancelled, inbound := s.inbound.dropReceiver
        outbound := s.outbound.dropSender }
    | _, _ => none
  -- a response that nobody is going to write is dropped with a warning
  | .respond =>
    match s.dispatcher with
    | .responding text texts => (s.outbound.send text).map fun result =>
        { s with dispatcher := .ofTexts texts, outbound := result.1 }
    | _ => none
  | .fetch =>
    match s.printer with
    | .receiving => s.outbound.recv.map fun result =>
        match result.2 with
        | some text => { s with printer := .writing text, outbound := result.1 }
        | none => { s with printer := .finished, outbound := result.1.dropReceiver }
    | _ => none
  | .write succeeds =>
    match s.printer with
    | .writing text =>
      if succeeds then some { s with printer := .receiving, written := s.written ++ [text] }
      else some { s with printer := .failed, outbound := s.outbound.dropReceiver }
    | _ => none
  | .reload hotConfig =>
    some { s with
      state := (gw.step s.state (.replaceHotConfig hotConfig)).1
      events := s.events ++ [.replaceHotConfig hotConfig] }
  | .cancel => some { s with cancelled := true }
  -- `main` returns some time after `run_dispatch`; it does not wait for `stdio_writer`
  | .exit => if s.dispatcher.active then none else some { s with exited := true }

/-- One step. When `main` returns, the runtime drops all tasks with what they hold. A write
that ends while it does so counts as one before. -/
def step (gw : Gateway) (s : Transport) (label : TransportLabel) : Option Transport :=
  if s.exited then none else s.turn gw label

/-- A step is one of a process that runs. -/
theorem turn_of_step {label : TransportLabel} (h : s.step gw label = some t) :
    s.exited = false ∧ s.turn gw label = some t := by
  rw [step] at h
  split_ifs at h with hexited
  exact ⟨by simpa using hexited, h⟩

/-- After the end of `main` nothing moves. -/
theorem step_of_exited (h : s.exited = true) (label : TransportLabel) :
    s.step gw label = none := by
  rw [step, if_pos h]

/-- Everything a step can do, with the state in which it can be done. -/
inductive StepCase (gw : Gateway) (s : Transport) : TransportLabel → Transport → Prop
  | readEnd (reader : s.reader = .reading) (line : stdioReader (readLine s.rest).1 = none) :
      StepCase gw s .read { s with
        reader := .finished, rest := (readLine s.rest).2, inbound := s.inbound.dropSender }
  | readBlank (reader : s.reader = .reading)
      (line : stdioReader (readLine s.rest).1 = some none) :
      StepCase gw s .read { s with rest := (readLine s.rest).2 }
  | readMessage (text : String) (reader : s.reader = .reading)
      (line : stdioReader (readLine s.rest).1 = some (some text)) :
      StepCase gw s .read { s with reader := .sending text, rest := (readLine s.rest).2 }
  | forwarded (text : String) (reader : s.reader = .sending text) (ready : s.inbound.Ready) :
      StepCase gw s .forward { s with reader := .reading, inbound := s.inbound.push text ready }
  | refused (text : String) (reader : s.reader = .sending text)
      (closed : s.inbound.receiverOpen = false) :
      StepCase gw s .forward { s with reader := .refused, inbound := s.inbound.dropSender }
  | taken (env : InboundLine) (text : String) (dispatcher : s.dispatcher = .receiving)
      (queue : s.inbound.queue = text :: s.inbound.pop.queue) :
      StepCase gw s (.take env) { s with
        inbound := s.inbound.pop
        state := (gw.step s.state (.line { env with text })).1
        dispatcher := .ofTexts (responseLines gw (gw.step s.state (.line { env with text })).2)
        events := s.events ++ [.line { env with text }] }
  | hungUp (dispatcher : s.dispatcher = .receiving) (queue : s.inbound.queue = [])
      (senders : s.inbound.senders = 0) :
      StepCase gw s .hangUp { s with
        dispatcher := .finished, inbound := s.inbound.dropReceiver
        outbound := s.outbound.dropSender }
  | noticed (dispatcher : s.dispatcher = .receiving) (token : s.cancelled = true) :
      StepCase gw s .noticeCancel { s with
        dispatcher := .cancelled, inbound := s.inbound.dropReceiver
        outbound := s.outbound.dropSender }
  | responded (text : String) (texts : List String)
      (dispatcher : s.dispatcher = .responding text texts) (ready : s.outbound.Ready) :
      StepCase gw s .respond { s with
        dispatcher := .ofTexts texts, outbound := s.outbound.push text ready }
  | dropped (text : String) (texts : List String)
      (dispatcher : s.dispatcher = .responding text texts)
      (closed : s.outbound.receiverOpen = false) :
      StepCase gw s .respond { s with dispatcher := .ofTexts texts }
  | fetched (text : String) (printer : s.printer = .receiving)
      (queue : s.outbound.queue = text :: s.outbound.pop.queue) :
      StepCase gw s .fetch { s with printer := .writing text, outbound := s.outbound.pop }
  | printerEnd (printer : s.printer = .receiving) (queue : s.outbound.queue = [])
      (senders : s.outbound.senders = 0) :
      StepCase gw s .fetch { s with printer := .finished, outbound := s.outbound.dropReceiver }
  | wrote (text : String) (printer : s.printer = .writing text) :
      StepCase gw s (.write true) { s with printer := .receiving, written := s.written ++ [text] }
  | failed (text : String) (printer : s.printer = .writing text) :
      StepCase gw s (.write false) { s with
        printer := .failed, outbound := s.outbound.dropReceiver }
  | reloaded (hotConfig : HotConfig) :
      StepCase gw s (.reload hotConfig) { s with
        state := (gw.step s.state (.replaceHotConfig hotConfig)).1
        events := s.events ++ [.replaceHotConfig hotConfig] }
  | stopped : StepCase gw s .cancel { s with cancelled := true }
  | exited (dispatcher : s.dispatcher.active = false) :
      StepCase gw s .exit { s with exited := true }

/-- **Inversion.** Every step is one of the listed ones. -/
theorem step_cases {label : TransportLabel} (h : s.step gw label = some t) :
    StepCase gw s label t := by
  obtain ⟨-, h⟩ := turn_of_step h
  cases label with
  | read =>
    simp only [turn] at h
    cases hreader : s.reader with
    | reading =>
      simp only [hreader] at h
      cases hline : stdioReader (readLine s.rest).1 with
      | none =>
        obtain rfl : _ = t := by simpa [hline] using h
        exact .readEnd hreader hline
      | some message =>
        cases message with
        | none =>
          obtain rfl : _ = t := by simpa [hline] using h
          rw [← hreader]
          exact .readBlank hreader hline
        | some text =>
          obtain rfl : _ = t := by simpa [hline] using h
          exact .readMessage text hreader hline
    | sending | finished | refused => simp [hreader] at h
  | forward =>
    cases hreader : s.reader with
    | sending text =>
      simp only [turn, hreader] at h
      obtain ⟨⟨inbound, sent⟩, hsend, rfl⟩ := Option.map_eq_some_iff.mp h
      rcases Channel.send_cases hsend with ⟨hready, rfl, rfl⟩ | ⟨hclosed, rfl, rfl⟩
      · exact .forwarded text hreader hready
      · exact .refused text hreader hclosed
    | reading | finished | refused => simp [turn, hreader] at h
  | take env =>
    cases hdispatcher : s.dispatcher with
    | receiving =>
      simp only [turn, hdispatcher] at h
      split at h
      · rename_i inbound text _ hrecv
        obtain rfl := Option.some.inj h
        rcases Channel.recv_cases hrecv with ⟨message, hmessage, hqueue, rfl⟩ | ⟨hnone, -⟩
        · obtain rfl : text = message := by simpa using hmessage
          exact .taken env text hdispatcher hqueue
        · cases hnone
      · cases h
    | responding | finished | cancelled => simp [turn, hdispatcher] at h
  | hangUp =>
    cases hdispatcher : s.dispatcher with
    | receiving =>
      simp only [turn, hdispatcher] at h
      split at h
      · rename_i inbound _ hrecv
        obtain rfl := Option.some.inj h
        rcases Channel.recv_cases hrecv with ⟨message, hmessage, -⟩ | ⟨-, hqueue, hsenders, -⟩
        · cases hmessage
        · exact .hungUp hdispatcher hqueue hsenders
      · cases h
    | responding | finished | cancelled => simp [turn, hdispatcher] at h
  | noticeCancel =>
    cases hdispatcher : s.dispatcher with
    | receiving =>
      cases htoken : s.cancelled with
      | true =>
        obtain rfl : _ = t := by simpa [turn, hdispatcher, htoken] using h
        rw [← htoken]
        exact .noticed hdispatcher htoken
      | false => simp [turn, hdispatcher, htoken] at h
    | responding | finished | cancelled => simp [turn, hdispatcher] at h
  | respond =>
    cases hdispatcher : s.dispatcher with
    | responding text texts =>
      simp only [turn, hdispatcher] at h
      obtain ⟨⟨outbound, sent⟩, hsend, rfl⟩ := Option.map_eq_some_iff.mp h
      rcases Channel.send_cases hsend with ⟨hready, rfl, -⟩ | ⟨hclosed, rfl, -⟩
      · exact .responded text texts hdispatcher hready
      · exact .dropped text texts hdispatcher hclosed
    | receiving | finished | cancelled => simp [turn, hdispatcher] at h
  | fetch =>
    cases hprinter : s.printer with
    | receiving =>
      simp only [turn, hprinter] at h
      obtain ⟨⟨outbound, message⟩, hrecv, rfl⟩ := Option.map_eq_some_iff.mp h
      rcases Channel.recv_cases hrecv with ⟨text, rfl, hqueue, rfl⟩ | ⟨rfl, hqueue, hsenders, rfl⟩
      · exact .fetched text hprinter hqueue
      · exact .printerEnd hprinter hqueue hsenders
    | writing | finished | failed => simp [turn, hprinter] at h
  | write succeeds =>
    cases hprinter : s.printer with
    | writing text =>
      cases succeeds with
      | true =>
        obtain rfl : _ = t := by simpa [turn, hprinter] using h
        exact .wrote text hprinter
      | false =>
        obtain rfl : _ = t := by simpa [turn, hprinter] using h
        exact .failed text hprinter
    | receiving | finished | failed => simp [turn, hprinter] at h
  | reload hotConfig =>
    obtain rfl := Option.some.inj h
    exact .reloaded hotConfig
  | cancel =>
    obtain rfl := Option.some.inj h
    exact .stopped
  | exit =>
    simp only [turn] at h
    split_ifs at h with hactive
    obtain rfl := Option.some.inj h
    exact .exited (by simpa using hactive)

/-- The messages in a stream: its lines up to the first that cannot be read, without
the blank ones. -/
def messages : List (List UInt8) → List String
  | [] => []
  | raw :: rest =>
    match stdioReader (readLine (raw :: rest)).1 with
    | none => []
    | some none => messages rest
    | some (some text) => text :: messages rest

theorem messages_of_readEnd {rest : List (List UInt8)}
    (h : stdioReader (readLine rest).1 = none) : messages rest = [] := by
  cases rest with
  | nil => rfl
  | cons raw rest => simp only [messages, h]

theorem messages_of_readBlank {rest : List (List UInt8)}
    (h : stdioReader (readLine rest).1 = some none) :
    messages rest = messages (readLine rest).2 := by
  cases rest with
  | nil => cases h
  | cons raw rest => simp only [messages, h, readLine_snd, List.tail_cons]

theorem messages_of_readMessage {rest : List (List UInt8)} {text : String}
    (h : stdioReader (readLine rest).1 = some (some text)) :
    messages rest = text :: messages (readLine rest).2 := by
  cases rest with
  | nil => cases h
  | cons raw rest => simp only [messages, h, readLine_snd, List.tail_cons]

/-- The messages the reader is going to send, if it is not stopped. -/
def unsent (s : Transport) : List String :=
  match s.reader with
  | .reading => messages s.rest
  | .sending text => text :: messages s.rest
  | .finished | .refused => []

/-- The text of an event that is a line. -/
def eventText : Event → Option String
  | .line line => some line.text
  | .replaceHotConfig _ => none

/-- What a session answers, line by line. -/
def answers (gw : Gateway) (initial : DispatchState) (events : List Event) : List String :=
  (Runs.outputs gw.step initial events).flatMap (responseLines gw)

theorem answers_concat (gw : Gateway) (initial : DispatchState) (events : List Event)
    (event : Event) :
    answers gw initial (events ++ [event]) = answers gw initial events ++
      responseLines gw (gw.step (Runs.after gw.step initial events) event).2 := by
  rw [answers, Runs.outputs_concat, List.flatMap_append, List.flatMap_singleton, answers]

end Transport

@[simp] theorem DispatchTask.texts_ofTexts (texts : List String) :
    (DispatchTask.ofTexts texts).texts = texts := by
  cases texts <;> rfl

@[simp] theorem DispatchTask.active_ofTexts (texts : List String) :
    (DispatchTask.ofTexts texts).active = true := by
  cases texts <;> rfl

theorem DispatchTask.ofTexts_ne (texts : List String) :
    DispatchTask.ofTexts texts ≠ .cancelled ∧ DispatchTask.ofTexts texts ≠ .finished := by
  cases texts <;> simp [ofTexts]

namespace Transport

variable {gw : Gateway} {initial : DispatchState} {bytes : List UInt8} {s t : Transport}

/-- What flows through the tasks. The messages of the stream are, in this order, those
the dispatch loop has taken, those in the channel and those still to be sent. The
answers to what it has taken are those written, the one being written, those in the
channel and those still to be handed over. -/
structure Flows (gw : Gateway) (initial : DispatchState) (bytes : List UInt8) (s : Transport) :
    Prop where
  state_eq : s.state = Runs.after gw.step initial s.events
  taken : s.dispatcher ≠ .cancelled →
    s.events.filterMap eventText ++ s.inbound.queue ++ s.unsent = messages (rawLines bytes)
  taken_prefix : s.events.filterMap eventText <+: messages (rawLines bytes)
  handed : s.printer ≠ .failed →
    s.written ++ s.printer.inHand ++ s.outbound.queue ++ s.dispatcher.texts =
      answers gw initial s.events
  written_answers : s.written ++ s.printer.inHand <+: answers gw initial s.events
  inbound_senders : s.inbound.senders = s.reader.active.toNat
  outbound_senders : s.outbound.senders = s.dispatcher.active.toNat
  inbound_open : s.inbound.receiverOpen = s.dispatcher.active
  outbound_open : s.outbound.receiverOpen = s.printer.active
  capacity : s.inbound.capacity = 64 ∧ s.outbound.capacity = 64
  dispatcher_end : s.dispatcher = .finished → s.reader.active = false
  printer_end : s.printer = .finished → s.dispatcher.active = false
  token : s.dispatcher = .cancelled → s.cancelled = true

theorem flows_start (gw : Gateway) (initial : DispatchState) (bytes : List UInt8) :
    Flows gw initial bytes (start initial bytes) where
  state_eq := rfl
  taken _ := rfl
  taken_prefix := List.nil_prefix
  handed _ := rfl
  written_answers := List.nil_prefix
  inbound_senders := rfl
  outbound_senders := rfl
  inbound_open := rfl
  outbound_open := rfl
  capacity := ⟨rfl, rfl⟩
  dispatcher_end := by simp [start]
  printer_end := by simp [start]
  token := by simp [start]

/-- The reader reads a line. What it is going to send stays the same. -/
theorem Flows.read (h : Flows gw initial bytes s) (hreader : s.reader = .reading)
    {reader : ReaderTask} {inbound : Channel String}
    (hsame : ({ s with reader, rest := (readLine s.rest).2, inbound } : Transport).unsent =
      messages s.rest)
    (hqueue : inbound.queue = s.inbound.queue) (hsenders : inbound.senders = reader.active.toNat)
    (hopen : inbound.receiverOpen = s.inbound.receiverOpen)
    (hcapacity : inbound.capacity = s.inbound.capacity) :
    Flows gw initial bytes { s with reader, rest := (readLine s.rest).2, inbound } :=
  { h with
    taken := by
      intro hdispatcher
      have htaken := h.taken hdispatcher
      rw [unsent, hreader] at htaken
      rw [hsame, hqueue]
      exact htaken
    inbound_senders := hsenders
    inbound_open := hopen.trans h.inbound_open
    capacity := ⟨hcapacity.trans h.capacity.1, h.capacity.2⟩
    dispatcher_end := by
      intro hfinished
      have hactive := h.dispatcher_end hfinished
      rw [hreader] at hactive
      cases hactive }

/-- The dispatch loop leaves, and with it one end of each channel. -/
theorem Flows.leave (h : Flows gw initial bytes s) (hdispatcher : s.dispatcher = .receiving)
    {dispatcher : DispatchTask} (hinactive : dispatcher.active = false)
    (hend : dispatcher = .finished → s.inbound.queue = [] ∧ s.reader.active = false)
    (htoken : dispatcher = .cancelled → s.cancelled = true) :
    Flows gw initial bytes { s with
      dispatcher, inbound := s.inbound.dropReceiver, outbound := s.outbound.dropSender } :=
  { h with
    taken := by
      intro hcancelled
      have hfinished : dispatcher = .finished := by
        cases dispatcher with
        | finished => rfl
        | cancelled => exact absurd rfl hcancelled
        | receiving | responding => cases hinactive
      have htaken := h.taken (by simp [hdispatcher])
      rw [(hend hfinished).1] at htaken
      exact htaken
    handed := by
      intro hprinter
      have hhanded := h.handed hprinter
      rw [hdispatcher] at hhanded
      have htexts : dispatcher.texts = [] := by
        cases dispatcher with
        | receiving | responding => cases hinactive
        | finished | cancelled => rfl
      rw [htexts]
      exact hhanded
    outbound_senders := by
      have hsenders := h.outbound_senders
      rw [hdispatcher] at hsenders
      rw [hinactive, Channel.dropSender, hsenders]
      rfl
    inbound_open := hinactive.symm
    outbound_open := h.outbound_open
    capacity := h.capacity
    dispatcher_end := fun hfinished => (hend hfinished).2
    printer_end := fun _ => hinactive
    token := htoken }

/-- The dispatch loop processes an event: the answers to it are handed over next. -/
theorem Flows.process (h : Flows gw initial bytes s) (event : Event) {inbound : Channel String}
    {dispatcher : DispatchTask}
    (hactive : dispatcher.active = s.dispatcher.active)
    (htexts : dispatcher.texts =
      s.dispatcher.texts ++ responseLines gw (gw.step s.state event).2)
    (hphase : (dispatcher = .cancelled ↔ s.dispatcher = .cancelled) ∧
      (dispatcher = .finished ↔ s.dispatcher = .finished))
    (hqueue : (eventText event).toList ++ inbound.queue = s.inbound.queue)
    (hsenders : inbound.senders = s.inbound.senders)
    (hopen : inbound.receiverOpen = s.inbound.receiverOpen)
    (hcapacity : inbound.capacity = s.inbound.capacity)
    (hline : eventText event ≠ none → s.dispatcher ≠ .cancelled) :
    Flows gw initial bytes { s with
      inbound, dispatcher, state := (gw.step s.state event).1, events := s.events ++ [event] } := by
  have hevents : (s.events ++ [event]).filterMap eventText =
      s.events.filterMap eventText ++ (eventText event).toList := by
    rw [List.filterMap_append]
    cases hevent : eventText event <;> simp [hevent]
  have hanswers := answers_concat gw initial s.events event
  rw [← h.state_eq] at hanswers
  refine
    { h with
      state_eq := by rw [Runs.after_concat, ← h.state_eq]
      taken := ?_
      taken_prefix := ?_
      handed := ?_
      written_answers := ?_
      inbound_senders := hsenders.trans h.inbound_senders
      outbound_senders := by rw [hactive]; exact h.outbound_senders
      inbound_open := by rw [hopen, hactive]; exact h.inbound_open
      capacity := ⟨hcapacity.trans h.capacity.1, h.capacity.2⟩
      dispatcher_end := fun hfinished => h.dispatcher_end (hphase.2.mp hfinished)
      printer_end := fun hfinished => hactive.trans (h.printer_end hfinished)
      token := fun hcancelled => h.token (hphase.1.mp hcancelled) }
  · intro hcancelled
    have hrunning : s.dispatcher ≠ .cancelled := mt hphase.1.mpr hcancelled
    have htaken := h.taken hrunning
    rw [hevents, List.append_assoc _ (eventText event).toList, hqueue]
    exact htaken
  · rw [hevents]
    cases hevent : eventText event with
    | none => simpa using h.taken_prefix
    | some text =>
      have htaken := h.taken (hline (by simp [hevent]))
      rw [hevent] at hqueue
      rw [← htaken, ← hqueue, List.append_assoc, List.append_assoc]
      exact (List.prefix_append_right_inj _).mpr (List.prefix_append _ _)
  · intro hprinter
    rw [htexts, hanswers, ← h.handed hprinter, List.append_assoc _ s.dispatcher.texts]
  · rw [hanswers]
    exact h.written_answers.trans (List.prefix_append _ _)

/-- A task between two channels moves the answers on: what is written, in hand, in the
channel and to be handed over stays the same list. -/
theorem Flows.move (h : Flows gw initial bytes s) {dispatcher : DispatchTask}
    {outbound : Channel String} {printer : PrinterTask} {written : List String}
    (hsame : printer ≠ .failed → s.printer ≠ .failed ∧
      written ++ printer.inHand ++ outbound.queue ++ dispatcher.texts =
        s.written ++ s.printer.inHand ++ s.outbound.queue ++ s.dispatcher.texts)
    (hwritten : written ++ printer.inHand <+: answers gw initial s.events)
    (hactive : dispatcher.active = s.dispatcher.active)
    (hphase : (dispatcher = .cancelled ↔ s.dispatcher = .cancelled) ∧
      (dispatcher = .finished ↔ s.dispatcher = .finished))
    (hsenders : outbound.senders = s.outbound.senders)
    (hopen : outbound.receiverOpen = printer.active)
    (hcapacity : outbound.capacity = s.outbound.capacity)
    (hend : printer = .finished → s.dispatcher.active = false) :
    Flows gw initial bytes { s with dispatcher, outbound, printer, written } :=
  { h with
    taken := fun hrunning => h.taken (mt hphase.1.mpr hrunning)
    handed := by
      intro hprinter
      obtain ⟨hbefore, heq⟩ := hsame hprinter
      rw [heq]
      exact h.handed hbefore
    written_answers := hwritten
    outbound_senders := by
      rw [hsenders, hactive]
      exact h.outbound_senders
    inbound_open := by
      rw [hactive]
      exact h.inbound_open
    outbound_open := hopen
    capacity := ⟨h.capacity.1, hcapacity.trans h.capacity.2⟩
    dispatcher_end := fun hfinished => h.dispatcher_end (hphase.2.mp hfinished)
    printer_end := fun hfinished => hactive.trans (hend hfinished)
    token := fun hcancelled => h.token (hphase.1.mp hcancelled) }

/-- Every step keeps the flow. -/
theorem Flows.step (h : Flows gw initial bytes s) {label : TransportLabel}
    (hcase : StepCase gw s label t) : Flows gw initial bytes t := by
  cases hcase with
  | readEnd reader line =>
    have hsenders := h.inbound_senders
    rw [reader] at hsenders
    refine h.read reader ?_ rfl ?_ rfl rfl
    · rw [messages_of_readEnd line]
      rfl
    · rw [Channel.dropSender, hsenders]
      rfl
  | readBlank reader line =>
    refine h.read reader ?_ rfl h.inbound_senders rfl rfl
    rw [messages_of_readBlank line, unsent]
    simp only [reader]
  | readMessage text reader line =>
    have hsenders := h.inbound_senders
    rw [reader] at hsenders
    refine h.read reader ?_ rfl hsenders rfl rfl
    rw [messages_of_readMessage line]
    rfl
  | forwarded text reader ready =>
    have hsenders := h.inbound_senders
    have hend := h.dispatcher_end
    rw [reader] at hsenders hend
    refine { h with taken := ?_, inbound_senders := hsenders, dispatcher_end := hend }
    intro hdispatcher
    have htaken := h.taken hdispatcher
    rw [unsent, reader] at htaken
    simpa [unsent] using htaken
  | refused text reader closed =>
    have hinactive : s.dispatcher.active = false := h.inbound_open.symm.trans closed
    have hcancelled : s.dispatcher = .cancelled := by
      cases hdispatcher : s.dispatcher with
      | cancelled => rfl
      | finished =>
        have hactive := h.dispatcher_end hdispatcher
        rw [reader] at hactive
        cases hactive
      | receiving | responding =>
        rw [hdispatcher] at hinactive
        cases hinactive
    have hsenders := h.inbound_senders
    rw [reader] at hsenders
    exact
      { h with
        taken := fun hrunning => absurd hcancelled hrunning
        inbound_senders := by
          rw [Channel.dropSender, hsenders]
          rfl
        inbound_open := h.inbound_open
        capacity := h.capacity
        dispatcher_end := by simp [hcancelled] }
  | taken env text dispatcher queue =>
    have hofTexts := DispatchTask.ofTexts_ne
      (responseLines gw (gw.step s.state (.line { env with text })).2)
    refine h.process (.line { env with text }) ?_ ?_ ?_ queue.symm rfl rfl rfl
      (by simp [dispatcher])
    · rw [DispatchTask.active_ofTexts, dispatcher]
      rfl
    · rw [DispatchTask.texts_ofTexts, dispatcher]
      rfl
    · simp [hofTexts, dispatcher]
  | hungUp dispatcher queue senders =>
    refine h.leave dispatcher rfl (fun _ => ⟨queue, ?_⟩) (by simp)
    have hsenders := h.inbound_senders
    rw [senders] at hsenders
    cases hactive : s.reader.active with
    | false => rfl
    | true => simp [hactive] at hsenders
  | noticed dispatcher token => exact h.leave dispatcher rfl (by simp) fun _ => token
  | responded text texts dispatcher ready =>
    have hofTexts := DispatchTask.ofTexts_ne texts
    refine h.move ?_ h.written_answers ?_ (by simp [hofTexts, dispatcher]) rfl h.outbound_open rfl
      h.printer_end
    · refine fun hprinter => ⟨hprinter, ?_⟩
      rw [dispatcher, DispatchTask.texts_ofTexts, Channel.queue_push]
      simp [DispatchTask.texts]
    · rw [DispatchTask.active_ofTexts, dispatcher]
      rfl
  | dropped text texts dispatcher closed =>
    have hofTexts := DispatchTask.ofTexts_ne texts
    -- a receiver that is gone although answers are left has failed to write
    have hfailed : s.printer = .failed := by
      have hinactive : s.printer.active = false := h.outbound_open.symm.trans closed
      cases hprinter : s.printer with
      | failed => rfl
      | finished =>
        have hactive := h.printer_end hprinter
        rw [dispatcher] at hactive
        cases hactive
      | receiving | writing =>
        rw [hprinter] at hinactive
        cases hinactive
    refine h.move (fun hprinter => absurd hfailed hprinter) h.written_answers ?_
      (by simp [hofTexts, dispatcher]) rfl h.outbound_open rfl h.printer_end
    rw [DispatchTask.active_ofTexts, dispatcher]
    rfl
  | fetched text printer queue =>
    have hhanded := h.handed (by simp [printer])
    have hopen := h.outbound_open
    rw [printer] at hhanded hopen
    refine h.move ?_ ?_ rfl (by simp) rfl hopen rfl (by simp)
    · intro _
      refine ⟨by simp [printer], ?_⟩
      rw [printer, queue]
      simp [PrinterTask.inHand]
    · rw [queue] at hhanded
      rw [← hhanded]
      refine ⟨s.outbound.pop.queue ++ s.dispatcher.texts, ?_⟩
      simp [PrinterTask.inHand]
  | printerEnd printer queue senders =>
    have hinactive : s.dispatcher.active = false := by
      have hsenders := h.outbound_senders
      rw [senders] at hsenders
      cases hactive : s.dispatcher.active with
      | false => rfl
      | true => simp [hactive] at hsenders
    have hwritten := h.written_answers
    rw [printer] at hwritten
    refine h.move ?_ hwritten rfl (by simp) rfl rfl rfl fun _ => hinactive
    intro _
    refine ⟨by simp [printer], ?_⟩
    rw [printer, queue]
    rfl
  | wrote text printer =>
    have hwritten := h.written_answers
    have hopen := h.outbound_open
    rw [printer] at hwritten hopen
    refine h.move ?_ (by simpa [PrinterTask.inHand] using hwritten) rfl (by simp) rfl hopen rfl
      (by simp)
    intro _
    refine ⟨by simp [printer], ?_⟩
    rw [printer]
    simp [PrinterTask.inHand]
  | failed text printer =>
    have hwritten := (List.prefix_append _ _).trans h.written_answers
    refine h.move (fun hprinter => absurd rfl hprinter) ?_ rfl (by simp) rfl rfl rfl (by simp)
    simpa [PrinterTask.inHand] using hwritten
  | reloaded hotConfig =>
    exact h.process (.replaceHotConfig hotConfig) rfl (List.append_nil _).symm (by simp) rfl rfl rfl
      rfl (by simp [eventText])
  | stopped => exact { h with token := fun _ => rfl }
  | exited dispatcher => exact { h with }

theorem flows_of_exec {labels : List TransportLabel}
    (h : Runs.exec (step gw) (start initial bytes) labels = some s) : Flows gw initial bytes s :=
  Runs.exec_induction (step gw) (motive := fun _ s => Flows gw initial bytes s)
    (flows_start gw initial bytes) (fun _ _ _ _ _ hflows hstep => hflows.step (step_cases hstep)) h

end Transport

/-- An event is answered at most once. -/
theorem Gateway.length_responses_step_le (gw : Gateway) (st : DispatchState) (event : Event) :
    (responses (gw.step st event).2).length ≤ 1 := by
  have hcase := step_cases gw st event
  generalize gw.step st event = result at hcase ⊢
  cases hcase with
  | replaced | initializedLine | callNotification => exact Nat.zero_le _
  | unparsed | initializeLine => exact le_rfl
  | refused line request | answered line request =>
    rw [responses_answer, List.length_map]
    cases request.id <;> simp
  | unnamedCall line request id effects accepts method id_eq unnamed response silent =>
    rw [response]
    exact le_rfl
  | call line id name params isCall callCase =>
    cases callCase with
    | refused | circuitOpen =>
      rw [responses_reject]
      exact le_rfl
    | unserved code message effects policy circuit missing answer silent =>
      rw [answer]
      exact le_rfl
    | sent backendName backend response effects policy circuit route served id_eq answer send =>
      rw [answer]
      exact le_rfl

/-- What a message in the hand of the reader has still to go through, and the reader. -/
def ReaderTask.work : ReaderTask → ℕ
  | .reading => 1
  | .sending _ => 8
  | .finished | .refused => 0

def PrinterTask.work : PrinterTask → ℕ
  | .receiving => 1
  | .writing _ => 3
  | .finished | .failed => 0

namespace Transport

variable {gw : Gateway} {initial : DispatchState} {bytes : List UInt8} {s t : Transport}

/-- A bound on the steps the tasks have still to make: what is further from stdout
counts for more. -/
def work (s : Transport) : ℕ :=
  8 * s.rest.length + s.reader.work + 6 * s.inbound.queue.length + s.dispatcher.active.toNat +
    4 * s.dispatcher.texts.length + 3 * s.outbound.queue.length + s.printer.work

theorem length_of_readLine {rest : List (List UInt8)} {message : Option String}
    (h : stdioReader (readLine rest).1 = some message) :
    (readLine rest).2.length + 1 = rest.length := by
  cases rest with
  | nil => cases h
  | cons raw rest => rw [readLine_snd, List.tail_cons, List.length_cons]

/-- A step of a task leaves less work, and nothing makes more of it. -/
theorem work_step {label : TransportLabel} (hcase : StepCase gw s label t) :
    t.work + label.isTask.toNat ≤ s.work := by
  cases hcase with
  | readEnd reader line =>
    have hrest : (readLine s.rest).2.length ≤ s.rest.length := by
      rw [readLine_snd, List.length_tail]
      exact Nat.sub_le _ _
    simp only [work, reader, Channel.queue_dropSender, ReaderTask.work, TransportLabel.isTask,
      Bool.toNat_true]
    omega
  | readBlank reader line =>
    have hrest := length_of_readLine line
    simp only [work, TransportLabel.isTask, Bool.toNat_true]
    omega
  | readMessage text reader line =>
    have hrest := length_of_readLine line
    simp only [work, reader, ReaderTask.work, TransportLabel.isTask, Bool.toNat_true]
    omega
  | forwarded text reader ready =>
    simp only [work, reader, ReaderTask.work, Channel.queue_push, List.length_append,
      List.length_singleton, TransportLabel.isTask, Bool.toNat_true]
    omega
  | refused text reader closed =>
    simp only [work, reader, Channel.queue_dropSender, ReaderTask.work, TransportLabel.isTask,
      Bool.toNat_true]
    omega
  | taken env text dispatcher queue =>
    have hone := gw.length_responses_step_le s.state (.line { env with text })
    have hlength := congrArg List.length queue
    rw [List.length_cons] at hlength
    simp only [work, dispatcher, DispatchTask.active_ofTexts, DispatchTask.texts_ofTexts,
      responseLines, List.length_map, TransportLabel.isTask, Bool.toNat_true]
    simp only [DispatchTask.active, DispatchTask.texts, List.length_nil, Bool.toNat_true]
    omega
  | hungUp dispatcher queue senders | noticed dispatcher token =>
    simp only [work, dispatcher, Channel.queue_dropSender, Channel.queue_dropReceiver,
      DispatchTask.active, DispatchTask.texts, List.length_nil, TransportLabel.isTask,
      Bool.toNat_true, Bool.toNat_false]
    omega
  | responded text texts dispatcher ready =>
    simp only [work, dispatcher, DispatchTask.active_ofTexts, DispatchTask.texts_ofTexts,
      Channel.queue_push, List.length_append, List.length_singleton, TransportLabel.isTask,
      Bool.toNat_true]
    simp only [DispatchTask.active, DispatchTask.texts, List.length_cons, Bool.toNat_true]
    omega
  | dropped text texts dispatcher closed =>
    simp only [work, dispatcher, DispatchTask.active_ofTexts, DispatchTask.texts_ofTexts,
      TransportLabel.isTask, Bool.toNat_true]
    simp only [DispatchTask.active, DispatchTask.texts, List.length_cons, Bool.toNat_true]
    omega
  | fetched text printer queue =>
    have hlength := congrArg List.length queue
    rw [List.length_cons] at hlength
    simp only [work, printer, PrinterTask.work, TransportLabel.isTask, Bool.toNat_true]
    omega
  | printerEnd printer queue senders | failed text printer =>
    simp only [work, printer, PrinterTask.work, Channel.queue_dropReceiver, List.length_nil,
      TransportLabel.isTask, Bool.toNat_true]
    omega
  | wrote text printer =>
    simp only [work, printer, PrinterTask.work, TransportLabel.isTask, Bool.toNat_true]
    omega
  | reloaded hotConfig => exact le_rfl
  | stopped | exited => exact le_rfl

/-- None of the three tasks can move. -/
def Quiet (gw : Gateway) (s : Transport) : Prop :=
  ∀ label : TransportLabel, label.isTask = true → s.step gw label = none

/-- In a process that runs, a task that can not move has to wait. -/
theorem Quiet.turn (h : Quiet gw s) (hrunning : s.exited = false)
    (label : TransportLabel) (htask : label.isTask = true) : s.turn gw label = none := by
  have hstep := h label htask
  rwa [step, hrunning, if_neg Bool.false_ne_true] at hstep

/-- A reader that can not move has left, or the channel before it is full. -/
theorem reader_of_quiet (h : Quiet gw s) (hrunning : s.exited = false) :
    s.reader.active = false ∨ s.inbound.receiverOpen = true ∧
      s.inbound.queue.length = s.inbound.capacity := by
  cases hreader : s.reader with
  | finished | refused => exact Or.inl rfl
  | reading =>
    have hread := h.turn hrunning .read rfl
    simp only [turn, hreader] at hread
    split at hread <;> cases hread
  | sending text =>
    have hforward := h.turn hrunning .forward rfl
    simp only [turn, hreader, Option.map_eq_none_iff] at hforward
    exact Or.inr (Channel.send_eq_none_iff.mp hforward)

/-- A dispatch loop that can not move has left, or waits for a line that nobody has
sent, or the channel before it is full. -/
theorem dispatcher_of_quiet (h : Quiet gw s) (hrunning : s.exited = false) :
    s.dispatcher.active = false ∨ (s.inbound.queue = [] ∧ s.inbound.senders ≠ 0) ∨
      s.outbound.receiverOpen = true ∧ s.outbound.queue.length = s.outbound.capacity := by
  cases hdispatcher : s.dispatcher with
  | finished | cancelled => exact Or.inl rfl
  | receiving =>
    refine Or.inr (Or.inl (Channel.recv_eq_none_iff.mp ?_))
    have htake := h.turn hrunning (.take (.plain "")) rfl
    have hhangUp := h.turn hrunning .hangUp rfl
    simp only [turn, hdispatcher] at htake hhangUp
    rcases hrecv : s.inbound.recv with _ | ⟨inbound, _ | text⟩
    · rfl
    · simp [hrecv] at hhangUp
    · simp [hrecv] at htake
  | responding text texts =>
    have hrespond := h.turn hrunning .respond rfl
    simp only [turn, hdispatcher, Option.map_eq_none_iff] at hrespond
    exact Or.inr (Or.inr (Channel.send_eq_none_iff.mp hrespond))

/-- A writer that can not move has left, or waits for a line that nobody has sent. -/
theorem printer_of_quiet (h : Quiet gw s) (hrunning : s.exited = false) :
    s.printer.active = false ∨ s.outbound.queue = [] ∧ s.outbound.senders ≠ 0 := by
  cases hprinter : s.printer with
  | finished | failed => exact Or.inl rfl
  | receiving =>
    have hfetch := h.turn hrunning .fetch rfl
    simp only [turn, hprinter, Option.map_eq_none_iff] at hfetch
    exact Or.inr (Channel.recv_eq_none_iff.mp hfetch)
  | writing text =>
    have hwrite := h.turn hrunning (.write true) rfl
    simp [turn, hprinter] at hwrite

/-- **No deadlock.** If none of the tasks can move although `main` has not returned, all of
them have left their loops. -/
theorem finished_of_quiet (hflows : Flows gw initial bytes s) (h : Quiet gw s)
    (hrunning : s.exited = false) :
    s.reader.active = false ∧ s.dispatcher.active = false ∧ s.printer.active = false := by
  obtain ⟨hinbound, houtbound⟩ := hflows.capacity
  -- nobody waits for room: the channel the writer reads from is empty, so the dispatch
  -- loop waits for lines if it waits at all, and then the channel it reads from is empty
  have hroom : ¬(s.outbound.receiverOpen = true ∧
      s.outbound.queue.length = s.outbound.capacity) := by
    rintro ⟨hopen, hfull⟩
    rw [hflows.outbound_open] at hopen
    rcases printer_of_quiet h hrunning with hinactive | ⟨hempty, -⟩
    · rw [hopen] at hinactive
      cases hinactive
    · rw [hempty, houtbound] at hfull
      cases hfull
  have hreader : s.reader.active = false := by
    rcases reader_of_quiet h hrunning with hinactive | ⟨hopen, hfull⟩
    · exact hinactive
    · rw [hflows.inbound_open] at hopen
      rcases dispatcher_of_quiet h hrunning with hinactive | ⟨hempty, -⟩ | hblocked
      · rw [hopen] at hinactive
        cases hinactive
      · rw [hempty, hinbound] at hfull
        cases hfull
      · exact absurd hblocked hroom
  have hdispatcher : s.dispatcher.active = false := by
    rcases dispatcher_of_quiet h hrunning with hinactive | ⟨-, hsenders⟩ | hblocked
    · exact hinactive
    · rw [hflows.inbound_senders, hreader] at hsenders
      exact absurd rfl hsenders
    · exact absurd hblocked hroom
  refine ⟨hreader, hdispatcher, ?_⟩
  rcases printer_of_quiet h hrunning with hinactive | ⟨-, hsenders⟩
  · exact hinactive
  · rw [hflows.outbound_senders, hdispatcher] at hsenders
    exact absurd rfl hsenders

/-- Tasks that have left their loops do not move. -/
theorem quiet_of_finished (hreader : s.reader.active = false)
    (hdispatcher : s.dispatcher.active = false) (hprinter : s.printer.active = false) :
    Quiet gw s := by
  intro label htask
  rw [step, ite_eq_left_iff]
  intro _
  cases label with
  | reload | cancel | exit => cases htask
  | read | forward => cases hcase : s.reader <;> simp_all [turn, ReaderTask.active]
  | take | hangUp | noticeCancel | respond =>
    cases hcase : s.dispatcher <;> simp_all [turn, DispatchTask.active]
  | fetch | write => cases hcase : s.printer <;> simp_all [turn, PrinterTask.active]

/-- The dispatch loop has at most one line to hand over. -/
theorem length_texts_le {labels : List TransportLabel}
    (h : Runs.exec (step gw) (start initial bytes) labels = some s) :
    s.dispatcher.texts.length ≤ 1 := by
  refine Runs.exec_induction (step gw) (motive := fun _ s => s.dispatcher.texts.length ≤ 1)
    (Nat.zero_le _) ?_ h
  intro labels label s t _ ih hstep
  cases step_cases hstep with
  | taken env text dispatcher queue =>
    rw [DispatchTask.texts_ofTexts, responseLines, List.length_map]
    exact gw.length_responses_step_le _ _
  | responded text texts dispatcher ready =>
    rw [dispatcher] at ih
    rw [DispatchTask.texts_ofTexts]
    exact (Nat.le_succ _).trans ih
  | dropped text texts dispatcher closed =>
    rw [dispatcher] at ih
    rw [DispatchTask.texts_ofTexts]
    exact (Nat.le_succ _).trans ih
  | hungUp | noticed => exact Nat.zero_le _
  | readEnd | readBlank | readMessage | forwarded | refused | fetched | printerEnd | wrote | failed
  | reloaded | stopped | exited => exact ih

/-- A channel whose receiver has left holds nothing. -/
theorem drained_of_exec {labels : List TransportLabel}
    (h : Runs.exec (step gw) (start initial bytes) labels = some s) :
    s.inbound.Drained ∧ s.outbound.Drained := by
  refine Runs.exec_induction (step gw) (motive := fun _ s => s.inbound.Drained ∧ s.outbound.Drained)
    ⟨Channel.drained_new _ _, Channel.drained_new _ _⟩ ?_ h
  rintro labels label s t _ ⟨hinbound, houtbound⟩ hstep
  cases step_cases hstep with
  | forwarded text reader ready => exact ⟨.push ready, houtbound⟩
  | taken => exact ⟨hinbound.pop, houtbound⟩
  | hungUp | noticed => exact ⟨Channel.drained_dropReceiver, houtbound⟩
  | responded text texts dispatcher ready => exact ⟨hinbound, .push ready⟩
  | fetched => exact ⟨hinbound, houtbound.pop⟩
  | printerEnd | failed => exact ⟨hinbound, Channel.drained_dropReceiver⟩
  | readEnd | readBlank | readMessage | refused | dropped | wrote | reloaded | stopped | exited =>
    exact ⟨hinbound, houtbound⟩

/-- The answers that the writer has in hand, and those in its channel. -/
def unwritten (s : Transport) : List String :=
  s.printer.inHand ++ s.outbound.queue

/-- At most 65 lines are on their way from the dispatch loop to stdout. -/
theorem Flows.length_unwritten_le (h : Flows gw initial bytes s) : s.unwritten.length ≤ 65 := by
  have hqueue := s.outbound.bounded
  rw [h.capacity.2] at hqueue
  have hhand : s.printer.inHand.length ≤ 1 := by
    cases s.printer <;> simp [PrinterTask.inHand]
  rw [unwritten, List.length_append]
  omega

/-- **Interleaving.** However the three tasks and the signal handlers take turns, the
dispatch loop is where the session it has processed leads, this session consists of
the first messages of the client's stream, and the lines on stdout are its first
answers. Unless stdout broke, at most 66 answers are under way. -/
theorem interleaved_session (gw : Gateway) (initial : DispatchState) (bytes : List UInt8)
    {labels : List TransportLabel}
    (h : Runs.exec (step gw) (start initial bytes) labels = some s) :
    s.state = Runs.after gw.step initial s.events ∧
      s.events.filterMap eventText <+: messages (rawLines bytes) ∧
      s.written <+: answers gw initial s.events ∧
      (s.printer ≠ .failed → (answers gw initial s.events).length ≤ s.written.length + 66) := by
  have hflows := flows_of_exec h
  refine ⟨hflows.state_eq, hflows.taken_prefix,
    (List.prefix_append _ _).trans hflows.written_answers, ?_⟩
  intro hprinter
  have hunwritten := hflows.length_unwritten_le
  have htexts := length_texts_le h
  rw [unwritten, List.length_append] at hunwritten
  rw [← hflows.handed hprinter]
  simp only [List.length_append]
  omega

/-- A stream of three lines: an `initialize`, a blank one and one that is not JSON. -/
def threeLines : List UInt8 :=
  initializeMessage.text.toByteArray.data.toList ++ [newline, newline, 120, newline]

/-- The gateway that reads that stream. -/
def threeLinesGateway : Gateway := .bare (.ofValues handshakeMessages)

/-- A run of the tasks over that stream to its end, in which the second message is read
before the answer to the first is written. -/
def threeLinesRun : List TransportLabel :=
  [.read, .forward, .take (.plain ""), .read, .respond, .read, .fetch, .forward, .read,
    .write true, .take (.plain ""), .respond, .hangUp, .fetch, .write true, .fetch]

/-- That run is possible, and all tasks have left their loops at its end. -/
theorem exec_threeLinesRun :
    ∃ s, Runs.exec (step threeLinesGateway) (start (Gateway.start ⟨{}, .new {}⟩ .new ∅) threeLines)
        threeLinesRun = some s ∧
      s.events.filterMap eventText = [initializeMessage.text, "x"] ∧ s.written.length = 2 ∧
      (s.reader.active = false ∧ s.dispatcher.active = false ∧ s.printer.active = false) ∧
      s.exited = false ∧ s.cancelled = false ∧ s.printer ≠ .failed := by
  have hfacts : (Runs.exec (step threeLinesGateway)
        (start (Gateway.start ⟨{}, .new {}⟩ .new ∅) threeLines) threeLinesRun).map
      (fun s => (s.events.filterMap eventText, s.written.length,
        !s.reader.active && !s.dispatcher.active && !s.printer.active && !s.exited &&
          !s.cancelled && s.printer ≠ .failed)) =
      some ([initializeMessage.text, "x"], 2, true) := by
    decide +kernel
  obtain ⟨s, hs, heq⟩ := Option.map_eq_some_iff.mp hfacts
  obtain ⟨hevents, heq⟩ := Prod.mk.inj heq
  obtain ⟨hwritten, hends⟩ := Prod.mk.inj heq
  simp only [Bool.and_eq_true, Bool.not_eq_true', decide_eq_true_eq] at hends
  obtain ⟨⟨⟨⟨⟨hreader, hdispatcher⟩, hprinter⟩, hrunning⟩, htoken⟩, hunbroken⟩ := hends
  exact ⟨s, hs, hevents, hwritten, ⟨hreader, hdispatcher, hprinter⟩, hrunning, htoken, hunbroken⟩

/-- Both answers of that run are on stdout in the end. -/
theorem interleaved_session_three_lines :
    ∃ s, Runs.exec (step threeLinesGateway) (start (Gateway.start ⟨{}, .new {}⟩ .new ∅) threeLines)
        threeLinesRun = some s ∧ s.written.length = 2 ∧
      s.written <+:
        answers threeLinesGateway (Gateway.start ⟨{}, .new {}⟩ .new ∅) s.events := by
  obtain ⟨s, hs, -, hwritten, -⟩ := exec_threeLinesRun
  exact ⟨s, hs, hwritten, (interleaved_session _ _ _ hs).2.2.1⟩

/-- A dispatch loop that has left has handed over all its answers. -/
theorem Flows.answers_eq (h : Flows gw initial bytes s) (hdispatcher : s.dispatcher.active = false)
    (hprinter : s.printer ≠ .failed) :
    answers gw initial s.events = s.written ++ s.unwritten := by
  have htexts : s.dispatcher.texts = [] := by
    cases hcase : s.dispatcher with
    | finished | cancelled => rfl
    | receiving | responding =>
      rw [hcase] at hdispatcher
      cases hdispatcher
  rw [← h.handed hprinter, htexts, List.append_nil, unwritten, List.append_assoc]

/-- A dispatch loop that has left has taken up every message, if nobody told the process to
stop. -/
theorem taken_of_left {labels : List TransportLabel}
    (h : Runs.exec (step gw) (start initial bytes) labels = some s)
    (hdispatcher : s.dispatcher.active = false) (htoken : s.cancelled = false) :
    s.events.filterMap eventText = messages (rawLines bytes) := by
  have hflows := flows_of_exec h
  have hfinished : s.dispatcher = .finished := by
    cases hcase : s.dispatcher with
    | finished => rfl
    | cancelled =>
      rw [hflows.token hcase] at htoken
      cases htoken
    | receiving | responding =>
      rw [hcase] at hdispatcher
      cases hdispatcher
  have hunsent : s.unsent = [] := by
    have hreader := hflows.dispatcher_end hfinished
    cases hcase : s.reader with
    | reading | sending =>
      rw [hcase] at hreader
      cases hreader
    | finished | refused => rw [unsent, hcase]
  have hqueue := (drained_of_exec h).1 (hflows.inbound_open.trans hdispatcher)
  have htaken := hflows.taken (by simp [hfinished])
  rw [hqueue, hunsent, List.append_nil, List.append_nil] at htaken
  exact htaken

/-- When all tasks have come to rest before `main` returns, nothing is left on the way. -/
theorem unwritten_of_quiet {labels : List TransportLabel}
    (h : Runs.exec (step gw) (start initial bytes) labels = some s) (hquiet : Quiet gw s)
    (hrunning : s.exited = false) : s.unwritten = [] := by
  have hflows := flows_of_exec h
  obtain ⟨-, -, hprinter⟩ := finished_of_quiet hflows hquiet hrunning
  have hqueue := (drained_of_exec h).2 (hflows.outbound_open.trans hprinter)
  rw [unwritten, hqueue, List.append_nil]
  cases hcase : s.printer with
  | finished | failed => rfl
  | receiving | writing =>
    rw [hcase] at hprinter
    cases hprinter

/-- `main` does not return before the dispatch loop has left. -/
theorem left_of_exited {labels : List TransportLabel}
    (h : Runs.exec (step gw) (start initial bytes) labels = some s) :
    s.exited = true → s.dispatcher.active = false := by
  refine Runs.exec_induction (step gw)
    (motive := fun _ s => s.exited = true → s.dispatcher.active = false) (by simp [start]) ?_ h
  intro labels label s t _ _ hstep hexited
  have hrunning := (turn_of_step hstep).1
  cases step_cases hstep with
  | exited dispatcher => exact dispatcher
  | readEnd | readBlank | readMessage | forwarded | refused | taken | hungUp | noticed | responded
  | dropped | fetched | printerEnd | wrote | failed | reloaded | stopped =>
    rw [hrunning] at hexited
    cases hexited

/-- **Delivery.** The tasks make a bounded number of steps and do not block each other:
when none of them can move although `main` has not returned, all have left their loops.
`main` returns after the dispatch loop has left. Then, unless somebody told the process to
stop, every message of the stream was taken up; and unless stdout broke, the answers are
those on stdout and after them at most 65 that the writer has in hand or in its channel.
Once the tasks have come to rest these are written too; but when `main` returns first they
are lost, for then nothing moves any more. -/
theorem delivered_when_quiet (gw : Gateway) (initial : DispatchState) (bytes : List UInt8)
    {labels : List TransportLabel}
    (h : Runs.exec (step gw) (start initial bytes) labels = some s) :
    labels.countP TransportLabel.isTask ≤ 8 * (rawLines bytes).length + 3 ∧
      (s.exited = false → Quiet gw s →
        s.reader.active = false ∧ s.dispatcher.active = false ∧ s.printer.active = false) ∧
      (s.exited = true → s.dispatcher.active = false ∧ ∀ label, s.step gw label = none) ∧
      (s.dispatcher.active = false →
        (s.cancelled = false → s.events.filterMap eventText = messages (rawLines bytes)) ∧
        (s.printer ≠ .failed →
          answers gw initial s.events = s.written ++ s.unwritten ∧ s.unwritten.length ≤ 65 ∧
            (s.exited = false → Quiet gw s → s.written = answers gw initial s.events))) := by
  have hflows := flows_of_exec h
  refine ⟨?_, fun hrunning hquiet => finished_of_quiet hflows hquiet hrunning,
    fun hexited => ⟨left_of_exited h hexited, step_of_exited hexited⟩, fun hdispatcher =>
    ⟨taken_of_left h hdispatcher, fun hprinter => ?_⟩⟩
  · have hcount := Runs.countP_le_measure (step gw) (μ := work) (p := TransportLabel.isTask)
      (fun s label t hstep htask => by
        have hwork := work_step (step_cases hstep)
        rw [htask, Bool.toNat_true] at hwork
        omega)
      (fun s label t hstep _ => Nat.le_of_add_right_le (work_step (step_cases hstep))) h
    have hstart : (start initial bytes).work = 8 * (rawLines bytes).length + 3 := rfl
    omega
  · have hanswers := hflows.answers_eq hdispatcher hprinter
    refine ⟨hanswers, hflows.length_unwritten_le, fun hrunning hquiet => ?_⟩
    rw [hanswers, unwritten_of_quiet h hquiet hrunning, List.append_nil]

/-- In the run above all answers are on stdout before `main` returns. When it returns as
soon as the dispatch loop has left, the second answer is lost. -/
theorem delivered_when_quiet_three_lines :
    let initial := Gateway.start ⟨{}, .new {}⟩ .new ∅
    (∃ s, Runs.exec (step threeLinesGateway) (start initial threeLines) threeLinesRun = some s ∧
      Quiet threeLinesGateway s ∧
      messages (rawLines threeLines) = [initializeMessage.text, "x"] ∧ s.written.length = 2 ∧
      s.written = answers threeLinesGateway initial s.events) ∧
    ∃ s, Runs.exec (step threeLinesGateway) (start initial threeLines)
        (threeLinesRun.take 13 ++ [.exit]) = some s ∧ s.written.length = 1 ∧
      s.unwritten.length = 1 ∧
      answers threeLinesGateway initial s.events = s.written ++ s.unwritten ∧
      ∀ label, s.step threeLinesGateway label = none := by
  intro initial
  refine ⟨?_, ?_⟩
  · obtain ⟨s, hs, hevents, hwritten, ⟨hreader, hdispatcher, hprinter⟩, hrunning, htoken, hended⟩ :=
      exec_threeLinesRun
    have hquiet : Quiet threeLinesGateway s := quiet_of_finished hreader hdispatcher hprinter
    obtain ⟨-, -, -, hleft⟩ := delivered_when_quiet _ _ _ hs
    obtain ⟨htaken, hanswers⟩ := hleft hdispatcher
    exact ⟨s, hs, hquiet, (htaken htoken).symm.trans hevents, hwritten,
      (hanswers hended).2.2 hrunning hquiet⟩
  · have hfacts : (Runs.exec (step threeLinesGateway) (start initial threeLines)
          (threeLinesRun.take 13 ++ [.exit])).map
        (fun s => (s.written.length, s.unwritten.length,
          s.exited && s.printer ≠ .failed)) = some (1, 1, true) := by
      decide +kernel
    obtain ⟨s, hs, heq⟩ := Option.map_eq_some_iff.mp hfacts
    obtain ⟨hwritten, heq⟩ := Prod.mk.inj heq
    obtain ⟨hunwritten, hends⟩ := Prod.mk.inj heq
    rw [Bool.and_eq_true, decide_eq_true_eq] at hends
    obtain ⟨hexited, hprinter⟩ := hends
    obtain ⟨-, -, hend, hleft⟩ := delivered_when_quiet _ _ _ hs
    obtain ⟨hdispatcher, hfinal⟩ := hend hexited
    exact ⟨s, hs, hwritten, hunwritten, ((hleft hdispatcher).2 hprinter).1, hfinal⟩

end Transport

end SentinelGateway
