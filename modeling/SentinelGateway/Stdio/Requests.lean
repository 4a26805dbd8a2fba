import Mathlib.Data.List.DropRight
import SentinelGateway.Backend
import SentinelGateway.Library.Runs
import SentinelGateway.Protocol.JsonRpc

/-!
# Requests to a stdio child

Any number of `StdioBackend::send` calls share one child: a queue in front of the
stdin writer, a map of pending identifiers, and the stdout reader that completes
them. Each step below is one that no other task can interrupt, and a run is any
interleaving of such steps with whatever the child prints. A printed line enters the run
when the reader comes to it and looks its identifier up, since no task notices it earlier.
-/

namespace SentinelGateway

/-- The Unicode property `White_Space`, which `str::trim` goes by. -/
def isWhiteSpace (c : Char) : Bool :=
  (0x09 ≤ c.toNat && c.toNat ≤ 0x0d) || (0x2000 ≤ c.toNat && c.toNat ≤ 0x200a) ||
    [0x20, 0x85, 0xa0, 0x1680, 0x2028, 0x2029, 0x202f, 0x205f, 0x3000].contains c.toNat

/-- `str::trim`. -/
def trim (text : String) : String :=
  .ofList ((text.toList.dropWhile isWhiteSpace).rdropWhile isWhiteSpace)

/-- A oneshot channel as its receiver finds it. -/
inductive Slot where
  | empty
  | filled (line : String)
  | dropped
  deriving DecidableEq

/-- Where a `send` call is: the line is not queued yet, the response is awaited,
the pending entry is to be removed before an error is returned, or it is over. -/
inductive SendPhase where
  | queuing
  | waiting
  | failing (error : BackendError)
  | returned (result : Except BackendError String)
  deriving DecidableEq

/-- A `send` call that got past the parsing of its body. -/
structure Send where
  body : String
  id : UInt64
  phase : SendPhase
  slot : Slot

/-- The call with another slot, and in another phase. -/
def Send.withSlot (slot : Slot) (send : Send) : Send := { send with slot }
def Send.withPhase (phase : SendPhase) (send : Send) : Send := { send with phase }

/-- Where the stdout reader is: between two lines, about to hand a line to the
sender it took out of the map, or behind its loop. -/
inductive Reader where
  | reading
  | delivering (ticket : ℕ) (line : String)
  | ended

/-- A child and the calls on it. Calls are told apart by tickets; the map of
pending identifiers holds the ticket of the call whose sender it owns. -/
structure ChildPipe where
  sends : Table ℕ Send
  pending : Table UInt64 ℕ
  queue : List String
  stdinOpen : Bool
  written : List String
  reader : Reader

/-- The steps of the calls, of the stdin writer and of the stdout reader. -/
inductive PipeLabel where
  | begin (ticket : ℕ) (body : String)
  | enqueue (ticket : ℕ)
  | refuse (ticket : ℕ)
  | receive (ticket : ℕ)
  | timeOut (ticket : ℕ)
  | cleanUp (ticket : ℕ)
  | write
  | closeStdin
  | print (line : String)
  | deliver
  | endOfOutput
  | drain

/-- The capacity of the channel to the stdin writer. -/
def stdinCapacity : ℕ := 64

namespace ChildPipe

/-- The pipe of a child that was just spawned. -/
def new : ChildPipe :=
  { sends := ∅, pending := ∅, queue := [], stdinOpen := true, written := [], reader := .reading }

/-- The identifier under which a body is sent. -/
def requestId (serde : SerdeJson) (body : String) : Except BackendError UInt64 :=
  match serde.fromStr body with
  | .error e => .error (.invalidResponse ("invalid JSON: " ++ e))
  | .ok parsed =>
    match (parsed.get "id").bind Json.asU64 with
    | some id => .ok id
    | none => .error (.invalidResponse "missing or non-numeric 'id' field")

/-- The identifier the stdout reader finds on a line, if the line is usable. -/
def lineId (serde : SerdeJson) (line : String) : Option UInt64 :=
  if trim line = "" then none
  else
    match serde.fromStr (trim line) with
    | .error _ => none
    | .ok parsed => (parsed.get "id").bind Json.asU64

/-- Takes a sender out of the map and drops it, if there is one. -/
def dropSender (s : ChildPipe) (id : UInt64) : ChildPipe :=
  match s.pending.lookup id with
  | none => s
  | some ticket =>
    { s with
      pending := s.pending.erase id
      sends := s.sends.modify ticket (Send.withSlot .dropped) }

/-- `drain_pending`. -/
def drainPending (s : ChildPipe) : ChildPipe :=
  { s with
    pending := ∅
    sends := s.pending.values.foldl (fun sends ticket =>
      sends.modify ticket (Send.withSlot .dropped)) s.sends }

/-- A step of a call that is in the given phase. -/
def advance (s : ChildPipe) (ticket : ℕ) (f : Send → Option SendPhase) : Option ChildPipe :=
  (s.sends.lookup ticket).bind fun send =>
    (f send).map fun phase =>
      { s with sends := s.sends.modify ticket (Send.withPhase phase) }

/-- One step of the tasks around a child. -/
def step (serde : SerdeJson) (s : ChildPipe) : PipeLabel → Option ChildPipe
  -- `send`: the body is parsed and the sender is put into the map
  | .begin ticket body =>
    if ticket ∈ s.sends then none
    else
      match requestId serde body with
      | .error _ => some s
      | .ok id =>
        let s := s.dropSender id
        some { s with
          sends := s.sends.insert ticket { body, id, phase := .queuing, slot := .empty }
          pending := s.pending.insert id ticket }
  -- `send`: the body is queued, or the writer is gone
  | .enqueue ticket =>
    (s.sends.lookup ticket).bind fun send =>
      if send.phase = .queuing ∧ s.stdinOpen = true ∧ s.queue.length < stdinCapacity then
        some { s with
          queue := s.queue ++ [send.body]
          sends := s.sends.modify ticket (Send.withPhase .waiting) }
      else none
  | .refuse ticket => s.advance ticket fun send =>
    if send.phase = .queuing ∧ s.stdinOpen = false then some (.failing .stdinClosed) else none
  -- `send`: the response channel is ready, or the time is up
  | .receive ticket => s.advance ticket fun send =>
    if send.phase = .waiting then
      match send.slot with
      | .empty => none
      | .filled line => some (.returned (.ok line))
      | .dropped => some (.returned (.error (.processExited "response channel dropped")))
    else none
  | .timeOut ticket => s.advance ticket fun send =>
    if send.phase = .waiting ∧ send.slot = .empty then
      some (.failing (.invalidResponse "request timed out"))
    else none
  | .cleanUp ticket =>
    (s.sends.lookup ticket).bind fun send =>
      match send.phase with
      | .failing error =>
        (s.dropSender send.id).advance ticket fun _ => some (.returned (.error error))
      | _ => none
  -- `stdin_writer`
  | .write =>
    match s.stdinOpen, s.queue with
    | true, message :: queue =>
      some { s with
        queue
        written := s.written ++ [if message.endsWith "\n" then message else message ++ "\n"] }
    | _, _ => none
  | .closeStdin => some { s with stdinOpen := false, queue := [] }
  -- `stdout_reader`: it comes to a printed line
  | .print line =>
    match s.reader with
    | .reading =>
      match lineId serde line with
      | none => some s
      | some id =>
        match s.pending.lookup id with
        | none => some s
        | some ticket =>
          some { s with
            pending := s.pending.erase id
            reader := .delivering ticket (trim line) }
    | _ => none
  | .deliver =>
    match s.reader with
    | .delivering ticket line =>
      some { s with
        reader := .reading
        sends := s.sends.modify ticket (Send.withSlot (.filled line)) }
    | _ => none
  | .endOfOutput =>
    match s.reader with
    | .reading => some { s with reader := .ended }
    | _ => none
  | .drain =>
    match s.reader with
    | .ended => some s.drainPending
    | _ => none

/-- Everything a step can do, with the state in which it can be done. -/
inductive StepCase (serde : SerdeJson) (s : ChildPipe) : PipeLabel → ChildPipe → Prop
  | rejected (ticket : ℕ) (body : String) (error : BackendError)
      (requestId : requestId serde body = .error error) : StepCase serde s (.begin ticket body) s
  | begun (ticket : ℕ) (body : String) (id : UInt64) (fresh : ticket ∉ s.sends)
      (requestId : requestId serde body = .ok id) :
      StepCase serde s (.begin ticket body)
        { s.dropSender id with
          sends := (s.dropSender id).sends.insert ticket
            { body, id, phase := .queuing, slot := .empty }
          pending := (s.dropSender id).pending.insert id ticket }
  | enqueued (ticket : ℕ) (send : Send) (lookup : s.sends.lookup ticket = some send)
      (phase : send.phase = .queuing) (stdin : s.stdinOpen = true)
      (room : s.queue.length < stdinCapacity) :
      StepCase serde s (.enqueue ticket)
        { s with
          queue := s.queue ++ [send.body]
          sends := s.sends.modify ticket (Send.withPhase .waiting) }
  | refused (ticket : ℕ) (send : Send) (lookup : s.sends.lookup ticket = some send)
      (phase : send.phase = .queuing) (stdin : s.stdinOpen = false) :
      StepCase serde s (.refuse ticket)
        { s with sends := s.sends.modify ticket (Send.withPhase (.failing .stdinClosed)) }
  | received (ticket : ℕ) (send : Send) (line : String)
      (lookup : s.sends.lookup ticket = some send) (phase : send.phase = .waiting)
      (slot : send.slot = .filled line) :
      StepCase serde s (.receive ticket)
        { s with sends := s.sends.modify ticket (Send.withPhase (.returned (.ok line))) }
  | lost (ticket : ℕ) (send : Send) (lookup : s.sends.lookup ticket = some send)
      (phase : send.phase = .waiting) (slot : send.slot = .dropped) :
      StepCase serde s (.receive ticket)
        { s with
          sends := s.sends.modify ticket
            (Send.withPhase (.returned (.error (.processExited "response channel dropped")))) }
  | timedOut (ticket : ℕ) (send : Send) (lookup : s.sends.lookup ticket = some send)
      (phase : send.phase = .waiting) (slot : send.slot = .empty) :
      StepCase serde s (.timeOut ticket)
        { s with
          sends := s.sends.modify ticket
            (Send.withPhase (.failing (.invalidResponse "request timed out"))) }
  | cleanedUp (ticket : ℕ) (send : Send) (error : BackendError)
      (lookup : s.sends.lookup ticket = some send) (phase : send.phase = .failing error) :
      StepCase serde s (.cleanUp ticket)
        { s.dropSender send.id with
          sends := (s.dropSender send.id).sends.modify ticket
            (Send.withPhase (.returned (.error error))) }
  | wrote (queue written : List String) : StepCase serde s .write { s with queue, written }
  | closed : StepCase serde s .closeStdin { s with stdinOpen := false, queue := [] }
  | ignored (line : String) (reading : s.reader = .reading)
      (unknown : ∀ id, lineId serde line = some id → s.pending.lookup id = none) :
      StepCase serde s (.print line) s
  | takenUp (line : String) (id : UInt64) (ticket : ℕ) (reading : s.reader = .reading)
      (lineId : lineId serde line = some id) (pending : s.pending.lookup id = some ticket) :
      StepCase serde s (.print line)
        { s with pending := s.pending.erase id, reader := .delivering ticket (trim line) }
  | delivered (ticket : ℕ) (line : String) (reader : s.reader = .delivering ticket line) :
      StepCase serde s .deliver
        { s with
          reader := .reading
          sends := s.sends.modify ticket (Send.withSlot (.filled line)) }
  | outputEnded (reading : s.reader = .reading) :
      StepCase serde s .endOfOutput { s with reader := .ended }
  | drained (ended : s.reader = .ended) : StepCase serde s .drain s.drainPending

/-- A call that moves on was found in the phase it moves on from. -/
theorem exists_of_advance {s t : ChildPipe} {ticket : ℕ} {f : Send → Option SendPhase}
    (h : s.advance ticket f = some t) :
    ∃ send phase, s.sends.lookup ticket = some send ∧ f send = some phase ∧
      t = { s with sends := s.sends.modify ticket (Send.withPhase phase) } := by
  unfold advance at h
  obtain ⟨send, hsend, hmap⟩ := Option.bind_eq_some_iff.mp h
  obtain ⟨phase, hphase, rfl⟩ := Option.map_eq_some_iff.mp hmap
  exact ⟨send, phase, hsend, hphase, rfl⟩

/-- **Inversion.** Every step of the tasks around a child is one of the listed ones. -/
theorem step_cases {serde : SerdeJson} {s t : ChildPipe} {label : PipeLabel}
    (h : s.step serde label = some t) : StepCase serde s label t := by
  cases label with
  | begin ticket body =>
    simp only [step] at h
    split_ifs at h with hmem
    cases hid : requestId serde body with
    | error e =>
      obtain rfl : s = t := by simpa [hid] using h
      exact .rejected ticket body e hid
    | ok id =>
      obtain rfl : _ = t := by simpa [hid] using h
      exact .begun ticket body id hmem hid
  | enqueue ticket =>
    simp only [step] at h
    obtain ⟨send, hsend, hguard⟩ := Option.bind_eq_some_iff.mp h
    split_ifs at hguard with hready
    obtain rfl := Option.some.inj hguard
    exact .enqueued ticket send hsend hready.1 hready.2.1 hready.2.2
  | refuse ticket =>
    obtain ⟨send, phase, hsend, hphase, rfl⟩ := exists_of_advance h
    split_ifs at hphase with hready
    obtain rfl := Option.some.inj hphase
    exact .refused ticket send hsend hready.1 hready.2
  | receive ticket =>
    obtain ⟨send, phase, hsend, hphase, rfl⟩ := exists_of_advance h
    split_ifs at hphase with hready
    cases hslot : send.slot with
    | empty => simp [hslot] at hphase
    | filled line =>
      obtain rfl : _ = phase := by simpa [hslot] using hphase
      exact .received ticket send line hsend hready hslot
    | dropped =>
      obtain rfl : _ = phase := by simpa [hslot] using hphase
      exact .lost ticket send hsend hready hslot
  | timeOut ticket =>
    obtain ⟨send, phase, hsend, hphase, rfl⟩ := exists_of_advance h
    split_ifs at hphase with hready
    obtain rfl := Option.some.inj hphase
    exact .timedOut ticket send hsend hready.1 hready.2
  | cleanUp ticket =>
    simp only [step] at h
    obtain ⟨send, hsend, hguard⟩ := Option.bind_eq_some_iff.mp h
    cases hphase : send.phase with
    | failing error =>
      rw [hphase] at hguard
      obtain ⟨_, phase, _, hreturned, rfl⟩ := exists_of_advance hguard
      obtain rfl := Option.some.inj hreturned
      exact .cleanedUp ticket send error hsend hphase
    | queuing | waiting | returned => simp [hphase] at hguard
  | write =>
    simp only [step] at h
    split at h
    · obtain rfl := Option.some.inj h
      exact .wrote _ _
    · cases h
  | closeStdin =>
    obtain rfl := Option.some.inj h
    exact .closed
  | print line =>
    simp only [step] at h
    cases hreader : s.reader with
    | reading =>
      cases hid : lineId serde line with
      | none =>
        obtain rfl : s = t := by simpa [hreader, hid] using h
        exact .ignored line hreader (by simp [hid])
      | some id =>
        cases hpending : s.pending.lookup id with
        | none =>
          obtain rfl : s = t := by simpa [hreader, hid, hpending] using h
          exact .ignored line hreader (by simp [hid, hpending])
        | some ticket =>
          obtain rfl : _ = t := by simpa [hreader, hid, hpending] using h
          exact .takenUp line id ticket hreader hid hpending
    | delivering | ended => simp [hreader] at h
  | deliver =>
    simp only [step] at h
    cases hreader : s.reader with
    | delivering ticket line =>
      obtain rfl : _ = t := by simpa [hreader] using h
      exact .delivered ticket line hreader
    | reading | ended => simp [hreader] at h
  | endOfOutput =>
    simp only [step] at h
    cases hreader : s.reader with
    | reading =>
      obtain rfl : _ = t := by simpa [hreader] using h
      exact .outputEnded hreader
    | delivering | ended => simp [hreader] at h
  | drain =>
    simp only [step] at h
    cases hreader : s.reader with
    | ended =>
      obtain rfl : s.drainPending = t := by simpa [hreader] using h
      exact .drained hreader
    | reading | delivering => simp [hreader] at h

/-- The printed lines that the reader comes to along a run. -/
def printed (labels : List PipeLabel) : List String :=
  labels.filterMap fun
    | .print line => some line
    | _ => none

theorem printed_append (xs ys : List PipeLabel) :
    printed (xs ++ ys) = printed xs ++ printed ys := List.filterMap_append

/-- The text completes a request: it is a printed line, without the white space
around it, and a JSON object with the identifier of the request. -/
structure Completes (serde : SerdeJson) (lines : List String) (id : UInt64) (text : String) :
    Prop where
  was_printed : ∃ line ∈ lines, text = trim line
  is_object : ∃ members, serde.fromStr text = .ok (.object members) ∧
    ((Json.object members).get "id").bind Json.asU64 = some id

/-- A usable line completes the request whose identifier it carries. -/
theorem completes_of_lineId {serde : SerdeJson} {lines : List String} {line : String} {id : UInt64}
    (hmem : line ∈ lines) (h : lineId serde line = some id) :
    Completes serde lines id (trim line) := by
  refine ⟨⟨line, hmem, rfl⟩, ?_⟩
  unfold lineId at h
  split_ifs at h
  cases hparsed : serde.fromStr (trim line) with
  | error e => simp [hparsed] at h
  | ok parsed =>
    simp only [hparsed] at h
    obtain ⟨value, hvalue, -⟩ := Option.bind_eq_some_iff.mp h
    obtain ⟨members, rfl⟩ := Json.exists_object_of_get hvalue
    exact ⟨members, rfl, h⟩

theorem Completes.mono {serde : SerdeJson} {lines more : List String} {id : UInt64}
    {text : String} (h : Completes serde lines id text) :
    Completes serde (lines ++ more) id text := by
  obtain ⟨⟨line, hmem, heq⟩, hobject⟩ := h
  exact ⟨⟨line, List.mem_append_left _ hmem, heq⟩, hobject⟩

/-- What a call holds or has returned completes it. -/
structure SendSound (serde : SerdeJson) (lines : List String) (send : Send) : Prop where
  slot : ∀ text, send.slot = .filled text → Completes serde lines send.id text
  result : ∀ text, send.phase = .returned (.ok text) → Completes serde lines send.id text

/-- The identifier of the call with a ticket. -/
def idOf (sends : Table ℕ Send) (ticket : ℕ) : Option UInt64 :=
  (sends.lookup ticket).map Send.id

/-- No call holds or has returned anything but a line that completes it, and the
map and the reader know the right calls. -/
structure Sound (serde : SerdeJson) (lines : List String) (s : ChildPipe) : Prop where
  sends : ∀ ticket send, s.sends.lookup ticket = some send → SendSound serde lines send
  pending : ∀ id ticket, s.pending.lookup id = some ticket → idOf s.sends ticket = some id
  reader : ∀ ticket text, s.reader = .delivering ticket text →
    ∃ id, idOf s.sends ticket = some id ∧ Completes serde lines id text

variable {serde : SerdeJson} {lines : List String} {s t : ChildPipe}

theorem Sound.mono (h : Sound serde lines s) (more : List String) :
    Sound serde (lines ++ more) s where
  sends ticket send hsend :=
    ⟨fun text htext => ((h.sends ticket send hsend).slot text htext).mono,
      fun text htext => ((h.sends ticket send hsend).result text htext).mono⟩
  pending := h.pending
  reader ticket text hreader := by
    obtain ⟨id, hid, hcompletes⟩ := h.reader ticket text hreader
    exact ⟨id, hid, hcompletes.mono⟩

/-- Changing a call does not change its identifier. -/
theorem idOf_modify (f : Send → Send) (hf : ∀ send, (f send).id = send.id)
    (sends : Table ℕ Send) (ticket : ℕ) : idOf (sends.modify ticket f) = idOf sends := by
  funext other
  unfold idOf
  by_cases heq : other = ticket
  · subst heq
    rw [Table.lookup_modify_self, Option.map_map]
    congr 1
    funext send
    exact hf send
  · rw [Table.lookup_modify_of_ne _ heq]

/-- Changing one call soundly keeps everything sound. -/
theorem Sound.modify (h : Sound serde lines s) (ticket : ℕ) (f : Send → Send)
    (hid : ∀ send, (f send).id = send.id)
    (hf : ∀ send, s.sends.lookup ticket = some send → SendSound serde lines (f send)) :
    Sound serde lines { s with sends := s.sends.modify ticket f } where
  sends other send hsend := by
    by_cases heq : other = ticket
    · subst heq
      rw [Table.lookup_modify_self, Option.map_eq_some_iff] at hsend
      obtain ⟨before, hbefore, rfl⟩ := hsend
      exact hf before hbefore
    · rw [Table.lookup_modify_of_ne _ heq] at hsend
      exact h.sends other send hsend
  pending id owner hpending := by
    rw [idOf_modify f hid]
    exact h.pending id owner hpending
  reader owner text hreader := by
    rw [idOf_modify f hid]
    exact h.reader owner text hreader

/-- Dropping the sender of a call leaves nothing to be received. -/
theorem Sound.dropSlot (h : Sound serde lines s) (ticket : ℕ) :
    Sound serde lines { s with sends := s.sends.modify ticket (Send.withSlot .dropped) } := by
  refine h.modify ticket _ (fun _ => rfl) ?_
  intro send hsend
  refine ⟨?_, (h.sends ticket send hsend).result⟩
  intro text htext
  cases htext

/-- Calls are indifferent to what waits in front of the stdin writer. -/
theorem Sound.of_stdin (h : Sound serde lines s) (queue written : List String)
    (stdinOpen : Bool) : Sound serde lines { s with queue, written, stdinOpen } :=
  ⟨h.sends, h.pending, h.reader⟩

/-- A reader that is not about to deliver has nothing to answer for. -/
theorem Sound.of_reader (h : Sound serde lines s) {reader : Reader}
    (hreader : ∀ ticket text, reader ≠ .delivering ticket text) :
    Sound serde lines { s with reader } :=
  ⟨h.sends, h.pending, fun ticket text heq => absurd heq (hreader ticket text)⟩

/-- Taking entries out of the map keeps the others. -/
theorem Sound.of_pending (h : Sound serde lines s) {pending : Table UInt64 ℕ}
    (hsub : ∀ id ticket, pending.lookup id = some ticket → s.pending.lookup id = some ticket) :
    Sound serde lines { s with pending } :=
  ⟨h.sends, fun id ticket hpending => h.pending id ticket (hsub id ticket hpending), h.reader⟩

theorem lookup_of_lookup_erase {pending : Table UInt64 ℕ} {removed id : UInt64} {ticket : ℕ}
    (h : (pending.erase removed).lookup id = some ticket) : pending.lookup id = some ticket := by
  by_cases heq : id = removed
  · subst heq
    simp at h
  · rwa [AList.lookup_erase_ne heq] at h

theorem idOf_dropSender (s : ChildPipe) (id : UInt64) :
    idOf (s.dropSender id).sends = idOf s.sends := by
  unfold ChildPipe.dropSender
  cases s.pending.lookup id with
  | none => rfl
  | some ticket => exact idOf_modify (Send.withSlot .dropped) (fun _ => rfl) s.sends ticket

theorem Sound.dropSender (h : Sound serde lines s) (id : UInt64) :
    Sound serde lines (s.dropSender id) := by
  unfold ChildPipe.dropSender
  cases hlookup : s.pending.lookup id with
  | none => exact h
  | some ticket => exact (h.dropSlot ticket).of_pending fun _ _ => lookup_of_lookup_erase

theorem Sound.drainPending (h : Sound serde lines s) : Sound serde lines s.drainPending := by
  have hfold (tickets : List ℕ) (s : ChildPipe) (h : Sound serde lines s) :
      Sound serde lines { s with sends := tickets.foldl (fun sends ticket =>
        sends.modify ticket (Send.withSlot .dropped)) s.sends } := by
    induction tickets generalizing s with
    | nil => exact h
    | cons ticket tickets ih => exact ih _ (h.dropSlot ticket)
  exact (hfold s.pending.values s h).of_pending (by simp)

/-- A call that moves on, returning nothing but a line that completes it, stays sound. -/
theorem Sound.advance (h : Sound serde lines s) {ticket : ℕ} {phase : SendPhase}
    (hphase : ∀ send text, s.sends.lookup ticket = some send → phase = .returned (.ok text) →
      Completes serde lines send.id text) :
    Sound serde lines { s with sends := s.sends.modify ticket (Send.withPhase phase) } := by
  refine h.modify ticket _ (fun _ => rfl) ?_
  intro send hsend
  refine ⟨(h.sends ticket send hsend).slot, ?_⟩
  intro text htext
  exact hphase send text hsend htext

/-- A new call is sound: nothing was sent to it, and the map knows it. -/
theorem Sound.insert (h : Sound serde lines s) {ticket : ℕ}
    (hfresh : idOf s.sends ticket = none) (body : String) (id : UInt64) :
    Sound serde lines { s with
      sends := s.sends.insert ticket { body, id, phase := .queuing, slot := .empty }
      pending := s.pending.insert id ticket } := by
  have hne {other : ℕ} {known : UInt64} (hknown : idOf s.sends other = some known) :
      other ≠ ticket := by
    rintro rfl
    simp [hfresh] at hknown
  have hids {other : ℕ} {known : UInt64} (hknown : idOf s.sends other = some known) :
      idOf (s.sends.insert ticket { body, id, phase := .queuing, slot := .empty }) other =
        some known := by
    rw [idOf, AList.lookup_insert_ne (hne hknown)]
    exact hknown
  refine ⟨?_, ?_, ?_⟩
  · intro other send hsend
    by_cases heq : other = ticket
    · subst heq
      rw [AList.lookup_insert, Option.some.injEq] at hsend
      subst hsend
      exact ⟨by simp, by simp⟩
    · rw [AList.lookup_insert_ne heq] at hsend
      exact h.sends other send hsend
  · intro known owner hpending
    by_cases heq : known = id
    · subst heq
      rw [AList.lookup_insert, Option.some.injEq] at hpending
      subst hpending
      simp [idOf]
    · rw [AList.lookup_insert_ne heq] at hpending
      exact hids (h.pending known owner hpending)
  · intro owner text hreader
    obtain ⟨known, hknown, hcompletes⟩ := h.reader owner text hreader
    exact ⟨known, hids hknown, hcompletes⟩

/-- The reader takes the sender out of the map that the identifier on a printed line
asks for. -/
theorem Sound.takeUp (h : Sound serde lines s) {line : String} {id : UInt64} {ticket : ℕ}
    (hline : line ∈ lines) (hid : lineId serde line = some id)
    (hpending : s.pending.lookup id = some ticket) :
    Sound serde lines
      { s with pending := s.pending.erase id, reader := .delivering ticket (trim line) } := by
  have hremoved : Sound serde lines { s with pending := s.pending.erase id } :=
    h.of_pending fun _ _ => lookup_of_lookup_erase
  refine ⟨hremoved.sends, hremoved.pending, ?_⟩
  intro owner text hdelivering
  obtain ⟨rfl, rfl⟩ : ticket = owner ∧ trim line = text := by simpa using hdelivering
  exact ⟨id, h.pending id ticket hpending, completes_of_lineId hline hid⟩

/-- The reader hands the line to the call whose sender it took. -/
theorem Sound.deliver (h : Sound serde lines s) {ticket : ℕ} {line : String}
    (hreader : s.reader = .delivering ticket line) :
    Sound serde lines
      { s with
        reader := .reading
        sends := s.sends.modify ticket (Send.withSlot (.filled line)) } := by
  obtain ⟨id, hid, hcompletes⟩ := h.reader ticket line hreader
  have hfilled : Sound serde lines
      { s with sends := s.sends.modify ticket (Send.withSlot (.filled line)) } := by
    refine h.modify ticket _ (fun _ => rfl) ?_
    intro send hsend
    refine ⟨?_, (h.sends ticket send hsend).result⟩
    intro text htext
    obtain rfl : line = text := by simpa [Send.withSlot] using htext
    obtain rfl : send.id = id := by simpa [idOf, hsend] using hid
    exact hcompletes
  exact hfilled.of_reader (by simp)

/-- Every step keeps the pipe sound, for the lines printed up to it. -/
theorem Sound.step (h : Sound serde lines s) {label : PipeLabel}
    (hcase : StepCase serde s label t) : Sound serde (lines ++ printed [label]) t := by
  have hlines := h.mono (printed [label])
  cases hcase with
  | rejected | ignored => exact hlines
  | begun ticket body id hmem =>
    have hfresh : idOf (s.dropSender id).sends ticket = none := by
      rw [idOf_dropSender, idOf, AList.lookup_eq_none.mpr hmem]
      rfl
    exact (hlines.dropSender id).insert hfresh body id
  | enqueued => exact (hlines.advance (by simp)).of_stdin _ _ _
  | refused | lost | timedOut => exact hlines.advance (by simp)
  | received ticket send line hsend _ hslot =>
    refine hlines.advance ?_
    intro other text hother htext
    obtain rfl : send = other := by simpa [hsend] using hother
    obtain rfl : line = text := by simpa using htext
    exact (hlines.sends ticket send hsend).slot line hslot
  | cleanedUp ticket send => exact (hlines.dropSender send.id).advance (by simp)
  | wrote | closed => exact hlines.of_stdin _ _ _
  | takenUp line id ticket _ hid hpending =>
    exact hlines.takeUp (by simp [printed]) hid hpending
  | delivered ticket line hreader => exact hlines.deliver hreader
  | outputEnded => exact hlines.of_reader (by simp)
  | drained => exact hlines.drainPending

theorem sound_new (serde : SerdeJson) : Sound serde [] new :=
  ⟨by simp [new], by simp [new], by simp [new]⟩

/-- Every run leads to a sound pipe. -/
theorem sound_of_exec {labels : List PipeLabel}
    (hrun : Runs.exec (step serde) new labels = some s) : Sound serde (printed labels) s := by
  refine Runs.exec_induction (step serde) (motive := fun labels s =>
    Sound serde (printed labels) s) (sound_new serde) ?_ hrun
  intro labels label s t _ hsound hstep
  have hnext := hsound.step (step_cases hstep)
  rwa [← printed_append] at hnext

/-- **Completion.** In every interleaving of calls with anything the child may
print, a call returns a line only if it is a line the child printed, trimmed, that
is a JSON object whose identifier is the identifier of the call. -/
theorem completes_of_returned (serde : SerdeJson) {labels : List PipeLabel} {s : ChildPipe}
    (hrun : Runs.exec (step serde) new labels = some s) {ticket : ℕ} {send : Send} {text : String}
    (hsend : s.sends.lookup ticket = some send) (hreturned : send.phase = .returned (.ok text)) :
    Completes serde (printed labels) send.id text := by
  exact ((sound_of_exec hrun).sends ticket send hsend).result text hreturned

/-- A JSON-RPC response to the request with the identifier: an object with this
identifier, no method, and a result or an error. -/
def IsResponse (serde : SerdeJson) (id : UInt64) (text : String) : Prop :=
  ∃ members, serde.fromStr text = .ok (.object members) ∧
    ((Json.object members).get "id").bind Json.asU64 = some id ∧
    (Json.object members).get "method" = none ∧
    ((Json.object members).get "result" ≠ none ∨ (Json.object members).get "error" ≠ none)

/-- The steps of a call that the printed line completes. -/
def completedCall (body line : String) : List PipeLabel :=
  [.begin 0 body, .enqueue 0, .print line, .deliver, .receive 0]

/-- A response completes the call it answers. -/
theorem completes_of_returned_response :
    let serde := SerdeJson.ofValues [callJson 5 "query", resultJson 5]
    let line := (resultJson 5).text ++ "\n"
    Completes serde [line] 5 (resultJson 5).text := by
  intro serde line
  have hrun : ((Runs.exec (step serde) new (completedCall (callJson 5 "query").text line)).bind
      fun s => s.sends.lookup 0).map (fun send => (send.id, send.phase)) =
        some (5, .returned (.ok (resultJson 5).text)) := by decide +kernel
  obtain ⟨send, hsend, hpair⟩ := Option.map_eq_some_iff.mp hrun
  obtain ⟨s, hs, hlookup⟩ := Option.bind_eq_some_iff.mp hsend
  obtain ⟨hid, hphase⟩ : send.id = 5 ∧ send.phase = .returned (.ok (resultJson 5).text) := by
    simpa using hpair
  have hcompletes := completes_of_returned serde hs hlookup hphase
  rwa [hid] at hcompletes

/-- A request of the server's own that happens to carry the identifier of a
pending call completes that call. -/
theorem returned_server_request :
    let request := Json.object [("jsonrpc", .string "2.0"), ("id", .number (.posInt 5)),
      ("method", .string "roots/list")]
    let serde := SerdeJson.ofValues [callJson 5 "query", request]
    let line := request.text ++ "\n"
    ((Runs.exec (step serde) new (completedCall (callJson 5 "query").text line)).bind fun s =>
        s.sends.lookup 0).map (fun send => (send.id, send.phase)) =
        some (5, .returned (.ok request.text)) ∧
      ¬IsResponse serde 5 request.text := by
  intro request serde line
  refine ⟨by decide +kernel, ?_⟩
  rintro ⟨members, hparsed, -, hmethod, -⟩
  obtain rfl : [("jsonrpc", .string "2.0"), ("id", .number (.posInt 5)),
      ("method", .string "roots/list")] = members := Json.object.inj (Except.ok.inj hparsed)
  simp [Json.get, Json.lastMember] at hmethod

end ChildPipe

end SentinelGateway
