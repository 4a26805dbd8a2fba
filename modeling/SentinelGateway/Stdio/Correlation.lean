import SentinelGateway.Stdio.Requests

/-!
# Correlation of answers with calls

The sender of a call is in one place only: in the map of pending identifiers, in
the hands of the stdout reader, or gone. This decides who can be given a line, and
when the map has forgotten a call.
-/

namespace SentinelGateway.ChildPipe

variable {serde : SerdeJson} {lines : List String} {s t : ChildPipe}

/-- What `dropSender` leaves in the map. -/
theorem lookup_pending_dropSender (s : ChildPipe) (removed id : UInt64) :
    (s.dropSender removed).pending.lookup id =
      if id = removed then none else s.pending.lookup id := by
  unfold dropSender
  cases hlookup : s.pending.lookup removed with
  | none =>
    split_ifs with heq
    · rw [heq, hlookup]
    · rfl
  | some ticket =>
    split_ifs with heq
    · rw [heq, AList.lookup_erase]
    · exact AList.lookup_erase_ne heq

/-- Only the call whose sender is dropped notices. -/
theorem lookup_sends_dropSender (s : ChildPipe) (removed : UInt64) (ticket : ℕ) :
    (s.dropSender removed).sends.lookup ticket =
      if s.pending.lookup removed = some ticket then
        (s.sends.lookup ticket).map (Send.withSlot .dropped)
      else s.sends.lookup ticket := by
  unfold dropSender
  cases hlookup : s.pending.lookup removed with
  | none => simp
  | some owner =>
    rw [Table.lookup_modify]
    simp only [Option.some.injEq, eq_comm]

@[simp] theorem reader_dropSender (s : ChildPipe) (removed : UInt64) :
    (s.dropSender removed).reader = s.reader := by
  unfold dropSender
  cases s.pending.lookup removed <;> rfl

/-- Every call whose sender is in the map when it is drained notices. -/
theorem lookup_sends_drainPending (s : ChildPipe) (ticket : ℕ) :
    s.drainPending.sends.lookup ticket =
      if ticket ∈ s.pending.values then (s.sends.lookup ticket).map (Send.withSlot .dropped)
      else s.sends.lookup ticket :=
  Table.lookup_foldl_modify (f := Send.withSlot .dropped) (fun _ => rfl) s.pending.values s.sends
    ticket

/-- The sender of the call is in the map or in the hands of the reader. -/
def Holds (s : ChildPipe) (ticket : ℕ) (id : UInt64) : Prop :=
  s.pending.lookup id = some ticket ∨ ∃ line, s.reader = .delivering ticket line

/-- A call waits for its sender as long as somebody holds it, nobody holds it twice,
and the map has forgotten the calls that returned. -/
structure Owned (s : ChildPipe) : Prop where
  held : ∀ ticket send, s.sends.lookup ticket = some send →
    (send.slot = .empty ↔ s.Holds ticket send.id)
  reader : ∀ ticket line, s.reader = .delivering ticket line →
    ∀ id, s.pending.lookup id ≠ some ticket
  settled : ∀ ticket send result, s.sends.lookup ticket = some send →
    send.phase = .returned result → s.pending.lookup send.id ≠ some ticket

theorem owned_new : Owned new := ⟨by simp [new], by simp [new], by simp [new]⟩

/-- Ownership is indifferent to what waits in front of the stdin writer. -/
theorem Owned.of_stdin (h : Owned s) (queue written : List String) (stdinOpen : Bool) :
    Owned { s with queue, written, stdinOpen } :=
  ⟨h.held, h.reader, h.settled⟩

/-- A call may move on, and return once the map has forgotten it. -/
theorem Owned.advance (h : Owned s) {ticket : ℕ} {phase : SendPhase}
    (hphase : ∀ send result, s.sends.lookup ticket = some send → phase = .returned result →
      s.pending.lookup send.id ≠ some ticket) :
    Owned { s with sends := s.sends.modify ticket (Send.withPhase phase) } := by
  refine ⟨?_, h.reader, ?_⟩
  · intro other send hsend
    rw [Table.lookup_modify] at hsend
    split_ifs at hsend with heq
    · obtain ⟨before, hbefore, rfl⟩ := Option.map_eq_some_iff.mp hsend
      exact h.held other before hbefore
    · exact h.held other send hsend
  · intro other send result hsend hreturned
    rw [Table.lookup_modify] at hsend
    split_ifs at hsend with heq
    · subst heq
      obtain ⟨before, hbefore, rfl⟩ := Option.map_eq_some_iff.mp hsend
      exact hphase before result hbefore hreturned
    · exact h.settled other send result hsend hreturned

/-- A call that may receive was forgotten by the map: its sender is gone. -/
theorem Owned.forgotten (h : Owned s) {ticket : ℕ} {send : Send}
    (hsend : s.sends.lookup ticket = some send) (hslot : send.slot ≠ .empty) :
    s.pending.lookup send.id ≠ some ticket := by
  intro hpending
  exact hslot ((h.held ticket send hsend).mpr (Or.inl hpending))

/-- Whoever is in the map under an identifier has it. -/
theorem Sound.id_of_pending (h : Sound serde lines s) {id : UInt64} {ticket : ℕ} {send : Send}
    (hpending : s.pending.lookup id = some ticket)
    (hsend : s.sends.lookup ticket = some send) : send.id = id := by
  simpa [idOf, hsend] using h.pending id ticket hpending

theorem Owned.dropSender (h : Owned s) (hsound : Sound serde lines s) (removed : UInt64) :
    Owned (s.dropSender removed) := by
  refine ⟨?_, ?_, ?_⟩
  · intro ticket send hsend
    rw [lookup_sends_dropSender] at hsend
    unfold Holds
    rw [lookup_pending_dropSender, reader_dropSender]
    split_ifs at hsend with howner
    · -- the call whose sender is dropped: the map had it, so the reader does not
      obtain ⟨before, hbefore, rfl⟩ := Option.map_eq_some_iff.mp hsend
      have hid : before.id = removed := hsound.id_of_pending howner hbefore
      have hreader : ∀ line, s.reader ≠ .delivering ticket line := fun line hdelivering =>
        h.reader ticket line hdelivering removed howner
      simp [Send.withSlot, hid, hreader]
    · rw [h.held ticket send hsend, Holds]
      split_ifs with heq
      · rw [heq]
        simp [howner]
      · rfl
  · intro ticket line hreader id
    rw [reader_dropSender] at hreader
    rw [lookup_pending_dropSender]
    split_ifs
    · simp
    · exact h.reader ticket line hreader id
  · intro ticket send result hsend hreturned
    rw [lookup_pending_dropSender]
    rw [lookup_sends_dropSender] at hsend
    split_ifs with heq
    · simp
    · split_ifs at hsend with howner
      · obtain ⟨before, hbefore, rfl⟩ := Option.map_eq_some_iff.mp hsend
        exact h.settled ticket before result hbefore hreturned
      · exact h.settled ticket send result hsend hreturned

/-- A new call: the map holds its sender. -/
theorem Owned.insert (h : Owned s) (hsound : Sound serde lines s) {ticket : ℕ}
    (hfresh : s.sends.lookup ticket = none) (body : String) {id : UInt64}
    (hfree : s.pending.lookup id = none) :
    Owned { s with
      sends := s.sends.insert ticket { body, id, phase := .queuing, slot := .empty }
      pending := s.pending.insert id ticket } := by
  have hne {known : UInt64} {other : ℕ} (hpending : s.pending.lookup known = some other) :
      other ≠ ticket := by
    rintro rfl
    simpa [idOf, hfresh] using hsound.pending known other hpending
  have hpending {known : UInt64} {other : ℕ} (hother : other ≠ ticket) :
      (s.pending.insert id ticket).lookup known = some other ↔
        s.pending.lookup known = some other := by
    by_cases heq : known = id
    · subst heq
      rw [AList.lookup_insert, hfree]
      simp [hother.symm]
    · rw [AList.lookup_insert_ne heq]
  refine ⟨?_, ?_, ?_⟩
  · intro other send hsend
    by_cases heq : other = ticket
    · subst heq
      rw [AList.lookup_insert, Option.some.injEq] at hsend
      subst hsend
      simp [Holds]
    · rw [AList.lookup_insert_ne heq] at hsend
      rw [h.held other send hsend]
      exact or_congr (hpending heq).symm Iff.rfl
  · intro other line hreader known hknown
    have hother : other ≠ ticket := by
      rintro rfl
      obtain ⟨_, hid, -⟩ := hsound.reader other line hreader
      simp [idOf, hfresh] at hid
    exact h.reader other line hreader known ((hpending hother).mp hknown)
  · intro other send result hsend hreturned
    by_cases heq : other = ticket
    · subst heq
      rw [AList.lookup_insert, Option.some.injEq] at hsend
      subst hsend
      cases hreturned
    · rw [AList.lookup_insert_ne heq] at hsend
      rw [ne_eq, hpending heq]
      exact h.settled other send result hsend hreturned

/-- The reader takes a sender out of the map. -/
theorem Owned.takeUp (h : Owned s) (hsound : Sound serde lines s) {id : UInt64} {ticket : ℕ}
    (line : String) (hreading : s.reader = .reading)
    (hpending : s.pending.lookup id = some ticket) :
    Owned { s with pending := s.pending.erase id, reader := .delivering ticket line } := by
  -- no entry is left that belongs to the call
  have hgone {known : UInt64} : (s.pending.erase id).lookup known ≠ some ticket := by
    intro hknown
    have hsame : some id = some known := by
      rw [← hsound.pending id ticket hpending,
        hsound.pending known ticket (lookup_of_lookup_erase hknown)]
    obtain rfl := Option.some.inj hsame
    simp at hknown
  refine ⟨?_, ?_, ?_⟩
  · intro other send hsend
    rw [h.held other send hsend]
    simp only [Holds, hreading, reduceCtorEq, exists_false, or_false]
    by_cases heq : other = ticket
    · subst heq
      have hid : send.id = id := hsound.id_of_pending hpending hsend
      rw [hid]
      simp [hpending]
    · by_cases hid : send.id = id
      · rw [hid]
        simp [hpending, Ne.symm heq]
      · rw [AList.lookup_erase_ne hid]
        simp [Ne.symm heq]
  · intro other text hdelivering known
    obtain ⟨rfl, -⟩ : ticket = other ∧ line = text := by simpa using hdelivering
    exact hgone
  · intro other send result hsend hreturned hknown
    exact h.settled other send result hsend hreturned (lookup_of_lookup_erase hknown)

/-- The reader gives a line to the sender it holds, which is gone then. -/
theorem Owned.deliver (h : Owned s) {ticket : ℕ} {line : String}
    (hreader : s.reader = .delivering ticket line) :
    Owned
      { s with
        reader := .reading
        sends := s.sends.modify ticket (Send.withSlot (.filled line)) } := by
  refine ⟨?_, by simp, ?_⟩
  · intro other send hsend
    rw [Table.lookup_modify] at hsend
    split_ifs at hsend with heq
    · subst heq
      obtain ⟨before, hbefore, rfl⟩ := Option.map_eq_some_iff.mp hsend
      have hgone := h.reader other line hreader before.id
      simp [Holds, Send.withSlot, hgone]
    · rw [h.held other send hsend]
      simp [Holds, hreader, Ne.symm heq]
  · intro other send result hsend hreturned
    rw [Table.lookup_modify] at hsend
    split_ifs at hsend with heq
    · obtain ⟨before, hbefore, rfl⟩ := Option.map_eq_some_iff.mp hsend
      exact h.settled other before result hbefore hreturned
    · exact h.settled other send result hsend hreturned

/-- A drained map holds no sender, and the calls it held one of notice. -/
theorem slot_of_drainPending (h : Owned s) (hended : s.reader = .ended) {ticket : ℕ} {send : Send}
    (hsend : s.drainPending.sends.lookup ticket = some send) : send.slot ≠ .empty := by
  rw [lookup_sends_drainPending] at hsend
  split_ifs at hsend with hmem
  · obtain ⟨before, -, rfl⟩ := Option.map_eq_some_iff.mp hsend
    simp [Send.withSlot]
  · intro hempty
    rcases (h.held ticket send hsend).mp hempty with hpending | ⟨line, hreader⟩
    · exact hmem (Table.mem_values_of_lookup hpending)
    · simp [hended] at hreader

theorem Owned.drainPending (h : Owned s) (hended : s.reader = .ended) :
    Owned s.drainPending := by
  have hreader : s.drainPending.reader = .ended := hended
  refine ⟨?_, by simp [hreader], by simp [ChildPipe.drainPending]⟩
  intro ticket send hsend
  have hslot : send.slot ≠ .empty := slot_of_drainPending h hended hsend
  simp [hslot, Holds, hended, ChildPipe.drainPending]

/-- Every step keeps the senders in one place. -/
theorem Owned.step (h : Owned s) (hsound : Sound serde lines s) {label : PipeLabel}
    (hcase : StepCase serde s label t) : Owned t := by
  cases hcase with
  | rejected | ignored => exact h
  | begun ticket body id hmem =>
    have hfresh : (s.dropSender id).sends.lookup ticket = none := by
      rw [lookup_sends_dropSender, AList.lookup_eq_none.mpr hmem]
      simp
    have hfree : (s.dropSender id).pending.lookup id = none := by
      simp [lookup_pending_dropSender]
    exact (h.dropSender hsound id).insert (hsound.dropSender id) hfresh body hfree
  | enqueued => exact (h.advance (by simp)).of_stdin _ _ _
  | refused | timedOut => exact h.advance (by simp)
  | received ticket send _ hsend _ hslot | lost ticket send hsend _ hslot =>
    refine h.advance ?_
    intro other result hother _
    obtain rfl : send = other := by simpa [hsend] using hother
    exact h.forgotten hsend (by simp [hslot])
  | cleanedUp ticket send error hsend _ =>
    refine (h.dropSender hsound send.id).advance ?_
    intro other result hother _
    have hid : other.id = send.id := by
      have hids : idOf (s.dropSender send.id).sends ticket = some send.id := by
        rw [idOf_dropSender, idOf, hsend]
        rfl
      simpa [idOf, hother] using hids
    simp [lookup_pending_dropSender, hid]
  | wrote | closed => exact h.of_stdin _ _ _
  | takenUp line id ticket hreading _ hpending => exact h.takeUp hsound _ hreading hpending
  | delivered ticket line hreader => exact h.deliver hreader
  | outputEnded hreading =>
    refine ⟨?_, by simp, h.settled⟩
    intro ticket send hsend
    rw [h.held ticket send hsend]
    simp [Holds, hreading]
  | drained hended => exact h.drainPending hended

/-- Every run keeps the senders in one place. -/
theorem owned_of_exec {labels : List PipeLabel}
    (hrun : Runs.exec (ChildPipe.step serde) new labels = some s) : Owned s := by
  refine Runs.exec_induction (ChildPipe.step serde) (motive := fun _ s => Owned s) owned_new ?_ hrun
  intro labels label s t hexec howned hstep
  exact howned.step (sound_of_exec hexec) (step_cases hstep)

/-- The phase of the call with a ticket. -/
def phaseOf (s : ChildPipe) (ticket : ℕ) : Option SendPhase :=
  (s.sends.lookup ticket).map Send.phase

/-- Changing the slot of a call does not change its phase. -/
theorem phaseOf_modify_slot (s : ChildPipe) (changed ticket : ℕ) (slot : Slot) :
    phaseOf { s with sends := s.sends.modify changed (Send.withSlot slot) } ticket =
      s.phaseOf ticket := by
  unfold phaseOf
  rw [Table.lookup_modify]
  split_ifs
  · rw [Option.map_map]
    rfl
  · rfl

/-- What a step can do to a call. -/
inductive Evolves (s : ChildPipe) (label : PipeLabel) (ticket : ℕ) (send : Send) : Send → Prop
  | kept : Evolves s label ticket send send
  | dropped : Evolves s label ticket send (send.withSlot .dropped)
  | filled (line : String) (reader : s.reader = .delivering ticket line) :
      Evolves s label ticket send (send.withSlot (.filled line))
  | enqueued (phase : send.phase = .queuing) (label_eq : label = .enqueue ticket) :
      Evolves s label ticket send (send.withPhase .waiting)
  | refused (phase : send.phase = .queuing) :
      Evolves s label ticket send (send.withPhase (.failing .stdinClosed))
  | received (line : String) (phase : send.phase = .waiting) (slot : send.slot = .filled line) :
      Evolves s label ticket send (send.withPhase (.returned (.ok line)))
  | lost (phase : send.phase = .waiting) (slot : send.slot = .dropped) :
      Evolves s label ticket send
        (send.withPhase (.returned (.error (.processExited "response channel dropped"))))
  | timedOut (phase : send.phase = .waiting) (slot : send.slot = .empty) :
      Evolves s label ticket send
        (send.withPhase (.failing (.invalidResponse "request timed out")))
  | cleanedUp (error : BackendError) (slot : Slot) (phase : send.phase = .failing error)
      (slot_eq : slot = send.slot ∨ slot = .dropped) :
      Evolves s label ticket send ((send.withSlot slot).withPhase (.returned (.error error)))

/-- The calls that a change concerns evolve as it says, the others are kept. -/
theorem evolves_modify {sends : Table ℕ Send} {label : PipeLabel} {changed ticket : ℕ}
    {send : Send} {f : Send → Send} (hsend : sends.lookup ticket = some send)
    (hchanged : ticket = changed → Evolves s label ticket send (f send)) :
    ∃ next, (sends.modify changed f).lookup ticket = some next ∧
      Evolves s label ticket send next := by
  rw [Table.lookup_modify, hsend]
  split_ifs with heq
  · exact ⟨f send, rfl, hchanged heq⟩
  · exact ⟨send, rfl, .kept⟩

/-- A call that was found evolves, the others are kept. -/
theorem evolves_found {sends : Table ℕ Send} {label : PipeLabel} {found ticket : ℕ}
    {send other : Send} {f : Send → Send} (hsend : sends.lookup ticket = some send)
    (hother : sends.lookup found = some other)
    (hevolves : Evolves s label found other (f other)) :
    ∃ next, (sends.modify found f).lookup ticket = some next ∧
      Evolves s label ticket send next := by
  refine evolves_modify hsend ?_
  rintro rfl
  obtain rfl : other = send := Option.some.inj (hother.symm.trans hsend)
  exact hevolves

/-- **One call, one step.** A step takes every call to what it may become. -/
theorem exists_evolves {label : PipeLabel} (hcase : StepCase serde s label t) {ticket : ℕ}
    {send : Send} (hsend : s.sends.lookup ticket = some send) :
    ∃ next, t.sends.lookup ticket = some next ∧ Evolves s label ticket send next := by
  cases hcase with
  | rejected | ignored | wrote | closed | takenUp | outputEnded => exact ⟨send, hsend, .kept⟩
  | begun moved body id hmem =>
    have hother : ticket ≠ moved := by
      rintro rfl
      simp [AList.lookup_eq_none.mpr hmem] at hsend
    rw [AList.lookup_insert_ne hother, lookup_sends_dropSender, hsend]
    split_ifs
    · exact ⟨_, rfl, .dropped⟩
    · exact ⟨_, rfl, .kept⟩
  | enqueued moved other hother hphase => exact evolves_found hsend hother (.enqueued hphase rfl)
  | refused moved other hother hphase => exact evolves_found hsend hother (.refused hphase)
  | received moved other line hother hphase hslot =>
    exact evolves_found hsend hother (.received line hphase hslot)
  | lost moved other hother hphase hslot => exact evolves_found hsend hother (.lost hphase hslot)
  | timedOut moved other hother hphase hslot =>
    exact evolves_found hsend hother (.timedOut hphase hslot)
  | cleanedUp moved other error hother hphase =>
    rw [Table.lookup_modify, lookup_sends_dropSender, hsend]
    by_cases heq : ticket = moved
    · subst heq
      obtain rfl : other = send := Option.some.inj (hother.symm.trans hsend)
      rw [if_pos rfl]
      split_ifs
      · exact ⟨_, rfl, .cleanedUp error .dropped hphase (.inr rfl)⟩
      · exact ⟨_, rfl, .cleanedUp error other.slot hphase (.inl rfl)⟩
    · rw [if_neg heq]
      split_ifs
      · exact ⟨_, rfl, .dropped⟩
      · exact ⟨_, rfl, .kept⟩
  | delivered moved line hreader =>
    refine evolves_modify hsend fun heq => ?_
    subst heq
    exact .filled line hreader
  | drained =>
    rw [lookup_sends_drainPending, hsend]
    split_ifs
    · exact ⟨_, rfl, .dropped⟩
    · exact ⟨_, rfl, .kept⟩

/-- A call that returned stays as it is. -/
theorem phaseOf_step_of_returned {label : PipeLabel} (hcase : StepCase serde s label t)
    {ticket : ℕ} {result : Except BackendError String}
    (hreturned : s.phaseOf ticket = some (.returned result)) :
    t.phaseOf ticket = some (.returned result) := by
  obtain ⟨send, hsend, hphase⟩ := Option.map_eq_some_iff.mp hreturned
  obtain ⟨next, hnext, hevolves⟩ := exists_evolves hcase hsend
  rw [phaseOf, hnext, Option.map_some, Option.some.injEq]
  cases hevolves with
  | kept | dropped | filled => exact hphase
  | enqueued hother | refused hother | received _ hother | lost hother | timedOut hother
  | cleanedUp _ _ hother => cases hother.symm.trans hphase

/-- A call returns once: what it returned stays whatever happens. -/
theorem phaseOf_exec_of_returned {more : List PipeLabel}
    (hmore : Runs.exec (ChildPipe.step serde) s more = some t) {ticket : ℕ}
    {result : Except BackendError String}
    (hreturned : s.phaseOf ticket = some (.returned result)) :
    t.phaseOf ticket = some (.returned result) := by
  refine Runs.exec_induction (ChildPipe.step serde) (motive := fun _ t =>
    t.phaseOf ticket = some (.returned result)) hreturned ?_ hmore
  intro labels label s t _ hkept hstep
  exact phaseOf_step_of_returned (step_cases hstep) hkept

/-- No two of the calls made so far have the same identifier. -/
def DistinctIds (s : ChildPipe) : Prop := (s.sends.values.map Send.id).Nodup

instance (s : ChildPipe) : Decidable s.DistinctIds :=
  inferInstanceAs (Decidable (s.sends.values.map Send.id).Nodup)

theorem DistinctIds.eq (h : s.DistinctIds) {ticket other : ℕ} {send send' : Send}
    (hsend : s.sends.lookup ticket = some send) (hother : s.sends.lookup other = some send')
    (hid : send.id = send'.id) : ticket = other :=
  Table.key_eq_of_nodup h hsend hother hid

/-- Answers and calls belong together in a state that a run leads to. -/
structure Correlated (serde : SerdeJson) (labels : List PipeLabel) (s : ChildPipe) : Prop where
  /-- A call returns at most one result. -/
  once : ∀ more t ticket result, Runs.exec (step serde) s more = some t →
    s.phaseOf ticket = some (.returned result) → t.phaseOf ticket = some (.returned result)
  /-- A line that a call returns was printed by the child and has the call's identifier. -/
  own : ∀ ticket send text, s.sends.lookup ticket = some send →
    send.phase = .returned (.ok text) → Completes serde (printed labels) send.id text
  /-- No line is returned to two calls. -/
  unshared : ∀ ticket other text, s.phaseOf ticket = some (.returned (.ok text)) →
    s.phaseOf other = some (.returned (.ok text)) → ticket = other
  /-- The reader drops a line with the identifier of a call that returned. -/
  ignored : ∀ ticket send result line t, s.sends.lookup ticket = some send →
    send.phase = .returned result → lineId serde line = some send.id →
    s.step serde (.print line) = some t → t = s
  /-- A line the reader took up before its call returned reaches nobody either. -/
  late : ∀ ticket result line t, s.phaseOf ticket = some (.returned result) →
    s.reader = .delivering ticket line → s.step serde .deliver = some t →
    t.phaseOf = s.phaseOf ∧ ∀ other, other ≠ ticket → t.sends.lookup other = s.sends.lookup other
  /-- The map has forgotten the identifier of a call that returned. -/
  forgotten : ∀ ticket send result, s.sends.lookup ticket = some send →
    send.phase = .returned result → s.pending.lookup send.id = none

/-- With distinct identifiers, the map has no entry left for a call that returned. -/
theorem lookup_pending_of_returned (hsound : Sound serde lines s) (howned : Owned s)
    (hdistinct : s.DistinctIds) {ticket : ℕ} {send : Send} {result : Except BackendError String}
    (hsend : s.sends.lookup ticket = some send) (hreturned : send.phase = .returned result) :
    s.pending.lookup send.id = none := by
  cases hpending : s.pending.lookup send.id with
  | none => rfl
  | some owner =>
    obtain ⟨other, hother, hid⟩ := Option.map_eq_some_iff.mp (hsound.pending send.id owner hpending)
    obtain rfl : owner = ticket := hdistinct.eq hother hsend hid
    exact absurd hpending (howned.settled owner send result hsend hreturned)

/-- An identifier is one call's only, so what completes two calls completes one. -/
theorem eq_of_completes (hdistinct : s.DistinctIds) {ticket other : ℕ} {send send' : Send}
    {text : String} (hsend : s.sends.lookup ticket = some send)
    (hother : s.sends.lookup other = some send') (h : Completes serde lines send.id text)
    (h' : Completes serde lines send'.id text) : ticket = other := by
  obtain ⟨members, hparsed, hid⟩ := h.is_object
  obtain ⟨members', hparsed', hid'⟩ := h'.is_object
  obtain rfl : members = members' := by
    rw [hparsed] at hparsed'
    exact Json.object.inj (Except.ok.inj hparsed')
  rw [hid] at hid'
  exact hdistinct.eq hsend hother (Option.some.inj hid')

/-- **Correlation.** However the steps of any number of calls with distinct
identifiers interleave with the child's output, timeouts, the end of stdin and
draining, every answer goes to the one call it belongs to, once, and a call that
returned is forgotten. -/
theorem correlated (serde : SerdeJson) {labels : List PipeLabel} {s : ChildPipe}
    (hrun : Runs.exec (step serde) new labels = some s) (hdistinct : s.DistinctIds) :
    Correlated serde labels s := by
  have hsound := sound_of_exec hrun
  have howned := owned_of_exec hrun
  refine ⟨?_, ?_, ?_, ?_, ?_, ?_⟩
  · intro more t ticket result hmore hreturned
    exact phaseOf_exec_of_returned hmore hreturned
  · intro ticket send text hsend hreturned
    exact (hsound.sends ticket send hsend).result text hreturned
  · intro ticket other text hreturned hreturned'
    obtain ⟨send, hsend, hphase⟩ := Option.map_eq_some_iff.mp hreturned
    obtain ⟨send', hsend', hphase'⟩ := Option.map_eq_some_iff.mp hreturned'
    exact eq_of_completes hdistinct hsend hsend'
      ((hsound.sends ticket send hsend).result text hphase)
      ((hsound.sends other send' hsend').result text hphase')
  · intro ticket send result line t hsend hreturned hid hstep
    have hpending := lookup_pending_of_returned hsound howned hdistinct hsend hreturned
    cases step_cases hstep with
    | ignored => rfl
    | takenUp _ id owner _ hline htaken =>
      obtain rfl : send.id = id := by simpa [hid] using hline
      simp [hpending] at htaken
  · intro ticket result line t hreturned hreader hstep
    cases step_cases hstep with
    | delivered owner text hdelivering =>
      obtain ⟨rfl, rfl⟩ : ticket = owner ∧ line = text := by simpa [hreader] using hdelivering
      refine ⟨?_, ?_⟩
      · funext other
        exact phaseOf_modify_slot s ticket other (.filled line)
      · intro other hother
        exact Table.lookup_modify_of_ne _ hother _
  · intro ticket send result hsend hreturned
    exact lookup_pending_of_returned hsound howned hdistinct hsend hreturned

/-- Two calls at once: the second is answered, the first times out while its answer
is on the way, and another answer to it comes too late. -/
theorem correlated_two_calls :
    let serde := SerdeJson.ofValues
      [callJson 5 "query", callJson 6 "query", resultJson 5, resultJson 6]
    let first := (resultJson 5).text ++ "\n"
    let second := (resultJson 6).text ++ "\n"
    let labels : List PipeLabel :=
      [.begin 0 (callJson 5 "query").text, .begin 1 (callJson 6 "query").text, .enqueue 1,
        .enqueue 0, .print second, .deliver, .receive 1, .print first, .timeOut 0, .cleanUp 0,
        .deliver, .print first]
    ∃ s, Runs.exec (step serde) new labels = some s ∧ s.DistinctIds ∧
      s.phaseOf 0 = some (.returned (.error (.invalidResponse "request timed out"))) ∧
      s.phaseOf 1 = some (.returned (.ok (resultJson 6).text)) ∧ Correlated serde labels s := by
  intro serde first second labels
  have hrun : (Runs.exec (step serde) new labels).map (fun s =>
      (decide s.DistinctIds, s.phaseOf 0, s.phaseOf 1)) =
        some (true, some (.returned (.error (.invalidResponse "request timed out"))),
          some (.returned (.ok (resultJson 6).text))) := by decide +kernel
  obtain ⟨s, hs, hobserved⟩ := Option.map_eq_some_iff.mp hrun
  simp only [Prod.mk.injEq, decide_eq_true_eq] at hobserved
  obtain ⟨hdistinct, hfirst, hsecond⟩ := hobserved
  exact ⟨s, hs, hdistinct, hfirst, hsecond, correlated serde hs hdistinct⟩

end SentinelGateway.ChildPipe
