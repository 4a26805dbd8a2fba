import SentinelGateway.Library.Runs
import SentinelGateway.Protocol.IdRemapper
import Mathlib.Data.Set.Card

/-!
# The remapper between threads

`remap` is not atomic: it draws an identifier from the counter, and takes the lock
to enter it only afterwards. Other threads may draw, enter and restore identifiers
in between. Whatever the interleaving, the table holds exactly the identifiers that
were entered and not yet restored, each with the arguments of the call that drew it.
-/

namespace SentinelGateway

/-- A call of `remap` that has drawn its identifier. -/
structure RemapCall where
  gatewayId : UInt64
  originalId : JsonRpcId
  backend : String

/-- A remapper that threads share. A thread is in flight from its `fetch_add` until
its entry is in the table. -/
structure SharedRemapper where
  remapper : IdRemapper
  inFlight : Table ℕ RemapCall

/-- What a thread does next. -/
inductive RemapStep where
  | fetchAdd (thread : ℕ) (originalId : JsonRpcId) (backend : String)
  | insert (thread : ℕ)
  | restore (gatewayId : UInt64)
  | pendingCount

/-- What is seen of a step. With `inserted` the call of `remap` returns. A step that
the thread cannot take is `blocked`. -/
inductive RemapEvent where
  | fetched (thread : ℕ) (call : RemapCall)
  | inserted (thread : ℕ) (gatewayId : UInt64)
  | restored (gatewayId : UInt64) (result : Option (JsonRpcId × String))
  | counted (n : ℕ)
  | blocked

namespace RemapEvent

/-- The calls of `remap` that have drawn their identifiers, with their threads. -/
def calls (trace : List RemapEvent) : List (ℕ × RemapCall) :=
  trace.filterMap fun
    | .fetched thread call => some (thread, call)
    | _ => none

/-- The identifiers drawn from the counter. -/
def drawn (trace : List RemapEvent) : List UInt64 :=
  (calls trace).map fun call => call.2.gatewayId

/-- The identifiers returned by `remap`. -/
def returned (trace : List RemapEvent) : List UInt64 :=
  trace.filterMap fun
    | .inserted _ gatewayId => some gatewayId
    | _ => none

/-- The thread has entered the identifier, and nobody has restored it since. -/
def Outstanding (trace : List RemapEvent) (thread : ℕ) (gatewayId : UInt64) : Prop :=
  ∃ earlier later, trace = earlier ++ .inserted thread gatewayId :: later ∧
    ∀ result, .restored gatewayId result ∉ later

end RemapEvent

namespace SharedRemapper

open RemapEvent

def new : SharedRemapper := { remapper := .new, inFlight := ∅ }

/-- One step of one thread. -/
def step (s : SharedRemapper) : RemapStep → SharedRemapper × RemapEvent
  | .fetchAdd thread originalId backend =>
    match s.inFlight.lookup thread with
    | some _ => (s, .blocked)
    | none =>
      let call := { gatewayId := s.remapper.counter, originalId, backend }
      ({ remapper := { s.remapper with counter := s.remapper.counter + 1 }
         inFlight := s.inFlight.insert thread call }, .fetched thread call)
  | .insert thread =>
    match s.inFlight.lookup thread with
    | none => (s, .blocked)
    | some call =>
      ({ remapper :=
           { s.remapper with
             mappings := s.remapper.mappings.insert call.gatewayId
               (call.originalId, call.backend) }
         inFlight := s.inFlight.erase thread }, .inserted thread call.gatewayId)
  | .restore gatewayId =>
    ({ s with remapper := (s.remapper.restore gatewayId).1 },
      .restored gatewayId (s.remapper.restore gatewayId).2)
  | .pendingCount => (s, .counted s.remapper.pendingCount)

/-- The remapper after the given steps. -/
def after (steps : List RemapStep) : SharedRemapper := Runs.after step new steps

/-- What is seen of the given steps. -/
def trace (steps : List RemapStep) : List RemapEvent := Runs.outputs step new steps

/-- The two steps of a call that no other thread interrupts are `IdRemapper::remap`. -/
theorem step_fetchAdd_insert {s : SharedRemapper} {thread : ℕ} (hidle : thread ∉ s.inFlight)
    (originalId : JsonRpcId) (backend : String) :
    Runs.after step s [.fetchAdd thread originalId backend, .insert thread] =
      { s with remapper := (s.remapper.remap originalId backend).1 } := by
  have hnone : s.inFlight.lookup thread = none := AList.lookup_eq_none.mpr hidle
  simp [step, hnone, IdRemapper.remap, Table.erase_insert_self hidle]

end SharedRemapper

namespace RemapEvent

variable {trace : List RemapEvent} {thread : ℕ} {gatewayId : UInt64}

theorem Outstanding.inserted_mem (h : Outstanding trace thread gatewayId) :
    .inserted thread gatewayId ∈ trace := by
  obtain ⟨earlier, later, rfl, -⟩ := h
  simp

/-- What one more event leaves outstanding. -/
theorem outstanding_concat (event : RemapEvent) :
    Outstanding (trace ++ [event]) thread gatewayId ↔
      event = .inserted thread gatewayId ∨
        Outstanding trace thread gatewayId ∧ ∀ result, event ≠ .restored gatewayId result := by
  constructor
  · rintro ⟨earlier, later, hsplit, hlater⟩
    rcases List.eq_nil_or_concat later with rfl | ⟨later, last, rfl⟩
    · obtain ⟨-, hlast⟩ := List.append_inj' hsplit rfl
      exact .inl (List.singleton_injective hlast)
    · rw [List.concat_eq_append, ← List.cons_append, ← List.append_assoc] at hsplit
      obtain ⟨htrace, hlast⟩ := List.append_inj' hsplit rfl
      obtain rfl : event = last := List.singleton_injective hlast
      refine .inr ⟨⟨earlier, later, htrace, ?_⟩, ?_⟩
      · intro result hmem
        exact hlater result (by simp [hmem])
      · rintro result rfl
        exact hlater result (by simp)
  · rintro (rfl | ⟨⟨earlier, later, rfl, hlater⟩, hevent⟩)
    · exact ⟨trace, [], rfl, by simp⟩
    · refine ⟨earlier, later ++ [event], by simp, ?_⟩
      intro result hmem
      rcases List.mem_append.mp hmem with hearlier | hlast
      · exact hlater result hearlier
      · exact hevent result (List.mem_singleton.mp hlast).symm

theorem drawn_append (first second : List RemapEvent) :
    drawn (first ++ second) = drawn first ++ drawn second := by
  rw [drawn, calls, List.filterMap_append, List.map_append]
  rfl

theorem returned_append (first second : List RemapEvent) :
    returned (first ++ second) = returned first ++ returned second :=
  List.filterMap_append

theorem mem_calls_iff {call : RemapCall} :
    (thread, call) ∈ calls trace ↔ .fetched thread call ∈ trace := by
  rw [calls, List.mem_filterMap]
  constructor
  · rintro ⟨event, hmem, hevent⟩
    cases event with
    | fetched thread' call' =>
      obtain ⟨rfl, rfl⟩ := Prod.mk.inj (Option.some.inj hevent)
      exact hmem
    | inserted _ _ => cases hevent
    | restored _ _ => cases hevent
    | counted _ => cases hevent
    | blocked => cases hevent
  · intro hmem
    exact ⟨_, hmem, rfl⟩

theorem mem_returned_iff :
    gatewayId ∈ returned trace ↔ ∃ thread, .inserted thread gatewayId ∈ trace := by
  rw [returned, List.mem_filterMap]
  constructor
  · rintro ⟨event, hmem, hevent⟩
    cases event with
    | inserted thread' id =>
      obtain rfl := Option.some.inj hevent
      exact ⟨thread', hmem⟩
    | fetched _ _ => cases hevent
    | restored _ _ => cases hevent
    | counted _ => cases hevent
    | blocked => cases hevent
  · rintro ⟨thread', hmem⟩
    exact ⟨_, hmem, rfl⟩

/-- An identifier that is drawn only once belongs to one call of one thread. -/
theorem eq_of_gatewayId_eq {thread' : ℕ} {call call' : RemapCall} (hnodup : (drawn trace).Nodup)
    (h : .fetched thread call ∈ trace) (h' : .fetched thread' call' ∈ trace)
    (heq : call.gatewayId = call'.gatewayId) : thread = thread' ∧ call = call' :=
  Prod.mk.inj (List.inj_on_of_nodup_map hnodup (mem_calls_iff.mpr h) (mem_calls_iff.mpr h') heq)

end RemapEvent

namespace SharedRemapper

open RemapEvent

/-- What a step may do: draw an identifier, enter one, remove one, or nothing. -/
inductive StepCase (s : SharedRemapper) : SharedRemapper → RemapEvent → Prop where
  | fetched (thread : ℕ) (call : RemapCall) (hid : call.gatewayId = s.remapper.counter) :
    StepCase s
      { remapper := { s.remapper with counter := s.remapper.counter + 1 }
        inFlight := s.inFlight.insert thread call }
      (.fetched thread call)
  | inserted (thread : ℕ) (call : RemapCall) (hcall : s.inFlight.lookup thread = some call) :
    StepCase s
      { remapper :=
          { s.remapper with
            mappings := s.remapper.mappings.insert call.gatewayId
              (call.originalId, call.backend) }
        inFlight := s.inFlight.erase thread }
      (.inserted thread call.gatewayId)
  | restored (gatewayId : UInt64) :
    StepCase s { s with remapper := (s.remapper.restore gatewayId).1 }
      (.restored gatewayId (s.remapper.restore gatewayId).2)
  | quiet (event : RemapEvent) (hquiet : event = .blocked ∨ ∃ n, event = .counted n) :
    StepCase s s event

theorem step_cases (s : SharedRemapper) (act : RemapStep) :
    StepCase s (s.step act).1 (s.step act).2 := by
  cases act with
  | fetchAdd thread originalId backend =>
    cases hcall : s.inFlight.lookup thread with
    | none =>
      simp only [step, hcall]
      exact .fetched thread { gatewayId := s.remapper.counter, originalId, backend } rfl
    | some call =>
      simp only [step, hcall]
      exact .quiet _ (.inl rfl)
  | insert thread =>
    cases hcall : s.inFlight.lookup thread with
    | none =>
      simp only [step, hcall]
      exact .quiet _ (.inl rfl)
    | some call =>
      simp only [step, hcall]
      exact .inserted thread call hcall
  | restore gatewayId => exact .restored gatewayId
  | pendingCount => exact .quiet _ (.inr ⟨_, rfl⟩)

/-- The identifiers drawn from the counter are numbered from one on. -/
structure Numbered (counter : UInt64) (drawn : List UInt64) : Prop where
  counter_eq : counter = UInt64.ofNat (drawn.length + 1)
  drawn_eq : drawn = (List.range drawn.length).map fun i => UInt64.ofNat (i + 1)

theorem Numbered.concat {counter : UInt64} {drawn : List UInt64} (h : Numbered counter drawn) :
    Numbered (counter + 1) (drawn ++ [counter]) := by
  constructor
  · rw [List.length_append, List.length_singleton, h.counter_eq]
    exact (UInt64.ofNat_add _ 1).symm
  · rw [List.length_append, List.length_singleton, List.range_succ, List.map_append,
      ← h.drawn_eq, List.map_singleton, ← h.counter_eq]

/-- Fewer than `2 ^ 64` identifiers are pairwise different. -/
theorem Numbered.nodup {counter : UInt64} {drawn : List UInt64} (h : Numbered counter drawn)
    (hfew : drawn.length < 2 ^ 64) : drawn.Nodup := by
  rw [h.drawn_eq]
  apply List.Nodup.map_on _ List.nodup_range
  intro i hi j hj heq
  have hi := List.mem_range.mp hi
  have hj := List.mem_range.mp hj
  have hNat := congrArg UInt64.toNat heq
  rw [UInt64.toNat_ofNat_of_lt' (by rw [UInt64.size]; omega),
    UInt64.toNat_ofNat_of_lt' (by rw [UInt64.size]; omega)] at hNat
  omega

/-- A step draws the next identifier or leaves the counter alone. -/
theorem StepCase.numbered {s t : SharedRemapper} {trace : List RemapEvent} {event : RemapEvent}
    (hcase : StepCase s t event) (h : Numbered s.remapper.counter (drawn trace)) :
    Numbered t.remapper.counter (drawn (trace ++ [event])) := by
  have hkeep (hnone : drawn [event] = []) :
      Numbered s.remapper.counter (drawn trace ++ drawn [event]) := by
    rwa [hnone, List.append_nil]
  rw [drawn_append]
  cases hcase with
  | fetched thread call hid =>
    have hdrawn : drawn [.fetched thread call] = [s.remapper.counter] := by
      rw [← hid]
      rfl
    rw [hdrawn]
    exact h.concat
  | inserted thread call hcall => exact hkeep rfl
  | restored gatewayId => exact hkeep rfl
  | quiet event hquiet =>
    rcases hquiet with rfl | ⟨n, rfl⟩
    · exact hkeep rfl
    · exact hkeep rfl

theorem numbered_trace (steps : List RemapStep) :
    Numbered (after steps).remapper.counter (drawn (trace steps)) := by
  unfold after trace
  apply Runs.run_induction step
    (motive := fun _ s trace => Numbered s.remapper.counter (drawn trace))
  · exact ⟨rfl, rfl⟩
  · intro steps act ih
    exact (step_cases _ act).numbered ih

/-- What the threads have done and what the table holds agree. -/
structure Consistent (s : SharedRemapper) (trace : List RemapEvent) : Prop where
  fetched_of_inFlight : ∀ thread call, s.inFlight.lookup thread = some call →
    .fetched thread call ∈ trace
  notMem_of_inFlight : ∀ thread call, s.inFlight.lookup thread = some call →
    call.gatewayId ∉ returned trace
  fetched_of_inserted : ∀ thread gatewayId, .inserted thread gatewayId ∈ trace →
    ∃ call, .fetched thread call ∈ trace ∧ call.gatewayId = gatewayId
  returned_nodup : (returned trace).Nodup
  lookup_eq_some_iff : ∀ gatewayId originalId backend,
    s.remapper.mappings.lookup gatewayId = some (originalId, backend) ↔
      ∃ thread, .fetched thread { gatewayId, originalId, backend } ∈ trace ∧
        Outstanding trace thread gatewayId

namespace Consistent

variable {s : SharedRemapper} {trace : List RemapEvent}

/-- A returned identifier was drawn. -/
theorem mem_drawn (h : Consistent s trace) {thread : ℕ} {gatewayId : UInt64}
    (hinserted : .inserted thread gatewayId ∈ trace) : gatewayId ∈ drawn trace := by
  obtain ⟨call, hcall, rfl⟩ := h.fetched_of_inserted thread gatewayId hinserted
  exact List.mem_map_of_mem (f := fun call : ℕ × RemapCall => call.2.gatewayId)
    (mem_calls_iff.mpr hcall)

/-- A call that draws a new identifier leaves the entries and what is outstanding. -/
theorem lookup_iff_of_fetched (h : Consistent s trace) (thread : ℕ) {call : RemapCall}
    (hfresh : call.gatewayId ∉ drawn trace) (gatewayId : UInt64) (originalId : JsonRpcId)
    (backend : String) :
    s.remapper.mappings.lookup gatewayId = some (originalId, backend) ↔
      ∃ thread', .fetched thread' { gatewayId, originalId, backend } ∈
          trace ++ [.fetched thread call] ∧
        Outstanding (trace ++ [.fetched thread call]) thread' gatewayId := by
  have houtstanding (thread' : ℕ) :
      Outstanding (trace ++ [.fetched thread call]) thread' gatewayId ↔
        Outstanding trace thread' gatewayId := by
    rw [outstanding_concat]
    simp
  rw [h.lookup_eq_some_iff]
  apply exists_congr
  intro thread'
  rw [houtstanding]
  apply and_congr_left
  intro hout
  constructor
  · intro hmem
    exact List.mem_append_left _ hmem
  · intro hmem
    rcases List.mem_append.mp hmem with hearlier | hlast
    · exact hearlier
    · obtain ⟨-, hcall⟩ : thread' = thread ∧ _ = call := by simpa using hlast
      exact absurd (hcall ▸ h.mem_drawn hout.inserted_mem) hfresh

/-- Drawing an identifier that was not drawn before. -/
theorem fetched (h : Consistent s trace) (thread : ℕ) {call : RemapCall}
    (hfresh : call.gatewayId ∉ drawn trace) (counter : UInt64) :
    Consistent
      { remapper := { s.remapper with counter }, inFlight := s.inFlight.insert thread call }
      (trace ++ [.fetched thread call]) := by
  have hreturned : returned (trace ++ [.fetched thread call]) = returned trace := by
    rw [returned_append]
    exact List.append_nil _
  refine ⟨?_, ?_, ?_, ?_, h.lookup_iff_of_fetched thread hfresh⟩
  · intro thread' call' hlookup
    by_cases heq : thread' = thread
    · subst heq
      rw [AList.lookup_insert] at hlookup
      obtain rfl := Option.some.inj hlookup
      simp
    · rw [AList.lookup_insert_ne heq] at hlookup
      exact List.mem_append_left _ (h.fetched_of_inFlight thread' call' hlookup)
  · intro thread' call' hlookup
    rw [hreturned]
    by_cases heq : thread' = thread
    · subst heq
      rw [AList.lookup_insert] at hlookup
      obtain rfl := Option.some.inj hlookup
      intro hmem
      obtain ⟨thread'', hinserted⟩ := mem_returned_iff.mp hmem
      exact hfresh (h.mem_drawn hinserted)
    · rw [AList.lookup_insert_ne heq] at hlookup
      exact h.notMem_of_inFlight thread' call' hlookup
  · intro thread' gatewayId hinserted
    have hearlier : .inserted thread' gatewayId ∈ trace := by simpa using hinserted
    obtain ⟨call', hcall', hid⟩ := h.fetched_of_inserted thread' gatewayId hearlier
    exact ⟨call', List.mem_append_left _ hcall', hid⟩
  · rw [hreturned]
    exact h.returned_nodup

/-- The call that enters its identifier is the one whose arguments are found under it. -/
theorem lookup_iff_of_inserted (h : Consistent s trace) (hnodup : (drawn trace).Nodup)
    {thread : ℕ} {call : RemapCall} (hfetched : .fetched thread call ∈ trace)
    (gatewayId : UInt64) (originalId : JsonRpcId) (backend : String) :
    (s.remapper.mappings.insert call.gatewayId (call.originalId, call.backend)).lookup gatewayId =
        some (originalId, backend) ↔
      ∃ thread', .fetched thread' { gatewayId, originalId, backend } ∈
          trace ++ [.inserted thread call.gatewayId] ∧
        Outstanding (trace ++ [.inserted thread call.gatewayId]) thread' gatewayId := by
  have hmem (thread' : ℕ) :
      .fetched thread' { gatewayId, originalId, backend } ∈
          trace ++ [.inserted thread call.gatewayId] ↔
        .fetched thread' { gatewayId, originalId, backend } ∈ trace := by
    simp
  simp only [hmem, outstanding_concat]
  by_cases heq : gatewayId = call.gatewayId
  · subst heq
    rw [AList.lookup_insert]
    constructor
    · intro hentry
      obtain ⟨rfl, rfl⟩ := Prod.mk.inj (Option.some.inj hentry)
      exact ⟨thread, hfetched, .inl rfl⟩
    · rintro ⟨thread', hfetched', -⟩
      obtain ⟨-, hsame⟩ := eq_of_gatewayId_eq hnodup hfetched hfetched' rfl
      rw [hsame]
  · rw [AList.lookup_insert_ne heq, h.lookup_eq_some_iff]
    have hevent (thread' : ℕ) :
        RemapEvent.inserted thread call.gatewayId ≠ .inserted thread' gatewayId := by
      intro hsame
      injection hsame with _ hid
      exact heq hid.symm
    simp [hevent]

/-- Entering the identifier that a thread has drawn. -/
theorem inserted (h : Consistent s trace) (hnodup : (drawn trace).Nodup) {thread : ℕ}
    {call : RemapCall} (hcall : s.inFlight.lookup thread = some call) :
    Consistent
      { remapper :=
          { s.remapper with
            mappings := s.remapper.mappings.insert call.gatewayId
              (call.originalId, call.backend) }
        inFlight := s.inFlight.erase thread }
      (trace ++ [.inserted thread call.gatewayId]) := by
  have hfetched := h.fetched_of_inFlight thread call hcall
  have hreturned : returned (trace ++ [.inserted thread call.gatewayId]) =
      returned trace ++ [call.gatewayId] :=
    returned_append trace _
  have herase {thread' : ℕ} {call' : RemapCall}
      (hlookup : (s.inFlight.erase thread).lookup thread' = some call') :
      thread' ≠ thread ∧ s.inFlight.lookup thread' = some call' := by
    by_cases heq : thread' = thread
    · subst heq
      rw [AList.lookup_erase] at hlookup
      cases hlookup
    · rw [AList.lookup_erase_ne heq] at hlookup
      exact ⟨heq, hlookup⟩
  refine ⟨?_, ?_, ?_, ?_, h.lookup_iff_of_inserted hnodup hfetched⟩
  · intro thread' call' hlookup
    exact List.mem_append_left _ (h.fetched_of_inFlight thread' call' (herase hlookup).2)
  · intro thread' call' hlookup
    obtain ⟨hne, hlookup⟩ := herase hlookup
    rw [hreturned, List.mem_append, List.mem_singleton, not_or]
    refine ⟨h.notMem_of_inFlight thread' call' hlookup, ?_⟩
    intro heq
    exact hne (eq_of_gatewayId_eq hnodup (h.fetched_of_inFlight thread' call' hlookup) hfetched
      heq).1
  · intro thread' gatewayId hinserted
    rcases List.mem_append.mp hinserted with hearlier | hlast
    · obtain ⟨call', hcall', hid⟩ := h.fetched_of_inserted thread' gatewayId hearlier
      exact ⟨call', List.mem_append_left _ hcall', hid⟩
    · obtain ⟨rfl, rfl⟩ : thread' = thread ∧ gatewayId = call.gatewayId := by simpa using hlast
      exact ⟨call, List.mem_append_left _ hfetched, rfl⟩
  · rw [hreturned, ← List.concat_eq_append]
    exact h.returned_nodup.concat (h.notMem_of_inFlight thread call hcall)

/-- A step that neither draws nor enters an identifier. -/
theorem of_silent {t : SharedRemapper} {event : RemapEvent} (h : Consistent s trace)
    (hinFlight : t.inFlight = s.inFlight) (hfetched : ∀ thread call, event ≠ .fetched thread call)
    (hinserted : ∀ thread gatewayId, event ≠ .inserted thread gatewayId)
    (hlookup : ∀ gatewayId entry, t.remapper.mappings.lookup gatewayId = some entry ↔
      s.remapper.mappings.lookup gatewayId = some entry ∧
        ∀ result, event ≠ .restored gatewayId result) :
    Consistent t (trace ++ [event]) := by
  have hmem {other : RemapEvent} (hne : event ≠ other) :
      other ∈ trace ++ [event] ↔ other ∈ trace := by
    rw [List.mem_append, List.mem_singleton]
    exact or_iff_left hne.symm
  have hreturned : returned (trace ++ [event]) = returned trace := by
    rw [returned_append]
    cases event with
    | inserted thread gatewayId => exact absurd rfl (hinserted thread gatewayId)
    | fetched _ _ => exact List.append_nil _
    | restored _ _ => exact List.append_nil _
    | counted _ => exact List.append_nil _
    | blocked => exact List.append_nil _
  refine ⟨?_, ?_, ?_, ?_, ?_⟩
  · intro thread call hcall
    rw [hinFlight] at hcall
    exact List.mem_append_left _ (h.fetched_of_inFlight thread call hcall)
  · intro thread call hcall
    rw [hinFlight] at hcall
    rw [hreturned]
    exact h.notMem_of_inFlight thread call hcall
  · intro thread gatewayId hmember
    obtain ⟨call, hcall, hid⟩ :=
      h.fetched_of_inserted thread gatewayId ((hmem (hinserted _ _)).mp hmember)
    exact ⟨call, List.mem_append_left _ hcall, hid⟩
  · rw [hreturned]
    exact h.returned_nodup
  · intro gatewayId originalId backend
    rw [hlookup, h.lookup_eq_some_iff]
    simp only [outstanding_concat, hmem (hfetched _ _), hinserted, false_or, ← and_assoc,
      exists_and_right]

/-- Every step keeps the two in agreement, as long as no identifier is drawn twice. -/
theorem step {t : SharedRemapper} {event : RemapEvent} (h : Consistent s trace)
    (hcase : StepCase s t event) (hnodup : (drawn (trace ++ [event])).Nodup) :
    Consistent t (trace ++ [event]) := by
  rw [drawn_append] at hnodup
  cases hcase with
  | fetched thread call hid =>
    apply h.fetched
    intro hmem
    exact List.disjoint_of_nodup_append hnodup hmem (by simp [drawn, calls])
  | inserted thread call hcall => exact h.inserted (List.Nodup.of_append_left hnodup) hcall
  | restored gatewayId =>
    refine h.of_silent rfl (by simp) (by simp) ?_
    intro gatewayId' entry
    by_cases heq : gatewayId' = gatewayId
    · subst heq
      simp [IdRemapper.restore]
    · have hne : ∀ result, RemapEvent.restored gatewayId (s.remapper.restore gatewayId).2 ≠
          .restored gatewayId' result := by
        intro result hsame
        injection hsame with hid
        exact heq hid.symm
      simp only [IdRemapper.restore, AList.lookup_erase_ne heq]
      exact (and_iff_left hne).symm
  | quiet event hquiet =>
    rcases hquiet with rfl | ⟨n, rfl⟩
    · exact h.of_silent rfl (by simp) (by simp) (by simp)
    · exact h.of_silent rfl (by simp) (by simp) (by simp)

end Consistent

theorem consistent_new : Consistent new [] := by
  refine ⟨?_, ?_, ?_, List.nodup_nil, ?_⟩
  · intro thread call hcall
    cases hcall
  · intro thread call hcall
    cases hcall
  · intro thread gatewayId hinserted
    cases hinserted
  · intro gatewayId originalId backend
    constructor
    · intro hentry
      cases hentry
    · rintro ⟨thread, hfetched, -⟩
      cases hfetched

/-- Along every interleaving the table agrees with what the threads have done. -/
theorem consistent_trace {steps : List RemapStep}
    (hfew : (drawn (trace steps)).length < 2 ^ 64) : Consistent (after steps) (trace steps) := by
  induction steps using List.reverseRecOn with
  | nil => exact consistent_new
  | append_singleton steps act ih =>
    have hnodup := (numbered_trace (steps ++ [act])).nodup hfew
    have htrace : trace (steps ++ [act]) = trace steps ++ [((after steps).step act).2] :=
      Runs.outputs_concat step new steps act
    have hafter : after (steps ++ [act]) = ((after steps).step act).1 :=
      Runs.after_concat step new steps act
    rw [htrace] at hfew hnodup
    rw [htrace, hafter]
    have hprevious : (drawn (trace steps)).length < 2 ^ 64 := by
      rw [drawn_append, List.length_append] at hfew
      omega
    exact (ih hprevious).step (step_cases _ act) hnodup

/-- An identifier is in the table exactly if a thread has entered it and nobody has
restored it since. -/
theorem Consistent.mem_keys_iff {s : SharedRemapper} {trace : List RemapEvent}
    (h : Consistent s trace) (gatewayId : UInt64) :
    gatewayId ∈ s.remapper.mappings.keys ↔ ∃ thread, Outstanding trace thread gatewayId := by
  rw [← AList.mem_keys, ← AList.lookup_isSome, Option.isSome_iff_exists]
  constructor
  · rintro ⟨⟨originalId, backend⟩, hentry⟩
    obtain ⟨thread, -, hout⟩ := (h.lookup_eq_some_iff gatewayId originalId backend).mp hentry
    exact ⟨thread, hout⟩
  · rintro ⟨thread, hout⟩
    obtain ⟨call, hcall, rfl⟩ := h.fetched_of_inserted thread gatewayId hout.inserted_mem
    exact ⟨_, (h.lookup_eq_some_iff _ call.originalId call.backend).mpr ⟨thread, hcall, hout⟩⟩

/-- Distinct identifiers, so the size of the table counts them. -/
theorem Consistent.size_eq {s : SharedRemapper} {trace : List RemapEvent}
    (h : Consistent s trace) :
    s.remapper.mappings.size =
      {gatewayId | ∃ thread, Outstanding trace thread gatewayId}.ncard := by
  have hset : {gatewayId | ∃ thread, Outstanding trace thread gatewayId} =
      (s.remapper.mappings.keys.toFinset : Set UInt64) := by
    ext gatewayId
    rw [Finset.mem_coe, List.mem_toFinset]
    exact (h.mem_keys_iff gatewayId).symm
  rw [hset, Set.ncard_coe_finset, List.toFinset_card_of_nodup s.remapper.mappings.keys_nodup]
  exact (List.length_map _).symm

/-- **Interleaved remaps.** Whatever the threads do, and in whatever order, no two
calls of `remap` return the same identifier. A restore finds the arguments of the
call that drew the identifier exactly if the call has entered it and no restore has
removed it since, and the pending entries are these identifiers. -/
theorem interleaved_remaps {steps : List RemapStep}
    (hfew : (drawn (trace steps)).length < 2 ^ 64) :
    (returned (trace steps)).Nodup ∧
    (∀ gatewayId originalId backend,
      ((after steps).remapper.restore gatewayId).2 = some (originalId, backend) ↔
        ∃ thread, .fetched thread { gatewayId, originalId, backend } ∈ trace steps ∧
          Outstanding (trace steps) thread gatewayId) ∧
    (after steps).remapper.pendingCount =
      {gatewayId | ∃ thread, Outstanding (trace steps) thread gatewayId}.ncard := by
  have h := consistent_trace hfew
  exact ⟨h.returned_nodup, h.lookup_eq_some_iff, h.size_eq⟩

/-- Two calls that overlap, with a restore of the first identifier before it is entered
and one of the second afterwards. -/
def overlapping : List RemapStep :=
  [.fetchAdd 0 (.number 7) "first", .fetchAdd 1 (.number 7) "second", .restore 1, .insert 1,
    .insert 0, .restore 2]

/-- The two calls get different identifiers, and the one restored too early stays behind. -/
theorem interleaved_remaps_overlapping :
    (drawn (trace overlapping)).length = 2 ∧ (returned (trace overlapping)).Nodup ∧
      {gatewayId | ∃ thread, Outstanding (trace overlapping) thread gatewayId}.ncard = 1 := by
  have hfew : (drawn (trace overlapping)).length < 2 ^ 64 := by decide
  have hremaps := interleaved_remaps hfew
  have hcount : (after overlapping).remapper.pendingCount = 1 := by decide
  exact ⟨by decide, hremaps.1, hremaps.2.2.symm.trans hcount⟩

end SharedRemapper

end SentinelGateway
