import SentinelGateway.Backend
import SentinelGateway.Catalog

/-!
# The supervisor of a stdio backend

`run_supervisor` spawns children one after the other. Of each it discovers the
tools, offers them on a channel of capacity one, and waits for its end. Children
are numbered in the order they are spawned. What the operating system and the
children do, and when the cancellation is noticed, is up to the labels.
-/

namespace SentinelGateway

/-- Where the loop of `run_supervisor` is. -/
inductive SupervisorPhase where
  | loopHead
  | spawning
  | handshaking (child : ℕ)
  | offering (child : ℕ) (tools : List Tool)
  | monitoring (child : ℕ)
  | backingOff
  | stopped

/-- The child that a phase is about. -/
def SupervisorPhase.child? : SupervisorPhase → Option ℕ
  | .handshaking child => some child
  | .offering child _ => some child
  | .monitoring child => some child
  | .loopHead | .spawning | .backingOff | .stopped => none

/-- A supervisor with its end of the tools channel and the fate of its children:
how many were spawned, which of them completed the handshake, whose output ended,
and whose process groups were killed. -/
structure Supervisor where
  config : BackendConfig
  phase : SupervisorPhase
  restartCount : ℕ
  receiverOpen : Bool
  buffer : Option (List Tool × StdioBackend)
  spawned : ℕ
  discovered : List ℕ
  exited : List ℕ
  killed : List ℕ

/-- The steps of a supervisor, and the end of a child's output. -/
inductive SupervisorAction where
  | checkCancel
  | spawn (succeeds : Bool)
  | handshake (tools : Option (List Tool))
  | offer
  | childExit (child : ℕ)
  | noticeExit (uptime : Duration)
  | noticeCancel
  | endBackoff

namespace Supervisor

/-- `HEALTHY_THRESHOLD`. -/
def healthyThreshold : Duration := 60

/-- A supervisor at the start of `run_supervisor`, with an open channel. -/
def new (config : BackendConfig) : Supervisor :=
  { config, phase := .loopHead, restartCount := 0, receiverOpen := true, buffer := none,
    spawned := 0, discovered := [], exited := [], killed := [] }

/-- The handle of a child: the one `StdioBackend::spawn` returned for it. -/
def handle (s : Supervisor) (child : ℕ) : StdioBackend :=
  { name := s.config.name, child, timeout := s.config.timeoutSecs }

/-- `kill_process_group` of a child. -/
def kill (s : Supervisor) (child : ℕ) : Supervisor := { s with killed := s.killed ++ [child] }

/-- The end of a failed round: one more restart is counted, and the supervisor
stops if the budget is used up and backs off otherwise. -/
def countRestart (s : Supervisor) : Supervisor :=
  { s with
    restartCount := s.restartCount + 1
    phase := if 0 < s.config.maxRestarts ∧ s.config.maxRestarts ≤ s.restartCount + 1 then .stopped
      else .backingOff }

/-- One step of a supervisor. -/
def step (cancelled : Bool) (s : Supervisor) : SupervisorAction → Option Supervisor
  | .checkCancel =>
    match s.phase with
    | .loopHead => some { s with phase := if cancelled then .stopped else .spawning }
    | _ => none
  | .spawn succeeds =>
    match s.phase with
    | .spawning =>
      if succeeds then
        some { s with phase := .handshaking s.spawned, spawned := s.spawned + 1 }
      else some s.countRestart
    | _ => none
  | .handshake tools =>
    match s.phase with
    | .handshaking child =>
      match tools with
      | some tools =>
        some { s with phase := .offering child tools, discovered := s.discovered ++ [child] }
      | none => some (s.kill child).countRestart
    | _ => none
  -- `on_tools_discovered.send` waits for a place in the channel or for its end
  | .offer =>
    match s.phase with
    | .offering child tools =>
      if s.receiverOpen then
        if s.buffer.isNone then
          some { s with phase := .monitoring child, buffer := some (tools, s.handle child) }
        else none
      else some { s.kill child with phase := .stopped }
    | _ => none
  | .childExit child =>
    if child < s.spawned ∧ child ∉ s.exited then some { s with exited := s.exited ++ [child] }
    else none
  | .noticeExit uptime =>
    match s.phase with
    | .monitoring child =>
      if child ∈ s.exited then
        let s := s.kill child
        some ({ s with
          restartCount := if healthyThreshold < uptime then 0 else s.restartCount }).countRestart
      else none
    | _ => none
  | .noticeCancel =>
    if cancelled then
      match s.phase with
      | .monitoring child => some { s.kill child with phase := .stopped }
      | .backingOff => some { s with phase := .stopped }
      | _ => none
    else none
  | .endBackoff =>
    match s.phase with
    | .backingOff => some { s with phase := .loopHead }
    | _ => none

/-- Everything a step can do: leave the child it was about, with bookkeeping, spawn
a child, learn its tools, put them into the channel, or see the output of one end.
A child that is left has been killed, and an offer is left undone only if nobody is
there to receive it. -/
inductive StepCase (s : Supervisor) : Supervisor → Prop
  | moved (phase : SupervisorPhase) (restartCount : ℕ) (killed : List ℕ)
      (free : phase.child? = none)
      (offered : s.receiverOpen = true → ∀ child tools, s.phase ≠ .offering child tools)
      (signalled : killed = s.killed ++ s.phase.child?.toList) :
      StepCase s { s with phase, restartCount, killed }
  | spawned (phase : s.phase = .spawning) :
      StepCase s { s with phase := .handshaking s.spawned, spawned := s.spawned + 1 }
  | discovered (child : ℕ) (tools : List Tool) (phase : s.phase = .handshaking child) :
      StepCase s
        { s with phase := .offering child tools, discovered := s.discovered ++ [child] }
  | delivered (child : ℕ) (tools : List Tool) (phase : s.phase = .offering child tools)
      (empty : s.buffer = none) :
      StepCase s { s with phase := .monitoring child, buffer := some (tools, s.handle child) }
  | exited (child : ℕ) : StepCase s { s with exited := s.exited ++ [child] }

theorem countRestart_case {s t : Supervisor} {killed : List ℕ} {restartCount : ℕ}
    (ht : t = { s with killed, restartCount })
    (hkilled : killed = s.killed ++ s.phase.child?.toList)
    (hphase : ∀ child tools, s.phase ≠ .offering child tools) : StepCase s t.countRestart := by
  subst ht
  refine .moved _ _ _ ?_ (fun _ => hphase) hkilled
  split_ifs <;> rfl

/-- The branches of `run_supervisor`, each with the state it starts from and the state
it leads to. -/
inductive Branch (cancelled : Bool) (s : Supervisor) : SupervisorAction → Supervisor → Prop
  | left (phase : s.phase = .loopHead) (token : cancelled = true) :
      Branch cancelled s .checkCancel { s with phase := .stopped }
  | began (phase : s.phase = .loopHead) (token : cancelled = false) :
      Branch cancelled s .checkCancel { s with phase := .spawning }
  | spawned (phase : s.phase = .spawning) :
      Branch cancelled s (.spawn true)
        { s with phase := .handshaking s.spawned, spawned := s.spawned + 1 }
  | spawnFailed (phase : s.phase = .spawning) : Branch cancelled s (.spawn false) s.countRestart
  | discovered (child : ℕ) (tools : List Tool) (phase : s.phase = .handshaking child) :
      Branch cancelled s (.handshake (some tools))
        { s with phase := .offering child tools, discovered := s.discovered ++ [child] }
  | handshakeFailed (child : ℕ) (phase : s.phase = .handshaking child) :
      Branch cancelled s (.handshake none) (s.kill child).countRestart
  | delivered (child : ℕ) (tools : List Tool) (phase : s.phase = .offering child tools)
      (empty : s.buffer = none) :
      Branch cancelled s .offer
        { s with phase := .monitoring child, buffer := some (tools, s.handle child) }
  | undeliverable (child : ℕ) (tools : List Tool) (phase : s.phase = .offering child tools)
      (closed : s.receiverOpen = false) :
      Branch cancelled s .offer { s.kill child with phase := .stopped }
  | exited (child : ℕ) :
      Branch cancelled s (.childExit child) { s with exited := s.exited ++ [child] }
  | noticed (child restartCount : ℕ) (uptime : Duration) (phase : s.phase = .monitoring child)
      (count : restartCount = if healthyThreshold < uptime then 0 else s.restartCount) :
      Branch cancelled s (.noticeExit uptime)
        ({ s.kill child with restartCount } : Supervisor).countRestart
  | abandoned (child : ℕ) (phase : s.phase = .monitoring child) (token : cancelled = true) :
      Branch cancelled s .noticeCancel { s.kill child with phase := .stopped }
  | interrupted (phase : s.phase = .backingOff) (token : cancelled = true) :
      Branch cancelled s .noticeCancel { s with phase := .stopped }
  | rested (phase : s.phase = .backingOff) :
      Branch cancelled s .endBackoff { s with phase := .loopHead }

/-- Every step of a supervisor takes one of its branches. -/
theorem branch_of_step {cancelled : Bool} {s t : Supervisor} {action : SupervisorAction}
    (h : s.step cancelled action = some t) : Branch cancelled s action t := by
  cases action with
  | checkCancel =>
    cases hphase : s.phase with
    | loopHead =>
      obtain rfl : _ = t := by simpa [step, hphase] using h
      cases cancelled with
      | true => exact .left hphase rfl
      | false => exact .began hphase rfl
    | spawning | handshaking | offering | monitoring | backingOff | stopped =>
      simp [step, hphase] at h
  | spawn succeeds =>
    cases hphase : s.phase with
    | spawning =>
      cases succeeds with
      | true =>
        obtain rfl : _ = t := by simpa [step, hphase] using h
        exact .spawned hphase
      | false =>
        obtain rfl : s.countRestart = t := by simpa [step, hphase] using h
        exact .spawnFailed hphase
    | loopHead | handshaking | offering | monitoring | backingOff | stopped =>
      simp [step, hphase] at h
  | handshake tools =>
    cases hphase : s.phase with
    | handshaking child =>
      cases tools with
      | some tools =>
        obtain rfl : _ = t := by simpa [step, hphase] using h
        exact .discovered child tools hphase
      | none =>
        obtain rfl : (s.kill child).countRestart = t := by simpa [step, hphase] using h
        exact .handshakeFailed child hphase
    | loopHead | spawning | offering | monitoring | backingOff | stopped =>
      simp [step, hphase] at h
  | offer =>
    cases hphase : s.phase with
    | offering child tools =>
      cases hopen : s.receiverOpen with
      | true =>
        cases hbuffer : s.buffer with
        | none =>
          obtain rfl : _ = t := by simpa [step, hphase, hopen, hbuffer] using h
          have hbranch : Branch cancelled s .offer _ := .delivered child tools hphase hbuffer
          rwa [hopen] at hbranch
        | some message => simp [step, hphase, hopen, hbuffer] at h
      | false =>
        obtain rfl : _ = t := by simpa [step, hphase, hopen] using h
        exact .undeliverable child tools hphase hopen
    | loopHead | spawning | handshaking | monitoring | backingOff | stopped =>
      simp [step, hphase] at h
  | childExit child =>
    simp only [step] at h
    split_ifs at h
    obtain rfl := Option.some.inj h
    exact .exited child
  | noticeExit uptime =>
    cases hphase : s.phase with
    | monitoring child =>
      simp only [step, hphase] at h
      split_ifs at h with hexited hlong
      · obtain rfl := Option.some.inj h
        exact .noticed child 0 uptime hphase (if_pos hlong).symm
      · obtain rfl := Option.some.inj h
        exact .noticed child s.restartCount uptime hphase (if_neg hlong).symm
    | loopHead | spawning | handshaking | offering | backingOff | stopped =>
      simp [step, hphase] at h
  | noticeCancel =>
    simp only [step] at h
    split_ifs at h with htoken
    cases hphase : s.phase with
    | monitoring child =>
      obtain rfl : _ = t := by simpa [hphase] using h
      exact .abandoned child hphase htoken
    | backingOff =>
      obtain rfl : _ = t := by simpa [hphase] using h
      exact .interrupted hphase htoken
    | loopHead | spawning | handshaking | offering | stopped => simp [hphase] at h
  | endBackoff =>
    cases hphase : s.phase with
    | backingOff =>
      obtain rfl : _ = t := by simpa [step, hphase] using h
      exact .rested hphase
    | loopHead | spawning | handshaking | offering | monitoring | stopped =>
      simp [step, hphase] at h

/-- **Inversion.** Every step of a supervisor is one of the listed ones. -/
theorem step_cases {cancelled : Bool} {s t : Supervisor} {action : SupervisorAction}
    (h : s.step cancelled action = some t) : StepCase s t := by
  cases branch_of_step h with
  | spawned phase => exact .spawned phase
  | discovered child tools phase => exact .discovered child tools phase
  | delivered child tools phase empty => exact .delivered child tools phase empty
  | exited child => exact .exited child
  | spawnFailed phase =>
    exact countRestart_case rfl (by simp [phase, SupervisorPhase.child?]) (by simp [phase])
  | handshakeFailed child phase =>
    exact countRestart_case rfl (by simp [phase, SupervisorPhase.child?]) (by simp [phase])
  | noticed child restartCount uptime phase count =>
    exact countRestart_case rfl (by simp [kill, phase, SupervisorPhase.child?]) (by simp [phase])
  | undeliverable child tools phase closed =>
    exact .moved .stopped s.restartCount _ rfl (by simp [closed])
      (by simp [kill, phase, SupervisorPhase.child?])
  | abandoned child phase token =>
    exact .moved .stopped s.restartCount _ rfl (by simp [phase])
      (by simp [kill, phase, SupervisorPhase.child?])
  -- the remaining branches are about no child
  | left phase token | began phase token | interrupted phase token | rested phase =>
    exact .moved _ s.restartCount s.killed rfl (by simp [phase])
      (by simp [phase, SupervisorPhase.child?])

/-- Children complete their handshakes in the order they are spawned. -/
structure Ordered (s : Supervisor) : Prop where
  sorted : s.discovered.Pairwise (· < ·)
  lt_spawned : ∀ child ∈ s.discovered, child < s.spawned
  handshaking : ∀ child, s.phase = .handshaking child →
    child + 1 = s.spawned ∧ child ∉ s.discovered

theorem ordered_new (config : BackendConfig) : (new config).Ordered :=
  ⟨by simp [new], by simp [new], by simp [new]⟩

theorem Ordered.step {s t : Supervisor} (h : s.Ordered) (hcase : StepCase s t) : t.Ordered := by
  cases hcase with
  | moved phase restartCount killed free offered signalled =>
    refine ⟨h.sorted, h.lt_spawned, ?_⟩
    rintro child rfl
    cases free
  | spawned phase =>
    refine ⟨h.sorted, fun child hchild => Nat.lt_succ_of_lt (h.lt_spawned child hchild), ?_⟩
    rintro child hphase
    obtain rfl : s.spawned = child := by simpa using hphase
    exact ⟨rfl, fun hmem => absurd (h.lt_spawned _ hmem) (lt_irrefl _)⟩
  | discovered child tools phase =>
    obtain ⟨hlast, hnew⟩ := h.handshaking child phase
    refine ⟨?_, ?_, by simp⟩
    · refine List.pairwise_append.mpr ⟨h.sorted, List.pairwise_singleton _ _, ?_⟩
      intro earlier hearlier other hother
      obtain rfl : other = child := by simpa using hother
      have hne : earlier ≠ other := fun heq => hnew (heq ▸ hearlier)
      have hlt := h.lt_spawned earlier hearlier
      omega
    · intro other hother
      rcases List.mem_append.mp hother with hmem | hmem
      · exact h.lt_spawned other hmem
      · obtain rfl : other = child := by simpa using hmem
        change other < s.spawned
        omega
  | delivered child tools phase empty => exact ⟨h.sorted, h.lt_spawned, by simp⟩
  | exited child => exact ⟨h.sorted, h.lt_spawned, h.handshaking⟩

/-- The first child to complete the handshake remains the first. -/
theorem head?_discovered_step {s t : Supervisor} (hcase : StepCase s t) {child : ℕ}
    (h : s.discovered.head? = some child) : t.discovered.head? = some child := by
  cases hcase with
  | discovered last tools phase => simp [List.head?_append, h]
  | moved | spawned | delivered | exited => exact h

theorem config_step {s t : Supervisor} (hcase : StepCase s t) : t.config = s.config := by
  cases hcase <;> rfl

/-- As long as somebody listens, the first message is that of the first child to
complete the handshake: it is in the channel, or it is being offered, or no child
has come that far. -/
structure FirstOffered (s : Supervisor) : Prop where
  receiver_open : s.receiverOpen = true
  buffered : ∀ tools backend, s.buffer = some (tools, backend) →
    ∃ child, s.discovered.head? = some child ∧ backend = s.handle child
  offering : s.buffer = none → ∀ child tools, s.phase = .offering child tools →
    s.discovered.head? = some child
  idle : s.buffer = none → (∀ child tools, s.phase ≠ .offering child tools) → s.discovered = []

theorem firstOffered_new (config : BackendConfig) : (new config).FirstOffered :=
  ⟨rfl, by simp [new], by simp [new], by simp [new]⟩

theorem FirstOffered.step {s t : Supervisor} (h : s.FirstOffered) (hcase : StepCase s t) :
    t.FirstOffered := by
  cases hcase with
  | moved phase restartCount killed free offered signalled =>
    refine ⟨h.receiver_open, h.buffered, ?_, ?_⟩
    · rintro - child tools rfl
      cases free
    · exact fun hbuffer _ => h.idle hbuffer (offered h.receiver_open)
  | spawned phase =>
    exact ⟨h.receiver_open, h.buffered, by simp,
      fun hbuffer _ => h.idle hbuffer (by simp [phase])⟩
  | discovered child tools phase =>
    refine ⟨h.receiver_open, ?_, ?_, ?_⟩
    · intro message backend hbuffer
      obtain ⟨first, hfirst, hbackend⟩ := h.buffered message backend hbuffer
      exact ⟨first, by simp [List.head?_append, hfirst], hbackend⟩
    · intro hbuffer other message hphase
      obtain ⟨rfl, -⟩ : child = other ∧ tools = message := by simpa using hphase
      simp [h.idle hbuffer (by simp [phase])]
    · intro _ hphase
      exact absurd rfl (hphase child tools)
  | delivered child tools phase empty =>
    refine ⟨h.receiver_open, ?_, by simp, by simp⟩
    intro message backend hbuffer
    obtain ⟨-, rfl⟩ : tools = message ∧ s.handle child = backend := by simpa using hbuffer
    exact ⟨child, h.offering empty child tools phase, rfl⟩
  | exited child => exact ⟨h.receiver_open, h.buffered, h.offering, h.idle⟩

/-- If the child last spawned is the first to complete the handshake, no other
child has completed it. -/
theorem Ordered.head?_eq_iff {s : Supervisor} (h : s.Ordered) {child : ℕ}
    (hlatest : s.spawned = child + 1) (hmem : child ∈ s.discovered) :
    s.discovered.head? = some child ↔ ∀ other ∈ s.discovered, other = child := by
  cases hlist : s.discovered with
  | nil => simp [hlist] at hmem
  | cons first rest =>
    have hsorted := h.sorted
    rw [hlist, List.pairwise_cons] at hsorted
    constructor
    · intro hhead other hother
      obtain rfl : first = child := by simpa using hhead
      rcases List.mem_cons.mp hother with rfl | hrest
      · rfl
      · have hlt := hsorted.1 other hrest
        have hbound := h.lt_spawned other (by simp [hlist, hrest])
        omega
    · intro hall
      simp [hall first (by simp)]

end Supervisor

end SentinelGateway
