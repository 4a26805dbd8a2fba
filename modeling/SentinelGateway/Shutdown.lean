import SentinelGateway.Startup
import SentinelGateway.Stdio.Orphans

/-!
# What the process leaves behind

Children live on when the gateway ends without a signal to their group. At the end of
`run_dispatch` the token is cancelled, and `main` waits five seconds for each
supervisor, in the order they were started. If the token of the caller is refused or
the audit database cannot be reached, `main` returns before that, when the children are
already there. In both cases the children that live on are those a supervisor was at
work on, and after an orderly end only those whose supervisor was not waited for to the
end. A supervisor that may move does so within five seconds, so such a child was in the
middle of its handshake.
-/

namespace SentinelGateway

/-- How far `main` is with its end: not there yet, waiting for the supervisors that are
left, or gone, in the orderly way or with an error. -/
inductive ExitStage where
  | running
  | joining (handles : List String)
  | exited (orderly : Bool)
  deriving DecidableEq

/-- The gateway process with `supervisor_handles`, and which of them were waited for with
success and which in vain. -/
structure Process where
  world : World
  stage : ExitStage
  handles : List String
  finished : List String
  timedOut : List String

/-- A step of the process as before, or one of its end. -/
inductive ProcessLabel where
  | world (label : WorldLabel)
  | fail
  | returnDispatch
  | join
  | timeOut
  | exit

/-- Once `run_dispatch` has returned, only supervisors and signal handlers go on. -/
def ExitStage.admits : ExitStage → WorldLabel → Bool
  | .running, _ => true
  | .joining _, .supervise _ _ => true
  | .joining _, .cancel => true
  | .joining _, _ => false
  | .exited _, _ => false

namespace Process

def start (configs : List BackendConfig) : Process :=
  { world := .init configs, stage := .running, handles := [], finished := [], timedOut := [] }

/-- The handle that is pushed when a supervisor is started, which is when `main` begins to
wait for its tools. -/
def pushed (before after : World) : List String :=
  match before.stage, after.stage with
  | .discovering, .waiting name => [name]
  | _, _ => []

/-- One step. -/
def step (settings : Settings) (p : Process) : ProcessLabel → Option Process
  | .world label =>
    if p.stage.admits label then
      (p.world.step settings label).map fun world =>
        { p with world, handles := p.handles ++ pushed p.world world }
    else none
  -- the caller is refused or there is no database, after the last discovery
  | .fail =>
    match p.stage, p.world.stage, p.world.todo with
    | .running, .discovering, [] => some { p with stage := .exited false }
    | _, _, _ => none
  | .returnDispatch =>
    match p.stage, p.world.stage with
    | .running, .serving _ =>
      some { p with world := { p.world with cancelled := true }, stage := .joining p.handles }
    | _, _ => none
  | .join =>
    match p.stage with
    | .joining (name :: rest) =>
      (p.world.supervisors.lookup name).bind fun supervisor =>
        match supervisor.phase with
        | .stopped => some { p with stage := .joining rest, finished := p.finished ++ [name] }
        | _ => none
    | _ => none
  | .timeOut =>
    match p.stage with
    | .joining (name :: rest) =>
      (p.world.supervisors.lookup name).bind fun supervisor =>
        match supervisor.phase with
        | .stopped => none
        | _ => some { p with stage := .joining rest, timedOut := p.timedOut ++ [name] }
    | _ => none
  | .exit =>
    match p.stage with
    | .joining [] => some { p with stage := .exited true }
    | _ => none

end Process

namespace Supervisor

/-- The books about the children: the child at work is the last one, and it is the only
one that has not been signalled. -/
structure Accounted (s : Supervisor) : Prop where
  latest : ∀ child, s.phase.child? = some child → child + 1 = s.spawned
  killed_lt : ∀ child ∈ s.killed, child < s.spawned
  left_iff : ∀ child < s.spawned, child ∉ s.killed ↔ s.phase.child? = some child

theorem accounted_new (config : BackendConfig) : (new config).Accounted :=
  ⟨by simp [new, SupervisorPhase.child?], by simp [new], by simp [new]⟩

theorem Accounted.step {s t : Supervisor} (h : s.Accounted) (hcase : StepCase s t) :
    t.Accounted := by
  cases hcase with
  | moved phase restartCount killed free offered signalled =>
    subst signalled
    refine ⟨?_, ?_, ?_⟩
    · intro child hchild
      change phase.child? = some child at hchild
      rw [free] at hchild
      cases hchild
    · intro child hmem
      rcases List.mem_append.mp hmem with hbefore | hnow
      · exact h.killed_lt child hbefore
      · have hlatest := h.latest child (Option.mem_toList.mp hnow)
        change child < s.spawned
        omega
    · intro child hchild
      change child ∉ s.killed ++ s.phase.child?.toList ↔ phase.child? = some child
      rw [free]
      refine iff_of_false ?_ (by simp)
      intro hnot
      rw [List.mem_append, not_or] at hnot
      exact hnot.2 (Option.mem_toList.mpr ((h.left_iff child hchild).mp hnot.1))
  | spawned phase =>
    have hfree : s.phase.child? = none := by rw [phase]; rfl
    refine ⟨?_, fun child hmem => Nat.lt_succ_of_lt (h.killed_lt child hmem), ?_⟩
    · rintro child ⟨⟩
      rfl
    · intro child hchild
      change child ∉ s.killed ↔ some s.spawned = some child
      rcases Nat.lt_succ_iff_lt_or_eq.mp hchild with hearlier | rfl
      · rw [h.left_iff child hearlier, hfree]
        refine iff_of_false (by simp) ?_
        intro heq
        have hlast := Option.some.inj heq
        omega
      · exact iff_of_true (fun hmem => lt_irrefl _ (h.killed_lt _ hmem)) rfl
  | discovered current tools phase =>
    have hsame : s.phase.child? = some current := by rw [phase]; rfl
    refine ⟨fun child hchild => h.latest child (hsame.trans hchild), h.killed_lt, ?_⟩
    intro child hchild
    rw [h.left_iff child hchild, hsame]
    rfl
  | delivered current tools phase empty =>
    have hsame : s.phase.child? = some current := by rw [phase]; rfl
    refine ⟨fun child hchild => h.latest child (hsame.trans hchild), h.killed_lt, ?_⟩
    intro child hchild
    rw [h.left_iff child hchild, hsame]
    rfl
  | exited current => exact ⟨h.latest, h.killed_lt, h.left_iff⟩

/-- A supervisor that has stopped does not start again. -/
theorem stopped_step {cancelled : Bool} {s t : Supervisor} {action : SupervisorAction}
    (h : s.step cancelled action = some t) (hstopped : s.phase = .stopped) :
    t.phase = .stopped := by
  cases branch_of_step h with
  | exited child => exact hstopped
  | left phase | began phase | spawned phase | spawnFailed phase | discovered child tools phase
  | handshakeFailed child phase | delivered child tools phase
  | undeliverable child tools phase | noticed child restartCount uptime phase
  | abandoned child phase | interrupted phase | rested phase =>
    exact absurd (hstopped.symm.trans phase) (by simp)

/-- The action is one the supervisor takes by itself, without waiting for a child or for
time to pass. -/
def ownAction : SupervisorAction → Bool
  | .checkCancel | .spawn _ | .offer | .noticeCancel => true
  | .handshake _ | .childExit _ | .noticeExit _ | .endBackoff => false

/-- The supervisor has to wait. -/
def Waits (cancelled : Bool) (s : Supervisor) : Prop :=
  ∀ action, ownAction action = true → s.step cancelled action = none

/-- A supervisor that is told to stop waits for nothing but a handshake. -/
theorem handshaking_of_waits {s : Supervisor} (hclosed : s.receiverOpen = false)
    (hwaits : s.Waits true) (hrunning : s.phase ≠ .stopped) :
    ∃ child, s.phase = .handshaking child := by
  cases hphase : s.phase with
  | handshaking child => exact ⟨child, rfl⟩
  | stopped => exact absurd hphase hrunning
  | loopHead =>
    have hstuck := hwaits .checkCancel rfl
    simp [step, hphase] at hstuck
  | spawning =>
    have hstuck := hwaits (.spawn true) rfl
    simp [step, hphase] at hstuck
  | offering child tools =>
    have hstuck := hwaits .offer rfl
    simp [step, hphase, hclosed] at hstuck
  | monitoring child =>
    have hstuck := hwaits .noticeCancel rfl
    simp [step, hphase] at hstuck
  | backingOff =>
    have hstuck := hwaits .noticeCancel rfl
    simp [step, hphase] at hstuck

/-- The supervisor is on its way out: it has no child, or one whose handshake is going on
or has just ended. -/
def WindsDown (s : Supervisor) : Prop :=
  s.phase ≠ .spawning ∧ ∀ child, s.phase ≠ .monitoring child

theorem WindsDown.step {s t : Supervisor} {action : SupervisorAction} (h : s.WindsDown)
    (hclosed : s.receiverOpen = false) (hstep : s.step true action = some t) : t.WindsDown := by
  cases branch_of_step hstep with
  | exited child => exact h
  | left | undeliverable | abandoned | interrupted | discovered | rested =>
    exact ⟨by simp, by simp⟩
  | began phase token => cases token
  | spawned phase | spawnFailed phase => exact absurd phase h.1
  | noticed child restartCount uptime phase => exact absurd phase (h.2 child)
  | delivered child tools phase =>
    simp [Supervisor.step, phase, hclosed] at hstep
  | handshakeFailed child phase =>
    unfold WindsDown countRestart
    split_ifs <;> simp

end Supervisor

namespace World

/-- What is known of the supervisors: their books are right, their handles were kept, and
a tools channel is open only while `main` is at it. -/
structure Staffed (handles : List String) (w : World) : Prop where
  accounted : ∀ name supervisor, w.supervisors.lookup name = some supervisor →
    supervisor.Accounted
  handled : ∀ name ∈ w.supervisors, name ∈ handles
  closed : ∀ name supervisor, w.supervisors.lookup name = some supervisor →
    supervisor.receiverOpen = true → w.stage = .waiting name ∨ w.stage = .leaving name

variable {settings : Settings} {w w' : World} {handles : List String} {label : WorldLabel}

/-- `main` moves on, and the supervisors stay as they are. -/
theorem Staffed.of_same (h : Staffed handles w) (hsame : w'.supervisors = w.supervisors)
    (hstage : ∀ name, w.stage = .waiting name ∨ w.stage = .leaving name →
      w'.stage = .waiting name ∨ w'.stage = .leaving name) : Staffed handles w' := by
  refine ⟨?_, ?_, ?_⟩
  · rw [hsame]
    exact h.accounted
  · rw [hsame]
    exact h.handled
  · rw [hsame]
    exact fun name supervisor hlookup hopen => hstage name (h.closed name supervisor hlookup hopen)

/-- One supervisor is replaced by what became of it. -/
theorem Staffed.replace {name : String} {supervisor after : Supervisor}
    (h : Staffed handles w) (hlookup : w.supervisors.lookup name = some supervisor)
    (hafter : after.Accounted) (hsupervisors : w'.supervisors = w.supervisors.insert name after)
    (hstage : ∀ other, w.stage = .waiting other ∨ w.stage = .leaving other →
      other = name ∧ after.receiverOpen = false ∨
        w'.stage = .waiting other ∨ w'.stage = .leaving other)
    (hopen : after.receiverOpen = true → supervisor.receiverOpen = true) :
    Staffed handles w' := by
  have hold : ∀ other found, w'.supervisors.lookup other = some found →
      other = name ∧ found = after ∨ other ≠ name ∧ w.supervisors.lookup other = some found := by
    intro other found hfound
    rw [hsupervisors] at hfound
    exact Table.lookup_insert_cases hfound
  refine ⟨?_, ?_, ?_⟩
  · intro other found hfound
    rcases hold other found hfound with ⟨-, rfl⟩ | ⟨-, hbefore⟩
    · exact hafter
    · exact h.accounted other found hbefore
  · intro other hother
    rw [hsupervisors, AList.mem_insert] at hother
    rcases hother with rfl | hbefore
    · exact h.handled _ (mem_supervisors hlookup)
    · exact h.handled other hbefore
  · intro other found hfound hreceiver
    rcases hold other found hfound with ⟨rfl, rfl⟩ | ⟨hname, hbefore⟩
    · rcases hstage other (h.closed other supervisor hlookup (hopen hreceiver)) with
        ⟨-, hclosed⟩ | hkept
      · rw [hreceiver] at hclosed
        cases hclosed
      · exact hkept
    · rcases hstage other (h.closed other found hbefore hreceiver) with ⟨heq, -⟩ | hkept
      · exact absurd heq hname
      · exact hkept

/-- A supervisor is started. All earlier channels have been given up by then. -/
theorem Staffed.launch {config : BackendConfig} (h : Staffed handles w)
    (hstage : w.stage = .discovering)
    (hsupervisors : w'.supervisors = w.supervisors.insert config.name (.new config))
    (hwaiting : w'.stage = .waiting config.name) : Staffed (handles ++ [config.name]) w' := by
  refine ⟨?_, ?_, ?_⟩
  · intro name supervisor hlookup
    rw [hsupervisors] at hlookup
    rcases Table.lookup_insert_cases hlookup with ⟨-, rfl⟩ | ⟨-, hbefore⟩
    · exact Supervisor.accounted_new config
    · exact h.accounted name supervisor hbefore
  · intro name hname
    rw [hsupervisors, AList.mem_insert] at hname
    rcases hname with rfl | hbefore
    · simp
    · exact List.mem_append_left _ (h.handled name hbefore)
  · intro name supervisor hlookup hopen
    rw [hsupervisors] at hlookup
    rcases Table.lookup_insert_cases hlookup with ⟨rfl, -⟩ | ⟨-, hbefore⟩
    · exact Or.inl hwaiting
    · have hother := h.closed name supervisor hbefore hopen
      simp [hstage] at hother

theorem Staffed.append (h : Staffed handles w) (more : List String) :
    Staffed (handles ++ more) w :=
  ⟨h.accounted, fun name hname => List.mem_append_left _ (h.handled name hname), h.closed⟩

/-- Every step of the process keeps the supervisors staffed. -/
theorem Staffed.step (h : Staffed handles w) (hcase : StepCase settings w w') :
    Staffed (handles ++ Process.pushed w w') w' := by
  cases hcase with
  | launched config todo stage =>
    have hpushed : Process.pushed w { w with
        todo
        stage := .waiting config.name
        supervisors := w.supervisors.insert config.name (.new config) } = [config.name] := by
      simp only [Process.pushed, stage]
    rw [hpushed]
    exact h.launch stage rfl rfl
  | skipped config todo stage =>
    refine Staffed.append ?_ _
    exact h.of_same rfl fun _ hother => hother
  | discovered config todo tools stage =>
    refine Staffed.append ?_ _
    exact h.of_same rfl fun _ hother => hother
  | received name supervisor tools backend stage lookup buffer =>
    refine Staffed.append ?_ _
    refine h.replace lookup ?_ rfl ?_ fun hopen => hopen
    · have hbooks := h.accounted name supervisor lookup
      exact ⟨hbooks.latest, hbooks.killed_lt, hbooks.left_iff⟩
    · intro other hother
      obtain rfl : name = other := by simpa [stage] using hother
      exact Or.inr (Or.inr rfl)
  | gaveUp name stage =>
    refine Staffed.append ?_ _
    refine h.of_same rfl ?_
    intro other hother
    obtain rfl : name = other := by simpa [stage] using hother
    exact Or.inr rfl
  | left name supervisor stage lookup =>
    refine Staffed.append ?_ _
    refine h.replace lookup ?_ rfl ?_ fun hopen => by cases hopen
    · have hbooks := h.accounted name supervisor lookup
      exact ⟨hbooks.latest, hbooks.killed_lt, hbooks.left_iff⟩
    · intro other hother
      obtain rfl : name = other := by simpa [stage] using hother
      exact Or.inl ⟨rfl, rfl⟩
  | served st stage =>
    refine Staffed.append ?_ _
    refine h.of_same rfl ?_
    intro other hother
    simp [stage] at hother
  | dispatched st st' event stage =>
    refine Staffed.append ?_ _
    refine h.of_same rfl ?_
    intro other hother
    simp [stage] at hother
  | supervised name before after lookup case =>
    have hreceiver : after.receiverOpen = before.receiverOpen := by cases case <;> rfl
    refine Staffed.append ?_ _
    refine h.replace lookup ((h.accounted name before lookup).step case) rfl
      (fun other hother => Or.inr hother) ?_
    rw [hreceiver]
    exact id
  | cancelled =>
    refine Staffed.append ?_ _
    exact h.of_same rfl fun _ hother => hother

/-- Beside `main`, only supervisors and signal handlers move. -/
theorem beside_main {rest : List String} (hadmits : (ExitStage.joining rest).admits label = true)
    (hstep : w.step settings label = some w') :
    w'.stage = w.stage ∧ (w.cancelled = true → w'.cancelled = true) ∧
      (w'.supervisors = w.supervisors ∨ ∃ name before after action,
        w.supervisors.lookup name = some before ∧
          before.step w.cancelled action = some after ∧
          w'.supervisors = w.supervisors.insert name after) := by
  cases label with
  | supervise name action =>
    obtain ⟨before, hlookup, hmap⟩ := Option.bind_eq_some_iff.mp hstep
    obtain ⟨after, hafter, rfl⟩ := Option.map_eq_some_iff.mp hmap
    exact ⟨rfl, id, Or.inr ⟨name, before, after, action, hlookup, hafter, rfl⟩⟩
  | cancel =>
    obtain rfl := Option.some.inj hstep
    exact ⟨rfl, fun _ => rfl, Or.inl rfl⟩
  | discoverHttp | launch | receive | hangUp | giveUp | leave | serve | dispatch => cases hadmits

end World

namespace Process

variable {settings : Settings} {configs : List BackendConfig} {p q : Process}
  {labels : List ProcessLabel}

/-- Everything a step can do. -/
inductive StepCase (settings : Settings) (p : Process) : ProcessLabel → Process → Prop
  | world (label : WorldLabel) (world : World) (admits : p.stage.admits label = true)
      (stepped : p.world.step settings label = some world) :
      StepCase settings p (.world label)
        { p with world, handles := p.handles ++ pushed p.world world }
  | failed (stage : p.stage = .running) :
      StepCase settings p .fail { p with stage := .exited false }
  | returned (st : DispatchState) (stage : p.stage = .running)
      (serving : p.world.stage = .serving st) :
      StepCase settings p .returnDispatch
        { p with world := { p.world with cancelled := true }, stage := .joining p.handles }
  | joined (name : String) (rest : List String) (supervisor : Supervisor)
      (stage : p.stage = .joining (name :: rest))
      (lookup : p.world.supervisors.lookup name = some supervisor)
      (stopped : supervisor.phase = .stopped) :
      StepCase settings p .join { p with stage := .joining rest, finished := p.finished ++ [name] }
  | timedOut (name : String) (rest : List String) (supervisor : Supervisor)
      (stage : p.stage = .joining (name :: rest))
      (lookup : p.world.supervisors.lookup name = some supervisor)
      (running : supervisor.phase ≠ .stopped) :
      StepCase settings p .timeOut
        { p with stage := .joining rest, timedOut := p.timedOut ++ [name] }
  | exited (stage : p.stage = .joining []) :
      StepCase settings p .exit { p with stage := .exited true }

theorem step_cases {label : ProcessLabel} (h : p.step settings label = some q) :
    StepCase settings p label q := by
  cases label with
  | world label =>
    simp only [step] at h
    split_ifs at h with hadmits
    obtain ⟨world, hworld, rfl⟩ := Option.map_eq_some_iff.mp h
    exact .world label world hadmits hworld
  | fail =>
    simp only [step] at h
    split at h
    · rename_i hstage _ _
      obtain rfl := Option.some.inj h
      exact .failed hstage
    · cases h
  | returnDispatch =>
    simp only [step] at h
    split at h
    · rename_i st hstage hserving
      obtain rfl := Option.some.inj h
      exact .returned st hstage hserving
    · cases h
  | join =>
    simp only [step] at h
    split at h
    · rename_i name rest hstage
      obtain ⟨supervisor, hlookup, hphase⟩ := Option.bind_eq_some_iff.mp h
      split at hphase
      · rename_i hstopped
        obtain rfl := Option.some.inj hphase
        exact .joined name rest supervisor hstage hlookup hstopped
      · cases hphase
    · cases h
  | timeOut =>
    simp only [step] at h
    split at h
    · rename_i name rest hstage
      obtain ⟨supervisor, hlookup, hphase⟩ := Option.bind_eq_some_iff.mp h
      split at hphase
      · cases hphase
      · rename_i hrunning
        obtain rfl := Option.some.inj hphase
        exact .timedOut name rest supervisor hstage hlookup hrunning
    · cases h
  | exit =>
    simp only [step] at h
    split at h
    · rename_i hstage
      obtain rfl := Option.some.inj h
      exact .exited hstage
    · cases h

/-- What is known in every state of the process. Who was waited for with success has
stopped, and nobody is forgotten. -/
structure Manned (p : Process) : Prop where
  staffed : p.world.Staffed p.handles
  stopped : ∀ name ∈ p.finished, ∀ supervisor,
    p.world.supervisors.lookup name = some supervisor → supervisor.phase = .stopped
  running : p.stage = .running → p.finished = [] ∧ p.timedOut = []
  joining : ∀ rest, p.stage = .joining rest → p.world.cancelled = true ∧
    (∃ st, p.world.stage = .serving st) ∧
    ∀ name ∈ p.handles, name ∈ p.finished ∨ name ∈ p.timedOut ∨ name ∈ rest
  exited : p.stage = .exited true → ∀ name ∈ p.handles, name ∈ p.finished ∨ name ∈ p.timedOut

theorem manned_start (configs : List BackendConfig) : (start configs).Manned :=
  ⟨⟨by simp [start, World.init], by simp [start, World.init], by simp [start, World.init]⟩,
    by simp [start], by simp [start], by simp [start], by simp [start]⟩

/-- Supervisors go on while `main` waits for them. -/
theorem Manned.world (h : p.Manned) {label : WorldLabel} {world : World}
    (hadmits : p.stage.admits label = true) (hstep : p.world.step settings label = some world) :
    Manned { p with world, handles := p.handles ++ pushed p.world world } := by
  have hstaffed := h.staffed.step (World.step_cases hstep)
  cases hstage : p.stage with
  | exited orderly =>
    rw [hstage] at hadmits
    cases label <;> cases hadmits
  | running =>
    obtain ⟨hfinished, htimedOut⟩ := h.running hstage
    refine ⟨hstaffed, ?_, fun _ => ⟨hfinished, htimedOut⟩, ?_, ?_⟩
    · rw [hfinished]
      simp
    · simp
    · simp
  | joining rest =>
    rw [hstage] at hadmits
    obtain ⟨hsame, htoken, hsupervisors⟩ := World.beside_main hadmits hstep
    obtain ⟨hcancelled, ⟨st, hserving⟩, hcovered⟩ := h.joining rest hstage
    have hpushed : pushed p.world world = [] := by simp only [pushed, hserving]
    refine ⟨hstaffed, ?_, by simp, ?_, by simp⟩
    · intro name hname supervisor hlookup
      change world.supervisors.lookup name = some supervisor at hlookup
      rcases hsupervisors with hunchanged | ⟨other, before, after, action, hother, hact, hinsert⟩
      · rw [hunchanged] at hlookup
        exact h.stopped name hname supervisor hlookup
      · rw [hinsert] at hlookup
        rcases Table.lookup_insert_cases hlookup with ⟨rfl, rfl⟩ | ⟨-, hbefore⟩
        · exact Supervisor.stopped_step hact (h.stopped _ hname before hother)
        · exact h.stopped name hname supervisor hbefore
    · rintro other ⟨⟩
      refine ⟨htoken hcancelled, ⟨st, hsame.trans hserving⟩, ?_⟩
      rw [hpushed, List.append_nil]
      exact hcovered

theorem Manned.step {label : ProcessLabel} (h : p.Manned) (hcase : StepCase settings p label q) :
    q.Manned := by
  cases hcase with
  | world label world admits stepped => exact h.world admits stepped
  | failed stage => exact ⟨h.staffed, h.stopped, by simp, by simp, by simp⟩
  | returned st stage serving =>
    have hstaffed : World.Staffed p.handles { p.world with cancelled := true } :=
      h.staffed.of_same rfl fun _ hother => hother
    refine ⟨hstaffed, h.stopped, by simp, ?_, by simp⟩
    rintro rest ⟨⟩
    exact ⟨rfl, ⟨st, serving⟩, fun name hname => Or.inr (Or.inr hname)⟩
  | joined name rest supervisor stage lookup stopped =>
    obtain ⟨hcancelled, hserving, hcovered⟩ := h.joining _ stage
    refine ⟨h.staffed, ?_, by simp, ?_, by simp⟩
    · intro other hother found hfound
      rcases List.mem_append.mp hother with hbefore | hnow
      · exact h.stopped other hbefore found hfound
      · obtain rfl := List.mem_singleton.mp hnow
        obtain rfl : supervisor = found := Option.some.inj (lookup.symm.trans hfound)
        exact stopped
    · rintro others ⟨⟩
      refine ⟨hcancelled, hserving, ?_⟩
      intro other hother
      rcases hcovered other hother with hfinished | htimedOut | hleft
      · exact Or.inl (List.mem_append_left _ hfinished)
      · exact Or.inr (Or.inl htimedOut)
      · rcases List.mem_cons.mp hleft with rfl | hrest
        · exact Or.inl (List.mem_append_right _ (List.mem_singleton_self _))
        · exact Or.inr (Or.inr hrest)
  | timedOut name rest supervisor stage lookup running =>
    obtain ⟨hcancelled, hserving, hcovered⟩ := h.joining _ stage
    refine ⟨h.staffed, h.stopped, by simp, ?_, by simp⟩
    rintro others ⟨⟩
    refine ⟨hcancelled, hserving, ?_⟩
    intro other hother
    rcases hcovered other hother with hfinished | htimedOut | hleft
    · exact Or.inl hfinished
    · exact Or.inr (Or.inl (List.mem_append_left _ htimedOut))
    · rcases List.mem_cons.mp hleft with rfl | hrest
      · exact Or.inr (Or.inl (List.mem_append_right _ (List.mem_singleton_self _)))
      · exact Or.inr (Or.inr hrest)
  | exited stage =>
    obtain ⟨-, -, hcovered⟩ := h.joining _ stage
    refine ⟨h.staffed, h.stopped, by simp, by simp, fun _ name hname => ?_⟩
    rcases hcovered name hname with hfinished | htimedOut | hleft
    · exact Or.inl hfinished
    · exact Or.inr htimedOut
    · cases hleft

theorem manned_of_exec (h : Runs.exec (step settings) (start configs) labels = some p) :
    p.Manned :=
  Runs.exec_induction (step settings) (motive := fun _ p => p.Manned) (manned_start configs)
    (fun _ _ _ _ _ hmanned hstep => hmanned.step (step_cases hstep)) h

/-- Five seconds are enough for what a supervisor does by itself: a join times out only
if the supervisor has to wait for something. -/
def Prompt (settings : Settings) (configs : List BackendConfig) (labels : List ProcessLabel) :
    Prop :=
  ∀ before after u name rest supervisor, labels = before ++ .timeOut :: after →
    Runs.exec (step settings) (start configs) before = some u →
    u.stage = .joining (name :: rest) →
    u.world.supervisors.lookup name = some supervisor → supervisor.Waits u.world.cancelled

theorem Prompt.of_concat {label : ProcessLabel} (h : Prompt settings configs (labels ++ [label])) :
    Prompt settings configs labels := by
  intro before after u name rest supervisor hlabels
  exact h before (after ++ [label]) u name rest supervisor (by simp [hlabels])

/-- While `main` waits, every tools channel is closed. -/
theorem Manned.receiverOpen_eq (h : p.Manned) {rest : List String} {name : String}
    {supervisor : Supervisor} (hstage : p.stage = .joining rest)
    (hlookup : p.world.supervisors.lookup name = some supervisor) :
    supervisor.receiverOpen = false := by
  obtain ⟨-, ⟨st, hserving⟩, -⟩ := h.joining rest hstage
  cases hopen : supervisor.receiverOpen with
  | false => rfl
  | true =>
    have hstages := h.staffed.closed name supervisor hlookup hopen
    simp [hserving] at hstages

/-- If no supervisor dawdles, those that were waited for in vain wind down. -/
theorem windsDown_of_exec (h : Runs.exec (step settings) (start configs) labels = some p)
    (hprompt : Prompt settings configs labels) :
    ∀ name ∈ p.timedOut, ∀ supervisor, p.world.supervisors.lookup name = some supervisor →
      supervisor.WindsDown := by
  refine Runs.exec_induction (step settings)
    (motive := fun labels p => Prompt settings configs labels → ∀ name ∈ p.timedOut,
      ∀ supervisor, p.world.supervisors.lookup name = some supervisor → supervisor.WindsDown)
    (fun _ => by simp [start]) ?_ h hprompt
  intro labels label p q hexec ih hstep hprompt
  have hbefore := ih hprompt.of_concat
  have hmanned := manned_of_exec hexec
  cases step_cases hstep with
  | failed | returned | joined | exited => exact hbefore
  | timedOut name rest supervisor stage lookup running =>
    intro other hother found hfound
    rcases List.mem_append.mp hother with hearlier | hnow
    · exact hbefore other hearlier found hfound
    · obtain rfl := List.mem_singleton.mp hnow
      obtain rfl : supervisor = found := Option.some.inj (lookup.symm.trans hfound)
      have hwaits := hprompt labels [] p _ rest supervisor rfl hexec stage lookup
      rw [(hmanned.joining _ stage).1] at hwaits
      obtain ⟨child, hphase⟩ :=
        Supervisor.handshaking_of_waits (hmanned.receiverOpen_eq stage lookup) hwaits running
      exact ⟨by simp [hphase], by simp [hphase]⟩
  | world label world admits stepped =>
    intro name hname supervisor hlookup
    cases hstage : p.stage with
    | exited orderly =>
      rw [hstage] at admits
      cases label <;> cases admits
    | running =>
      have hnone := (hmanned.running hstage).2
      change name ∈ p.timedOut at hname
      rw [hnone] at hname
      cases hname
    | joining rest =>
      rw [hstage] at admits
      change world.supervisors.lookup name = some supervisor at hlookup
      obtain ⟨-, -, hsupervisors⟩ := World.beside_main admits stepped
      rcases hsupervisors with hunchanged | ⟨other, before, after, action, hother, hact, hinsert⟩
      · rw [hunchanged] at hlookup
        exact hbefore name hname supervisor hlookup
      · rw [hinsert] at hlookup
        rcases Table.lookup_insert_cases hlookup with ⟨rfl, rfl⟩ | ⟨-, hearlier⟩
        · rw [(hmanned.joining _ hstage).1] at hact
          exact (hbefore _ hname before hother).step (hmanned.receiverOpen_eq hstage hother) hact
        · exact hbefore name hname supervisor hearlier

/-- **Left behind.** When the process has ended, the children without a signal are those
their supervisor was at work on. After an orderly end, each supervisor was waited for until
it had stopped and signalled all of its children, or in vain; in that case, if supervisors
do promptly what they can, the child at work was still in its handshake or had its tools
offered to nobody. -/
theorem left_behind (settings : Settings) (configs : List BackendConfig)
    (h : Runs.exec (step settings) (start configs) labels = some p) {orderly : Bool}
    (hexit : p.stage = .exited orderly) {name : String} {supervisor : Supervisor}
    (hlookup : p.world.supervisors.lookup name = some supervisor) :
    (∀ child < supervisor.spawned,
      child ∉ supervisor.killed ↔ supervisor.phase.child? = some child) ∧
    (orderly = true →
      name ∈ p.finished ∧ (∀ child < supervisor.spawned, child ∈ supervisor.killed) ∨
      name ∈ p.timedOut ∧ (Prompt settings configs labels →
        ∀ child, supervisor.phase.child? = some child →
          supervisor.phase = .handshaking child ∨
            ∃ tools, supervisor.phase = .offering child tools)) := by
  have hmanned := manned_of_exec h
  have hbooks := hmanned.staffed.accounted name supervisor hlookup
  refine ⟨hbooks.left_iff, ?_⟩
  rintro rfl
  have hhandle := hmanned.staffed.handled name (World.mem_supervisors hlookup)
  rcases hmanned.exited hexit name hhandle with hfinished | htimedOut
  · refine Or.inl ⟨hfinished, fun child hchild => ?_⟩
    have hstopped := hmanned.stopped name hfinished supervisor hlookup
    by_contra hleft
    have hwork := (hbooks.left_iff child hchild).mp hleft
    rw [hstopped] at hwork
    cases hwork
  · refine Or.inr ⟨htimedOut, fun hprompt child hchild => ?_⟩
    obtain ⟨-, hmonitoring⟩ := windsDown_of_exec h hprompt name htimedOut supervisor hlookup
    cases hphase : supervisor.phase with
    | handshaking current =>
      obtain rfl : current = child := by simpa [hphase, SupervisorPhase.child?] using hchild
      exact Or.inl rfl
    | offering current tools =>
      obtain rfl : current = child := by simpa [hphase, SupervisorPhase.child?] using hchild
      exact Or.inr ⟨tools, rfl⟩
    | monitoring current => exact absurd hphase (hmonitoring current)
    | loopHead | spawning | backingOff | stopped =>
      simp [hphase, SupervisorPhase.child?] at hchild

/-- The only child is registered. -/
def registered : List WorldLabel :=
  .launch :: World.spawnChild (some []) ++ [.supervise "db" .offer, .receive, .leave]

/-- The caller's token is refused when the child is already there. -/
def refusedCaller : List ProcessLabel := registered.map .world ++ [.fail]

/-- The registered child ends while the gateway serves, and the next one is spawned. -/
def restarted : List WorldLabel :=
  registered ++ .serve :: World.endOfChild ++
    [.supervise "db" .checkCancel, .supervise "db" (.spawn true)]

/-- The gateway ends in the middle of the handshake of that child. -/
def cutOff : List ProcessLabel :=
  (restarted.map .world ++ [.returnDispatch]) ++ .timeOut :: [.exit]

/-- A supervisor in the middle of a handshake has to wait for it. -/
theorem waits_of_handshaking {cancelled : Bool} {supervisor : Supervisor} {child : ℕ}
    (h : supervisor.phase = .handshaking child) : supervisor.Waits cancelled := by
  intro action hown
  cases action with
  | checkCancel | spawn | offer => simp [Supervisor.step, h]
  | noticeCancel => cases cancelled <;> simp [Supervisor.step, h]
  | handshake | childExit | noticeExit | endBackoff => cases hown

/-- Nobody dawdles in that run. -/
theorem prompt_cutOff : Prompt World.openSettings World.oneStdio cutOff := by
  intro before after u name rest supervisor hlabels hexec hstage hlookup
  have honce : ProcessLabel.timeOut ∉ restarted.map ProcessLabel.world ++ [.returnDispatch] := by
    simp
  obtain ⟨rfl, -, -⟩ := (List.append_cons_inj_of_notMem honce (by simp)).mp hlabels
  have hfacts : (Runs.exec (step World.openSettings) (start World.oneStdio)
        (restarted.map .world ++ [.returnDispatch])).map (fun u =>
      (u.stage, (u.world.supervisors.lookup "db").map Supervisor.phase)) =
        some (.joining ["db"], some (.handshaking 1)) := by
    rfl
  rw [hexec, Option.map_some] at hfacts
  obtain ⟨hjoining, hphase⟩ := Prod.mk.inj (Option.some.inj hfacts)
  obtain ⟨rfl, -⟩ : name = "db" ∧ rest = [] := by simpa [hstage] using hjoining
  rw [hlookup, Option.map_some] at hphase
  exact waits_of_handshaking (Option.some.inj hphase)

/-- That child lives on, although it is well and its supervisor as well. So does the one that
is cut off: it is waited for in vain, and not signalled. -/
theorem left_behind_two_ends :
    (∃ p supervisor, Runs.exec (step World.openSettings) (start World.oneStdio) refusedCaller =
        some p ∧ p.stage = .exited false ∧
      p.world.supervisors.lookup "db" = some supervisor ∧ supervisor.spawned = 1 ∧
      supervisor.phase.child? = some 0 ∧ 0 ∉ supervisor.killed) ∧
    ∃ p supervisor, Runs.exec (step World.openSettings) (start World.oneStdio) cutOff =
        some p ∧ p.stage = .exited true ∧
      p.world.supervisors.lookup "db" = some supervisor ∧ supervisor.spawned = 2 ∧
      0 ∈ supervisor.killed ∧ 1 ∉ supervisor.killed ∧ "db" ∈ p.timedOut ∧
      Prompt World.openSettings World.oneStdio cutOff ∧
      (supervisor.phase = .handshaking 1 ∨ ∃ tools, supervisor.phase = .offering 1 tools) := by
  refine ⟨?_, ?_⟩
  · have hfacts : (Runs.exec (step World.openSettings) (start World.oneStdio) refusedCaller).any
        (fun p => (p.stage = .exited false) &&
          (p.world.supervisors.lookup "db").any fun supervisor =>
            supervisor.spawned = 1 ∧ supervisor.phase.child? = some 0) = true := by
      decide +kernel
    obtain ⟨p, hp, hfacts⟩ := (Option.any_eq_true _ _).mp hfacts
    obtain ⟨hstage, hfound⟩ := (Bool.and_eq_true _ _).mp hfacts
    obtain ⟨supervisor, hlookup, hchild⟩ := (Option.any_eq_true _ _).mp hfound
    obtain ⟨hspawned, hwork⟩ := of_decide_eq_true hchild
    have hexit := of_decide_eq_true hstage
    refine ⟨p, supervisor, hp, hexit, hlookup, hspawned, hwork, ?_⟩
    have hleft := (left_behind World.openSettings World.oneStdio hp hexit hlookup).1
    exact (hleft 0 (by omega)).mpr hwork
  · have hfacts : (Runs.exec (step World.openSettings) (start World.oneStdio) cutOff).any
        (fun p => (p.stage = .exited true) &&
          (p.world.supervisors.lookup "db").any fun supervisor =>
            supervisor.spawned = 2 ∧ supervisor.phase.child? = some 1) = true := by
      decide +kernel
    obtain ⟨p, hp, hfacts⟩ := (Option.any_eq_true _ _).mp hfacts
    obtain ⟨hstage, hfound⟩ := (Bool.and_eq_true _ _).mp hfacts
    obtain ⟨supervisor, hlookup, hchild⟩ := (Option.any_eq_true _ _).mp hfound
    obtain ⟨hspawned, hwork⟩ := of_decide_eq_true hchild
    have hexit := of_decide_eq_true hstage
    obtain ⟨hleft, horderly⟩ := left_behind World.openSettings World.oneStdio hp hexit hlookup
    have hfirst : 0 ∈ supervisor.killed := by
      by_contra hnot
      have hzero := (hleft 0 (by omega)).mp hnot
      rw [hwork] at hzero
      cases hzero
    have hlast : 1 ∉ supervisor.killed := (hleft 1 (by omega)).mpr hwork
    rcases horderly rfl with ⟨-, hall⟩ | ⟨htimedOut, hprompt⟩
    · exact absurd (hall 1 (by omega)) hlast
    · exact ⟨p, supervisor, hp, hexit, hlookup, hspawned, hfirst, hlast, htimedOut, prompt_cutOff,
        hprompt prompt_cutOff 1 hwork⟩

end Process

end SentinelGateway
