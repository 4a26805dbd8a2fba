import SentinelGateway.Stdio.Orphans

/-!
# How often a child is spawned

`restart_count` counts failures, and the supervisor stops as soon as the count
reaches `max_restarts`. The first failure is already counted, although no restart
has followed it yet, so a budget of `m` admits `m` attempts and `m - 1` restarts.
`restart_on_exit` is not read: an exit is a failure like the others.
-/

namespace SentinelGateway

/-- The number of children at work in a phase: one or none. -/
def SupervisorPhase.children (phase : SupervisorPhase) : ℕ := phase.child?.toList.length

theorem SupervisorPhase.children_le_one (phase : SupervisorPhase) : phase.children ≤ 1 := by
  unfold children
  cases phase.child? with
  | none => exact Nat.zero_le 1
  | some child => exact le_rfl

theorem SupervisorPhase.children_eq_zero_iff (phase : SupervisorPhase) :
    phase.children = 0 ↔ phase.child? = none := by
  unfold children
  cases phase.child? with
  | none => simp
  | some child => simp

/-- The number of calls of `StdioBackend::spawn` in a step. -/
def SupervisorAction.attempts : SupervisorAction → ℕ
  | .spawn _ => 1
  | _ => 0

def SupervisorLabel.attempts : SupervisorLabel → ℕ
  | .act action => action.attempts
  | .cancel | .closeTools | .takeTools => 0

/-- The number of calls of `StdioBackend::spawn` along a run. -/
def spawnAttempts : List SupervisorLabel → ℕ
  | [] => 0
  | label :: labels => label.attempts + spawnAttempts labels

theorem spawnAttempts_append (labels later : List SupervisorLabel) :
    spawnAttempts (labels ++ later) = spawnAttempts labels + spawnAttempts later := by
  induction labels with
  | nil => exact (Nat.zero_add _).symm
  | cons label labels ih =>
    rw [List.cons_append, spawnAttempts, spawnAttempts, ih]
    omega

/-- A label of a run without cancellation and with an open tools channel, in which
no child exits after the healthy threshold. -/
def SupervisorLabel.Failing : SupervisorLabel → Prop
  | .act (.noticeExit uptime) => uptime ≤ Supervisor.healthyThreshold
  | .act _ | .takeTools => True
  | .cancel | .closeTools => False

namespace Supervisor

/-- What a step means for the budget: it starts or goes on with a round, it counts a
failure of the attempt it makes or of the child at work, or it leaves the loop because
nobody needs the backend any more. -/
inductive RoundCase (cancelled : Bool) (s t : Supervisor) (action : SupervisorAction) : Prop
  | kept (children : t.phase.children = s.phase.children + action.attempts)
      (count : t.restartCount = s.restartCount)
      (stopped : t.phase = .stopped ↔ s.phase = .stopped)
  | failed (running : s.phase ≠ .stopped)
      (attempt : s.phase.children + action.attempts = 1) (free : t.phase.children = 0)
      (count : t.restartCount = s.restartCount + 1 ∨
        t.restartCount = 1 ∧ ∃ uptime, action = .noticeExit uptime ∧ healthyThreshold < uptime)
      (stopped : t.phase = .stopped ↔
        0 < s.config.maxRestarts ∧ s.config.maxRestarts ≤ t.restartCount)
  | quit (why : cancelled = true ∨ s.receiverOpen = false) (stopped : t.phase = .stopped)

theorem phase_countRestart_eq_stopped_iff (s : Supervisor) :
    s.countRestart.phase = .stopped ↔
      0 < s.config.maxRestarts ∧ s.config.maxRestarts ≤ s.countRestart.restartCount := by
  unfold countRestart
  split_ifs with h
  · exact iff_of_true rfl h
  · exact iff_of_false (by simp) h

theorem children_countRestart (s : Supervisor) : s.countRestart.phase.children = 0 := by
  unfold countRestart
  split_ifs <;> rfl

/-- A failure of the attempt that a step makes, or of the child it was about. -/
theorem roundCase_countRestart {cancelled : Bool} {s u : Supervisor} {action : SupervisorAction}
    (hconfig : u.config = s.config) (hrunning : s.phase ≠ .stopped)
    (hattempt : s.phase.children + action.attempts = 1)
    (hcount : u.restartCount = s.restartCount ∨
      u.restartCount = 0 ∧ ∃ uptime, action = .noticeExit uptime ∧ healthyThreshold < uptime) :
    RoundCase cancelled s u.countRestart action := by
  refine .failed hrunning hattempt (children_countRestart u) ?_ ?_
  · rcases hcount with hcount | ⟨hcount, hlong⟩
    · exact .inl (congrArg (· + 1) hcount)
    · exact .inr ⟨congrArg (· + 1) hcount, hlong⟩
  · rw [← hconfig]
    exact phase_countRestart_eq_stopped_iff u

/-- Every step of a supervisor is one of these as far as the budget goes. -/
theorem round_cases {cancelled : Bool} {s t : Supervisor} {action : SupervisorAction}
    (h : s.step cancelled action = some t) : RoundCase cancelled s t action := by
  cases branch_of_step h with
  | left phase token => exact .quit (.inl token) rfl
  | undeliverable child tools phase closed => exact .quit (.inr closed) rfl
  | abandoned child phase token => exact .quit (.inl token) rfl
  | interrupted phase token => exact .quit (.inl token) rfl
  | spawnFailed phase =>
    exact roundCase_countRestart rfl (by simp [phase]) (by rw [phase]; rfl) (.inl rfl)
  | handshakeFailed child phase =>
    exact roundCase_countRestart rfl (by simp [phase]) (by rw [phase]; rfl) (.inl rfl)
  | noticed child restartCount uptime phase count =>
    refine roundCase_countRestart rfl (by simp [phase]) (by rw [phase]; rfl) ?_
    by_cases hlong : healthyThreshold < uptime
    · rw [if_pos hlong] at count
      exact .inr ⟨count, uptime, rfl, hlong⟩
    · rw [if_neg hlong] at count
      exact .inl count
  | exited child => exact .kept rfl rfl Iff.rfl
  | began phase | spawned phase | discovered child tools phase | delivered child tools phase
  | rested phase => exact .kept (by rw [phase]; rfl) rfl (by simp [phase])

theorem receiverOpen_step {s t : Supervisor} (hcase : StepCase s t) :
    t.receiverOpen = s.receiverOpen := by
  cases hcase <;> rfl

/-- A handshake that completes is that of the child at work. -/
theorem children_of_discovered_ne {s t : Supervisor} (hcase : StepCase s t)
    (hne : t.discovered ≠ s.discovered) : t.phase.children = 1 := by
  cases hcase with
  | discovered child tools phase => rfl
  | moved | spawned | delivered | exited => exact absurd rfl hne

end Supervisor

namespace SupervisorRun

open Supervisor

/-- The attempts made so far are the counted failures and the child at work. The
supervisor has stopped exactly if the count has reached the budget. -/
structure Budgeted (config : BackendConfig) (attempts : ℕ) (s : SupervisorRun) : Prop where
  config_eq : s.supervisor.config = config
  not_cancelled : s.cancelled = false
  receiver_open : s.supervisor.receiverOpen = true
  attempts_eq : attempts = s.supervisor.restartCount + s.supervisor.phase.children
  count_le : s.supervisor.restartCount ≤ config.maxRestarts
  stopped_iff : s.supervisor.phase = .stopped ↔ s.supervisor.restartCount = config.maxRestarts

theorem budgeted_start {config : BackendConfig} (hbudget : 0 < config.maxRestarts) :
    Budgeted config 0 (start config) := by
  refine ⟨rfl, rfl, rfl, rfl, Nat.zero_le _, ?_⟩
  exact iff_of_false (by simp [start, new]) (by simp [start, new]; omega)

/-- A step of the supervisor keeps the books, unless a child exits after a long time. -/
theorem Budgeted.act {config : BackendConfig} {attempts : ℕ} {s : SupervisorRun}
    {action : SupervisorAction} {t : Supervisor} (h : Budgeted config attempts s)
    (hfailing : (SupervisorLabel.act action).Failing)
    (hstep : s.supervisor.step s.cancelled action = some t) :
    Budgeted config (attempts + action.attempts) { s with supervisor := t } := by
  have hcase := Supervisor.step_cases hstep
  have hconfig : t.config = config := (config_step hcase).trans h.config_eq
  have hopen : t.receiverOpen = true := (receiverOpen_step hcase).trans h.receiver_open
  have hattempts := h.attempts_eq
  cases Supervisor.round_cases hstep with
  | kept children count stopped =>
    refine ⟨hconfig, h.not_cancelled, hopen, ?_, ?_, ?_⟩
    · change _ = t.restartCount + t.phase.children
      omega
    · change t.restartCount ≤ _
      rw [count]
      exact h.count_le
    · change t.phase = _ ↔ t.restartCount = _
      rw [stopped, count]
      exact h.stopped_iff
  | failed running attempt free count stopped =>
    have hcount : t.restartCount = s.supervisor.restartCount + 1 := by
      rcases count with hnext | ⟨-, uptime, rfl, hlong⟩
      · exact hnext
      · exact absurd hlong (not_lt.mpr hfailing)
    have hne := mt h.stopped_iff.mpr running
    have hle := h.count_le
    refine ⟨hconfig, h.not_cancelled, hopen, ?_, ?_, ?_⟩
    · change _ = t.restartCount + t.phase.children
      omega
    · change t.restartCount ≤ _
      omega
    · change t.phase = _ ↔ t.restartCount = _
      rw [stopped, h.config_eq]
      omega
  | quit why stopped =>
    rcases why with hcancelled | hclosed
    · rw [h.not_cancelled] at hcancelled
      cases hcancelled
    · rw [h.receiver_open] at hclosed
      cases hclosed

/-- The books are right along every run in which every child fails. -/
theorem budgeted_of_exec {config : BackendConfig} (hbudget : 0 < config.maxRestarts)
    {labels : List SupervisorLabel} {s : SupervisorRun}
    (hrun : Runs.exec step (start config) labels = some s)
    (hfailing : ∀ label ∈ labels, label.Failing) : Budgeted config (spawnAttempts labels) s := by
  refine Runs.exec_induction step
    (motive := fun labels s => (∀ label ∈ labels, SupervisorLabel.Failing label) →
      Budgeted config (spawnAttempts labels) s)
    (fun _ => budgeted_start hbudget) ?_ hrun hfailing
  intro labels label s t _ ih hstep hfailing
  have hbefore := ih fun other hother => hfailing other (List.mem_append_left _ hother)
  have hlabel := hfailing label (by simp)
  rw [spawnAttempts_append]
  cases label with
  | act action =>
    obtain ⟨supervisor, hact, rfl⟩ := Option.map_eq_some_iff.mp hstep
    exact hbefore.act hlabel hact
  | takeTools =>
    obtain rfl := Option.some.inj hstep
    exact ⟨hbefore.config_eq, hbefore.not_cancelled, hbefore.receiver_open,
      hbefore.attempts_eq, hbefore.count_le, hbefore.stopped_iff⟩
  | cancel => exact absurd hlabel id
  | closeTools => exact absurd hlabel id

theorem Budgeted.attempts_le {config : BackendConfig} {attempts : ℕ} {s : SupervisorRun}
    (h : Budgeted config attempts s) : attempts ≤ config.maxRestarts := by
  have hchildren := s.supervisor.phase.children_le_one
  have hattempts := h.attempts_eq
  have hle := h.count_le
  by_cases hcount : s.supervisor.restartCount = config.maxRestarts
  · have hfree : s.supervisor.phase.children = 0 := by
      rw [h.stopped_iff.mpr hcount]
      rfl
    omega
  · omega

theorem Budgeted.stopped_iff_attempts {config : BackendConfig} {attempts : ℕ}
    {s : SupervisorRun} (h : Budgeted config attempts s) :
    s.supervisor.phase = .stopped ↔
      attempts = config.maxRestarts ∧ s.supervisor.phase.child? = none := by
  have hattempts := h.attempts_eq
  rw [← SupervisorPhase.children_eq_zero_iff]
  constructor
  · intro hstopped
    have hcount := h.stopped_iff.mp hstopped
    have hfree : s.supervisor.phase.children = 0 := by
      rw [hstopped]
      rfl
    omega
  · rintro ⟨hall, hfree⟩
    rw [h.stopped_iff]
    omega

/-- Children that cannot be spawned, one after the other. -/
def failedSpawns : ℕ → List SupervisorLabel
  | 0 => [.act .checkCancel, .act (.spawn false)]
  | n + 1 => failedSpawns n ++ [.act .endBackoff, .act .checkCancel, .act (.spawn false)]

theorem failing_failedSpawns (n : ℕ) : ∀ label ∈ failedSpawns n, label.Failing := by
  induction n with
  | zero => simp [failedSpawns, SupervisorLabel.Failing]
  | succ n ih =>
    intro label hlabel
    rcases List.mem_append.mp hlabel with hbefore | hlast
    · exact ih label hbefore
    · simp only [List.mem_cons, List.not_mem_nil, or_false] at hlast
      rcases hlast with rfl | rfl | rfl <;> trivial

theorem spawnAttempts_failedSpawns (n : ℕ) : spawnAttempts (failedSpawns n) = n + 1 := by
  induction n with
  | zero => rfl
  | succ n ih =>
    have hlast : spawnAttempts [.act .endBackoff, .act .checkCancel, .act (.spawn false)] = 1 := rfl
    rw [failedSpawns, spawnAttempts_append, ih, hlast]

/-- Where failed attempts lead: to another one within the budget, and to the end once
it is used up. -/
theorem exec_failedSpawns {config : BackendConfig} {n : ℕ} (hn : n < config.maxRestarts) :
    Runs.exec step (start config) (failedSpawns n) = some
      { supervisor :=
          { Supervisor.new config with
            restartCount := n + 1
            phase := if config.maxRestarts ≤ n + 1 then .stopped else .backingOff }
        cancelled := false } := by
  induction n with
  | zero => simp [failedSpawns, start, new, step, Supervisor.step, countRestart, hn]
  | succ n ih =>
    have hleft : ¬config.maxRestarts ≤ n + 1 := by omega
    have hpos : 0 < config.maxRestarts := by omega
    rw [failedSpawns, Runs.exec_append, ih (by omega)]
    simp [hleft, hpos, new, step, Supervisor.step, countRestart]

/-- `max_restarts` restarts follow the first attempt when every child fails, and then
the supervisor stops. -/
def RestartsAllowed (config : BackendConfig) : Prop :=
  ∀ labels s, Runs.exec step (start config) labels = some s →
    (∀ label ∈ labels, label.Failing) → s.supervisor.phase = .stopped →
      spawnAttempts labels = config.maxRestarts + 1

/-- **Restart budget.** Whatever the mixture of failures, a supervisor makes at most
`max_restarts` attempts to spawn a child and stops when the last of them has failed:
one attempt fewer than the budget allows. -/
theorem restarts_one_short {config : BackendConfig} (hbudget : 0 < config.maxRestarts) :
    ¬RestartsAllowed config ∧
    ∀ labels s, Runs.exec step (start config) labels = some s →
      (∀ label ∈ labels, label.Failing) →
        spawnAttempts labels ≤ config.maxRestarts ∧
        (s.supervisor.phase = .stopped ↔
          spawnAttempts labels = config.maxRestarts ∧ s.supervisor.phase.child? = none) := by
  constructor
  · intro hallowed
    obtain ⟨n, hn⟩ : ∃ n, config.maxRestarts = n + 1 := ⟨config.maxRestarts - 1, by omega⟩
    have hattempts := hallowed _ _ (exec_failedSpawns (by omega)) (failing_failedSpawns n)
      (if_pos (by omega))
    rw [spawnAttempts_failedSpawns] at hattempts
    omega
  · intro labels s hrun hfailing
    have hbooks := budgeted_of_exec hbudget hrun hfailing
    exact ⟨hbooks.attempts_le, hbooks.stopped_iff_attempts⟩

/-- A configuration with two restarts. -/
def twoRestarts : BackendConfig :=
  { name := "files", backendType := .stdio, url := none, command := some "mcp", maxRestarts := 2 }

/-- It does not get them. -/
theorem restarts_one_short_two :
    0 < twoRestarts.maxRestarts ∧ ¬RestartsAllowed twoRestarts :=
  ⟨by decide, (restarts_one_short (by decide)).1⟩

/-- With a budget of two restarts, the supervisor stops after two failed handshakes and
one restart. -/
theorem two_attempts_for_two_restarts : ¬RestartsAllowed twoRestarts := by
  intro hallowed
  have hattempts := hallowed
    [.act .checkCancel, .act (.spawn true), .act (.handshake none), .act .endBackoff,
      .act .checkCancel, .act (.spawn true), .act (.handshake none)]
    { supervisor :=
        { Supervisor.new twoRestarts with
          phase := .stopped
          restartCount := 2
          spawned := 2
          killed := [0, 1] }
      cancelled := false }
    rfl (by simp [SupervisorLabel.Failing]) rfl
  exact absurd hattempts (by decide)

/-- Once a child that completed its handshake has exited, no further child is spawned,
if the configuration says so. -/
def ObeysRestartOnExit (config : BackendConfig) : Prop :=
  config.restartOnExit = false → ∀ labels s, Runs.exec step (start config) labels = some s →
    (∃ child ∈ s.supervisor.discovered, child ∈ s.supervisor.exited) →
      ∀ label t, s.step label = some t → t.supervisor.spawned = s.supervisor.spawned

/-- With a single attempt, a child that completed its handshake is still at work or the
supervisor has stopped. -/
def OnlyChild (config : BackendConfig) (s : Supervisor) : Prop :=
  s.config = config ∧ (s.discovered ≠ [] → s.phase.children = 1 ∨ s.phase = .stopped)

theorem OnlyChild.step {config : BackendConfig} (hbudget : config.maxRestarts = 1)
    {cancelled : Bool} {s t : Supervisor} {action : SupervisorAction} (h : OnlyChild config s)
    (hstep : s.step cancelled action = some t) : OnlyChild config t := by
  have hcase := Supervisor.step_cases hstep
  refine ⟨(config_step hcase).trans h.1, ?_⟩
  intro hdiscovered
  cases Supervisor.round_cases hstep with
  | kept children count stopped =>
    have hchildren := t.phase.children_le_one
    by_cases hbefore : s.discovered = []
    · exact .inl (children_of_discovered_ne hcase (hbefore ▸ hdiscovered))
    · rcases h.2 hbefore with hchild | hstopped
      · left
        omega
      · exact .inr (stopped.mpr hstopped)
  | failed running attempt free count stopped =>
    right
    rw [stopped, h.1, hbudget]
    rcases count with hcount | ⟨hcount, -⟩ <;> omega
  | quit why stopped => exact .inr stopped

theorem onlyChild_of_exec {config : BackendConfig} (hbudget : config.maxRestarts = 1)
    {labels : List SupervisorLabel} {s : SupervisorRun}
    (hrun : Runs.exec step (start config) labels = some s) : OnlyChild config s.supervisor := by
  refine exec_supervisor_induction ⟨rfl, fun hne => absurd rfl hne⟩ ?_ ?_ hrun
  · intro _ action s t honly hact
    exact honly.step hbudget hact
  · intro s receiverOpen buffer honly
    exact honly

/-- A step that spawns no child leaves their number. -/
theorem spawned_le_of_step {s t : SupervisorRun} {label : SupervisorLabel}
    (h : s.step label = some t) : s.supervisor.spawned ≤ t.supervisor.spawned := by
  cases label with
  | act action =>
    obtain ⟨supervisor, hact, rfl⟩ := Option.map_eq_some_iff.mp h
    cases Supervisor.step_cases hact with
    | spawned phase => exact Nat.le_succ _
    | moved | discovered | delivered | exited => exact le_rfl
  | cancel | closeTools | takeTools =>
    obtain rfl := Option.some.inj h
    exact le_rfl

/-- A child that completes its handshake, exits and is followed by another one. -/
def respawning : List SupervisorLabel :=
  [.act .checkCancel, .act (.spawn true), .act (.handshake (some [])), .act .offer,
    .act (.childExit 0), .act (.noticeExit 0), .act .endBackoff, .act .checkCancel]

theorem exec_respawning {config : BackendConfig} (hbudget : config.maxRestarts ≠ 1) :
    Runs.exec step (start config) respawning = some
      { supervisor :=
          { Supervisor.new config with
            phase := .spawning
            restartCount := 1
            buffer := some ([], (Supervisor.new config).handle 0)
            spawned := 1
            discovered := [0]
            exited := [0]
            killed := [0] }
        cancelled := false } := by
  have hleft : ¬(0 < config.maxRestarts ∧ config.maxRestarts ≤ 1) := by omega
  simp [respawning, start, new, step, Supervisor.step, countRestart, kill, handle, hleft]

/-- **`restart_on_exit`.** The setting is obeyed exactly if it asks for nothing or the
budget ends with the first failure anyway. -/
theorem obeysRestartOnExit_iff (config : BackendConfig) :
    ObeysRestartOnExit config ↔ config.restartOnExit = true ∨ config.maxRestarts = 1 := by
  constructor
  · intro hobeys
    by_contra hnot
    obtain ⟨hset, hbudget⟩ := not_or.mp hnot
    have hspawned := hobeys (Bool.not_eq_true _ ▸ hset) respawning _ (exec_respawning hbudget)
      ⟨0, by simp, by simp⟩ (.act (.spawn true)) _ rfl
    exact absurd hspawned (Nat.succ_ne_self 1)
  · rintro hsetting hset labels s hrun ⟨child, hdiscovered, -⟩ label t hstep
    rcases hsetting with htrue | hbudget
    · rw [hset] at htrue
      cases htrue
    · have honly := (onlyChild_of_exec hbudget hrun).2 (List.ne_nil_of_mem hdiscovered)
      rcases Nat.lt_or_eq_of_le (spawned_le_of_step hstep) with hlt | heq
      · rw [spawning_of_spawned_lt hstep hlt] at honly
        rcases honly with hchild | hstopped
        · cases hchild
        · cases hstopped
      · exact heq.symm

/-- A backend that is not to be restarted is restarted under the default budget. -/
theorem restarted_in_spite_of_setting :
    let config : BackendConfig :=
      { name := "files", backendType := .stdio, url := none, command := some "mcp",
        restartOnExit := false }
    ¬ObeysRestartOnExit config := by
  intro config hobeys
  have hspawned := hobeys rfl respawning _ (exec_respawning (by decide)) ⟨0, by simp, by simp⟩
    (.act (.spawn true)) _ rfl
  exact absurd hspawned (by decide)

end SupervisorRun

end SentinelGateway
