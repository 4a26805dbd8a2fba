import SentinelGateway.Library.Runs
import SentinelGateway.Stdio.Supervisor

/-!
# No child is left behind

Children are spawned with `kill_on_drop(false)`, so a child the supervisor walks
away from without a signal would live on. The loop of `run_supervisor` has many
ways out of a round. On each of them the child of the round has been passed to
`kill_process_group` before the next one is spawned and before the loop ends.
-/

namespace SentinelGateway

/-- A supervisor at work, with the state of the token it watches. -/
structure SupervisorRun where
  supervisor : Supervisor
  cancelled : Bool

/-- A step of the supervisor or of a child, or something the rest of the process
does: it cancels the token, drops its end of the tools channel, or takes the
message out of it. -/
inductive SupervisorLabel where
  | act (action : SupervisorAction)
  | cancel
  | closeTools
  | takeTools

namespace SupervisorRun

/-- The start of `run_supervisor`. -/
def start (config : BackendConfig) : SupervisorRun :=
  { supervisor := .new config, cancelled := false }

def step (s : SupervisorRun) : SupervisorLabel → Option SupervisorRun
  | .act action => (s.supervisor.step s.cancelled action).map fun supervisor =>
      { s with supervisor }
  | .cancel => some { s with cancelled := true }
  | .closeTools => some { s with supervisor := { s.supervisor with receiverOpen := false } }
  | .takeTools => some { s with supervisor := { s.supervisor with buffer := none } }

end SupervisorRun

namespace Supervisor

/-- Every child spawned so far has been signalled, except the one the current
phase is about. -/
def Signalled (s : Supervisor) : Prop :=
  ∀ child < s.spawned, child ∈ s.killed ∨ s.phase.child? = some child

theorem signalled_new (config : BackendConfig) : (new config).Signalled := by
  intro child hchild
  exact absurd hchild (Nat.not_lt_zero child)

/-- A phase that is about no child finds every child signalled. -/
theorem Signalled.of_free {s : Supervisor} (h : s.Signalled) (hfree : s.phase.child? = none) :
    ∀ child < s.spawned, child ∈ s.killed := by
  intro child hchild
  rcases h child hchild with hkilled | hcurrent
  · exact hkilled
  · rw [hfree] at hcurrent
    cases hcurrent

theorem Signalled.step {s t : Supervisor} (h : s.Signalled) (hcase : StepCase s t) :
    t.Signalled := by
  cases hcase with
  | moved phase restartCount killed free offered signalled =>
    intro child hchild
    left
    rw [signalled]
    rcases h child hchild with hkilled | hcurrent
    · exact List.mem_append_left _ hkilled
    · exact List.mem_append_right _ (by simp [hcurrent])
  | spawned phase =>
    intro child hchild
    rcases Nat.lt_succ_iff_lt_or_eq.mp hchild with hearlier | rfl
    · exact Or.inl (h.of_free (by rw [phase]; rfl) child hearlier)
    · exact Or.inr rfl
  | discovered current tools phase =>
    intro child hchild
    have hsame := h child hchild
    rwa [phase] at hsame
  | delivered current tools phase empty =>
    intro child hchild
    have hsame := h child hchild
    rwa [phase] at hsame
  | exited current => exact h

end Supervisor

namespace SupervisorRun

/-- What holds at the start of a supervisor and is kept by its steps holds along every
run, if it says nothing about the tools channel. -/
theorem exec_supervisor_induction {P : Supervisor → Prop} {config : BackendConfig}
    (start_case : P (.new config))
    (act_case : ∀ cancelled action s t, P s → s.step cancelled action = some t → P t)
    (channel_case : ∀ s receiverOpen buffer, P s → P { s with receiverOpen, buffer })
    {labels : List SupervisorLabel} {s : SupervisorRun}
    (hrun : Runs.exec step (start config) labels = some s) : P s.supervisor := by
  refine Runs.exec_induction step (motive := fun _ s => P s.supervisor) start_case ?_ hrun
  intro _ label s t _ ih hstep
  cases label with
  | act action =>
    obtain ⟨supervisor, hact, rfl⟩ := Option.map_eq_some_iff.mp hstep
    exact act_case s.cancelled action s.supervisor supervisor ih hact
  | cancel =>
    obtain rfl := Option.some.inj hstep
    exact ih
  | closeTools =>
    obtain rfl := Option.some.inj hstep
    exact channel_case s.supervisor false s.supervisor.buffer ih
  | takeTools =>
    obtain rfl := Option.some.inj hstep
    exact channel_case s.supervisor s.supervisor.receiverOpen none ih

/-- Whatever the environment does in between, only the child of the current phase
is not signalled. -/
theorem signalled_of_exec {config : BackendConfig} {labels : List SupervisorLabel}
    {s : SupervisorRun} (h : Runs.exec step (start config) labels = some s) :
    s.supervisor.Signalled := by
  refine exec_supervisor_induction (Supervisor.signalled_new config) ?_ ?_ h
  · intro _ action s t hsignalled hact
    exact hsignalled.step (Supervisor.step_cases hact)
  · intro s receiverOpen buffer hsignalled
    exact hsignalled

/-- A step that spawns a child is taken in the spawning phase. -/
theorem spawning_of_spawned_lt {s t : SupervisorRun} {label : SupervisorLabel}
    (h : s.step label = some t) (hlt : s.supervisor.spawned < t.supervisor.spawned) :
    s.supervisor.phase = .spawning := by
  cases label with
  | act action =>
    obtain ⟨supervisor, hact, rfl⟩ := Option.map_eq_some_iff.mp h
    have hcase := Supervisor.step_cases hact
    generalize hs : s.supervisor = before at hcase hlt
    cases hcase with
    | spawned phase => exact phase
    | moved | discovered | delivered | exited => exact absurd hlt (Nat.lt_irrefl _)
  | cancel | closeTools | takeTools =>
    obtain rfl := Option.some.inj h
    exact absurd hlt (Nat.lt_irrefl _)

/-- **No orphans.** In every run, a step that spawns a child finds every earlier
child already passed to `kill_process_group`, and when the loop has ended every
child it ever spawned has been passed to it. -/
theorem no_orphans (config : BackendConfig) (labels : List SupervisorLabel) (s : SupervisorRun)
    (h : Runs.exec step (start config) labels = some s) :
    (∀ label t, s.step label = some t → s.supervisor.spawned < t.supervisor.spawned →
      ∀ child < s.supervisor.spawned, child ∈ s.supervisor.killed) ∧
    (s.supervisor.phase = .stopped →
      ∀ child < s.supervisor.spawned, child ∈ s.supervisor.killed) := by
  have hsignalled := signalled_of_exec h
  constructor
  · intro label t hstep hlt
    apply hsignalled.of_free
    rw [spawning_of_spawned_lt hstep hlt]
    rfl
  · intro hstopped
    apply hsignalled.of_free
    rw [hstopped]
    rfl

/-- Two children whose handshakes fail under a budget of two restarts: both are
signalled by the time the supervisor stops. -/
theorem no_orphans_after_two_failures :
    let config : BackendConfig :=
      { name := "files", backendType := .stdio, url := none, command := some "mcp",
        maxRestarts := 2 }
    ∃ s, Runs.exec step (start config)
        [.act .checkCancel, .act (.spawn true), .act (.handshake none), .act .endBackoff,
          .act .checkCancel, .act (.spawn true), .act (.handshake none)] = some s ∧
      s.supervisor.spawned = 2 ∧ s.supervisor.phase = .stopped ∧
      ∀ child < 2, child ∈ s.supervisor.killed := by
  intro config
  have hrun : Runs.exec step (start config)
      [.act .checkCancel, .act (.spawn true), .act (.handshake none), .act .endBackoff,
        .act .checkCancel, .act (.spawn true), .act (.handshake none)] = some
      { supervisor :=
          { Supervisor.new config with
            phase := .stopped
            restartCount := 2
            spawned := 2
            killed := [0, 1] }
        cancelled := false } := rfl
  exact ⟨_, hrun, rfl, rfl, (no_orphans config _ _ hrun).2 rfl⟩

end SupervisorRun

end SentinelGateway
