import Mathlib.Algebra.Order.Field.Power
import Mathlib.Tactic.Linarith
import Mathlib.Tactic.Positivity
import SentinelGateway.Stdio.Restarts

/-!
# How fast children are spawned

A child that keeps failing is restarted after one second, then two, four and so on
up to a minute, and one that was well for more than a minute starts over with one
second. How often a supervisor without a budget spawns in the long run is a
question about these delays together: a cheap restart raises the count, and the
count comes down only when a minute has passed. Five attempts cost no less than
ninety-one seconds that way: a minute of good health and the delays of one, two,
four, eight and sixteen seconds. In the long run no more attempts are made, and at
most four of them in advance.
-/

namespace SentinelGateway

/-- `restart_count.saturating_sub(1) as i32`. -/
def backoffExponent (restartCount : ℕ) : ℤ := (BitVec.ofNat 32 (restartCount - 1)).toInt

/-- `backoff_delay` with a base of one second and a cap of sixty. `random` is what
`rand::random` returns, which lies in the half-open unit interval. -/
def backoffDelay (restartCount : ℕ) (random : ℚ) : Duration :=
  min (2 ^ backoffExponent restartCount) 60 +
    random * (1 / 2) * min (2 ^ backoffExponent restartCount) 60

/-- A supervisor in time: when its last child was spawned and when its sleep ends. -/
structure TimedSupervisor where
  run : SupervisorRun
  now : Instant
  spawnTime : Instant
  wake : Instant

/-- A step, the time at which it is taken, and a random number in case it needs one. -/
structure TimedLabel where
  label : SupervisorLabel
  time : Instant
  random : ℚ

namespace TimedSupervisor

/-- The start of `run_supervisor` at a time. -/
def start (config : BackendConfig) (now : Instant) : TimedSupervisor :=
  { run := .start config, now, spawnTime := now, wake := now }

/-- The step fits the clocks: a sleep is slept to its end, and the uptime of a child is
the time since it was spawned. -/
def timely (s : TimedSupervisor) (l : TimedLabel) : Bool :=
  match l.label with
  | .act .endBackoff => s.wake ≤ l.time
  | .act (.noticeExit uptime) => uptime = elapsed s.spawnTime l.time
  | _ => true

/-- When the last child was spawned, after a step. -/
def spawnTimeAfter (s : TimedSupervisor) (l : TimedLabel) : Instant :=
  match l.label with
  | .act (.spawn true) => l.time
  | _ => s.spawnTime

/-- When the sleep ends, after a step that leads to `next`. -/
def wakeAfter (s : TimedSupervisor) (l : TimedLabel) (next : SupervisorRun) : Instant :=
  match s.run.supervisor.phase, next.supervisor.phase with
  | .backingOff, _ => s.wake
  | _, .backingOff => l.time + backoffDelay next.supervisor.restartCount l.random
  | _, _ => s.wake

/-- One step. Time does not go backwards. -/
def step (s : TimedSupervisor) (l : TimedLabel) : Option TimedSupervisor :=
  if s.now ≤ l.time ∧ (0 ≤ l.random ∧ l.random < 1) ∧ s.timely l then
    (s.run.step l.label).map fun next =>
      { run := next, now := l.time, spawnTime := s.spawnTimeAfter l, wake := s.wakeAfter l next }
  else none

end TimedSupervisor

/-- The attempts to spawn a child along a timed run. -/
def attemptsIn (labels : List TimedLabel) : ℕ := spawnAttempts (labels.map TimedLabel.label)

theorem attemptsIn_concat (labels : List TimedLabel) (l : TimedLabel) :
    attemptsIn (labels ++ [l]) = attemptsIn labels + l.label.attempts := by
  rw [attemptsIn, List.map_append, spawnAttempts_append]
  rfl

/-- What an attempt costs in the long run, in seconds. -/
def attemptCost : ℚ := 91 / 5

/-- What the attempts may be ahead of the time, for a count of restarts. A failure adds
an attempt and takes away its delay; more than a minute is never reached. -/
def advance : ℕ → ℚ
  | 0 => 0
  | 1 => 86 / 5
  | 2 => 167 / 5
  | 3 => 238 / 5
  | 4 => 289 / 5
  | _ + 5 => 60

theorem advance_bounds (count : ℕ) : 0 ≤ advance count ∧ advance count ≤ 60 := by
  match count with
  | 0 | 1 | 2 | 3 | 4 => norm_num [advance]
  | n + 5 => norm_num [advance]

/-- As long as the count fits into an `i32`, the delay is at least what it looks like. -/
theorem le_backoffDelay {restartCount : ℕ} {random : ℚ} (hrandom : 0 ≤ random)
    (hcount : restartCount ≤ 2 ^ 31) :
    min (2 ^ (restartCount - 1)) 60 ≤ backoffDelay restartCount random := by
  have hexponent : backoffExponent restartCount = ((restartCount - 1 : ℕ) : ℤ) := by
    have hlt : restartCount - 1 < 2 ^ 32 := by omega
    rw [backoffExponent, BitVec.toInt_eq_toNat_of_lt, BitVec.toNat_ofNat, Nat.mod_eq_of_lt hlt]
    rw [BitVec.toNat_ofNat, Nat.mod_eq_of_lt hlt]
    omega
  have hpower : (2 : ℚ) ^ backoffExponent restartCount = 2 ^ (restartCount - 1) := by
    rw [hexponent, zpow_natCast]
  have hcapped : (0 : ℚ) ≤ min (2 ^ (restartCount - 1)) 60 := le_min (by positivity) (by norm_num)
  have hjitter : 0 ≤ random * (1 / 2) * min (2 ^ (restartCount - 1)) 60 :=
    mul_nonneg (mul_nonneg hrandom (by norm_num)) hcapped
  rw [backoffDelay, hpower]
  linarith

/-- The delay after a failure and the higher count are worth an attempt. -/
theorem advance_add_attemptCost_le (before : ℕ) :
    advance before + attemptCost ≤ min (2 ^ before) 60 + advance (before + 1) := by
  match before with
  | 0 | 1 | 2 | 3 | 4 => norm_num [advance, attemptCost]
  | n + 5 =>
    have hlarge : (32 : ℚ) ≤ min (2 ^ (n + 5)) 60 := by
      refine le_min ?_ (by norm_num)
      calc (32 : ℚ) = 2 ^ 5 := by norm_num
        _ ≤ 2 ^ (n + 5) := pow_le_pow_right₀ (by norm_num) (by omega)
    rw [advance, advance, attemptCost]
    linarith

namespace TimedSupervisor

variable {config : BackendConfig} {since : Instant} {attempts : ℕ} {s t : TimedSupervisor}
  {labels : List TimedLabel} {l : TimedLabel}

/-- Every counted failure is one of an attempt, and an attempt whose child is at work is
not counted yet. -/
def Counted (attempts : ℕ) (s : TimedSupervisor) : Prop :=
  s.run.supervisor.phase = .stopped ∨
    s.run.supervisor.restartCount + s.run.supervisor.phase.children ≤ attempts

/-- What the attempts may be ahead of the time in a state. -/
def ahead (s : TimedSupervisor) : ℚ := advance s.run.supervisor.restartCount

/-- The attempts since a time are paid for. While no child is at work, each of them has
cost its time or raised the count; a sleep is paid in advance. While a child is at work,
the last attempt is still to be paid for, unless it lies further back. -/
structure Paced (since : Instant) (attempts : ℕ) (s : TimedSupervisor) : Prop where
  later : since ≤ s.now
  overall : attemptCost * attempts ≤ s.now - since + (60 + attemptCost)
  between : s.run.supervisor.phase = .loopHead ∨ s.run.supervisor.phase = .spawning →
    attemptCost * attempts ≤ s.now - since + s.ahead
  asleep : s.run.supervisor.phase = .backingOff →
    attemptCost * attempts ≤ max s.wake s.now - since + s.ahead
  during : s.run.supervisor.phase.child? ≠ none → attempts = 0 ∨ s.spawnTime ≤ s.now ∧
    attemptCost * attempts ≤ s.spawnTime - since + s.ahead + attemptCost

theorem attemptCost_pos : 0 < attemptCost := by norm_num [attemptCost]

theorem cost_succ (attempts : ℕ) :
    attemptCost * ((attempts + 1 : ℕ) : ℚ) = attemptCost * attempts + attemptCost := by
  rw [Nat.cast_succ, mul_add, mul_one]

/-- Before any attempt nothing is to be paid. -/
theorem paced_zero (s : TimedSupervisor) : Paced s.now 0 s := by
  have hpos := attemptCost_pos
  have hahead : 0 ≤ s.ahead := (advance_bounds _).1
  refine ⟨le_rfl, ?_, ?_, ?_, fun _ => Or.inl rfl⟩
  · rw [Nat.cast_zero, mul_zero]
    linarith
  · intro _
    rw [Nat.cast_zero, mul_zero]
    linarith
  · intro _
    have hmax := le_max_right s.wake s.now
    rw [Nat.cast_zero, mul_zero]
    linarith

/-- What a step of a timed supervisor is. -/
theorem step_inv (h : s.step l = some t) :
    s.now ≤ l.time ∧ 0 ≤ l.random ∧ s.timely l = true ∧ s.run.step l.label = some t.run ∧
      t.now = l.time ∧ t.spawnTime = s.spawnTimeAfter l ∧ t.wake = s.wakeAfter l t.run := by
  unfold step at h
  split_ifs at h with hguard
  obtain ⟨next, hnext, rfl⟩ := Option.map_eq_some_iff.mp h
  exact ⟨hguard.1, hguard.2.1.1, hguard.2.2, hnext, rfl, rfl, rfl⟩

/-- Time passes, and the supervisor stays where it is. -/
theorem Paced.of_same (h : Paced since attempts s) (hnow : s.now ≤ t.now)
    (hphase : t.run.supervisor.phase = s.run.supervisor.phase)
    (hcount : t.run.supervisor.restartCount = s.run.supervisor.restartCount)
    (hspawn : t.spawnTime = s.spawnTime) (hwake : t.wake = s.wake) : Paced since attempts t := by
  have hahead : t.ahead = s.ahead := by rw [ahead, ahead, hcount]
  refine ⟨h.later.trans hnow, ?_, ?_, ?_, ?_⟩
  · linarith [h.overall]
  · intro hidle
    rw [hphase] at hidle
    rw [hahead]
    linarith [h.between hidle]
  · intro hsleeping
    rw [hphase] at hsleeping
    rw [hahead, hwake]
    linarith [h.asleep hsleeping, max_le_max_left s.wake hnow]
  · intro hchild
    rw [hphase] at hchild
    rw [hahead, hspawn]
    rcases h.during hchild with hzero | ⟨hbefore, hpaid⟩
    · exact Or.inl hzero
    · exact Or.inr ⟨hbefore.trans hnow, hpaid⟩

/-- A supervisor that has stopped makes no attempts, so nothing is to be paid. -/
theorem paced_stopped (hlater : since ≤ t.now)
    (hoverall : attemptCost * attempts ≤ t.now - since + (60 + attemptCost))
    (hphase : t.run.supervisor.phase = .stopped) : Paced since attempts t := by
  refine ⟨hlater, hoverall, ?_, ?_, ?_⟩
  · simp [hphase]
  · simp [hphase]
  · simp [hphase, SupervisorPhase.child?]

/-- A round fails when the count was at `before`: its attempt is paid by the higher
count, or by the sleep if the count does not matter any more. -/
theorem paced_failed {before : ℕ} {random : ℚ}
    (hcount : t.run.supervisor.restartCount = before + 1)
    (hfit : t.run.supervisor.phase = .backingOff → before + 1 ≤ 2 ^ 31)
    (hphase : t.run.supervisor.phase = .stopped ∨ t.run.supervisor.phase = .backingOff)
    (hrandom : 0 ≤ random)
    (hwake : t.run.supervisor.phase = .backingOff →
      t.wake = t.now + backoffDelay (before + 1) random)
    (hlater : since ≤ t.now)
    (hpaid : attempts = 0 ∨
      attemptCost * attempts ≤ t.now - since + advance before + attemptCost) :
    Paced since attempts t := by
  have hpos := attemptCost_pos
  have hoverall : attemptCost * attempts ≤ t.now - since + (60 + attemptCost) := by
    rcases hpaid with rfl | hpaid
    · rw [Nat.cast_zero, mul_zero]
      linarith
    · linarith [(advance_bounds before).2]
  rcases hphase with hstopped | hsleeping
  · exact paced_stopped hlater hoverall hstopped
  refine ⟨hlater, hoverall, by simp [hsleeping], ?_, by simp [hsleeping, SupervisorPhase.child?]⟩
  intro _
  rw [ahead, hcount]
  rcases hpaid with rfl | hpaid
  · rw [Nat.cast_zero, mul_zero]
    linarith [le_max_right t.wake t.now, (advance_bounds (before + 1)).1]
  · have hworth := advance_add_attemptCost_le before
    have hdelay := le_backoffDelay hrandom (hfit hsleeping)
    rw [Nat.add_sub_cancel] at hdelay
    have hmax := le_max_left t.wake t.now
    rw [hwake hsleeping] at hmax
    rw [hwake hsleeping]
    linarith

theorem wakeAfter_of_failed {next : SupervisorRun}
    (hphase : s.run.supervisor.phase ≠ .backingOff)
    (hnext : next.supervisor.phase = .backingOff) :
    s.wakeAfter l next = l.time + backoffDelay next.supervisor.restartCount l.random := by
  unfold wakeAfter
  rw [hnext]
  cases hcase : s.run.supervisor.phase with
  | backingOff => exact absurd hcase hphase
  | loopHead | spawning | handshaking | offering | monitoring | stopped => rfl

theorem wakeAfter_of_same {next : SupervisorRun}
    (hphase : next.supervisor.phase = s.run.supervisor.phase) : s.wakeAfter l next = s.wake := by
  unfold wakeAfter
  rw [hphase]
  cases s.run.supervisor.phase <;> rfl

theorem phase_countRestart (s : Supervisor) :
    s.countRestart.phase = .stopped ∨ s.countRestart.phase = .backingOff := by
  unfold Supervisor.countRestart
  split_ifs
  · exact Or.inl rfl
  · exact Or.inr rfl

/-- A round that fails, whichever way: the attempt of this step, or the child at work. -/
theorem Paced.fail {failed : Supervisor} {total : ℕ} (h : Paced since attempts s)
    (hstep : s.step l = some t) (hphase : s.run.supervisor.phase ≠ .backingOff)
    (hrun : t.run.supervisor = failed.countRestart)
    (hcounted : Counted total t) (htotal : total ≤ 2 ^ 31) {now : ℕ}
    (hpaid : now = 0 ∨
      attemptCost * now ≤ t.now - since + advance failed.restartCount + attemptCost) :
    Paced since now t := by
  obtain ⟨hnow, hrandom, -, -, htime, -, hwake⟩ := step_inv hstep
  have hcount : t.run.supervisor.restartCount = failed.restartCount + 1 := by
    rw [hrun]
    rfl
  refine paced_failed hcount ?_ ?_ hrandom ?_ (h.later.trans (hnow.trans htime.symm.le)) hpaid
  · intro hsleeping
    rcases hcounted with hstopped | hcounted
    · rw [hsleeping] at hstopped
      cases hstopped
    · omega
  · rw [hrun]
    exact phase_countRestart failed
  · intro hsleeping
    rw [hwake, wakeAfter_of_failed hphase hsleeping, htime, hcount]

/-- The child at work has been paid for up to the attempt it stems from. -/
theorem Paced.paid (h : Paced since attempts s) (hchild : s.run.supervisor.phase.child? ≠ none)
    (hnow : s.now ≤ t.now) :
    attempts = 0 ∨ attemptCost * attempts ≤ t.now - since + s.ahead + attemptCost := by
  rcases h.during hchild with hzero | ⟨hspawn, hpaid⟩
  · exact Or.inl hzero
  · exact Or.inr (by linarith)

/-- The round goes on with the same child. -/
theorem Paced.go_on (h : Paced since attempts s) (hnow : s.now ≤ t.now)
    (hchild : s.run.supervisor.phase.child? ≠ none)
    (hphase : t.run.supervisor.phase.child? ≠ none)
    (hcount : t.run.supervisor.restartCount = s.run.supervisor.restartCount)
    (hspawn : t.spawnTime = s.spawnTime) : Paced since attempts t := by
  have hahead : t.ahead = s.ahead := by rw [ahead, ahead, hcount]
  refine ⟨h.later.trans hnow, by linarith [h.overall], ?_, ?_, ?_⟩
  · rintro (hidle | hidle) <;> simp [hidle, SupervisorPhase.child?] at hphase
  · intro hsleeping
    simp [hsleeping, SupervisorPhase.child?] at hphase
  · intro _
    rw [hahead, hspawn]
    rcases h.during hchild with hzero | ⟨hbefore, hpaid⟩
    · exact Or.inl hzero
    · exact Or.inr ⟨hbefore.trans hnow, hpaid⟩

/-- An attempt counts when it has failed, and not before. -/
theorem Counted.step {total : ℕ} (h : Counted total s) (hstep : s.step l = some t) :
    Counted (total + l.label.attempts) t := by
  obtain ⟨-, -, -, hrun, -⟩ := step_inv hstep
  cases hlabel : l.label with
  | cancel | closeTools | takeTools =>
    rw [hlabel] at hrun
    obtain heq := Option.some.inj hrun
    unfold Counted
    rw [← heq]
    exact h
  | act action =>
    rw [hlabel] at hrun
    obtain ⟨supervisor, hact, heq⟩ := Option.map_eq_some_iff.mp hrun
    have hsupervisor : t.run.supervisor = supervisor := by rw [← heq]
    unfold Counted at h ⊢
    rw [hsupervisor]
    change supervisor.phase = .stopped ∨ _ ≤ total + action.attempts
    cases Supervisor.round_cases hact with
    | kept children count stopped =>
      rw [stopped, children, count]
      rcases h with hstopped | hcounted
      · exact Or.inl hstopped
      · right
        omega
    | failed running attempt free count stopped =>
      have hcounted := h.resolve_left running
      omega
    | quit why stopped => exact Or.inl stopped

/-- **One step.** Whatever the supervisor does, its attempts stay paid for. -/
theorem Paced.step {total : ℕ} (h : Paced since attempts s) (hstep : s.step l = some t)
    (hcounted : Counted total t) (htotal : total ≤ 2 ^ 31) :
    Paced since (attempts + l.label.attempts) t := by
  obtain ⟨hnow, -, htimely, hrun, htime, hspawn, hwake⟩ := step_inv hstep
  have hforward : s.now ≤ t.now := hnow.trans htime.symm.le
  have hlater : since ≤ t.now := h.later.trans hforward
  have hoverall : attemptCost * attempts ≤ t.now - since + (60 + attemptCost) := by
    linarith [h.overall]
  have hpos := attemptCost_pos
  have hbound : s.ahead ≤ 60 := (advance_bounds _).2
  cases hlabel : l.label with
  | cancel | closeTools | takeTools =>
    rw [hlabel] at hrun
    have heq := Option.some.inj hrun
    refine h.of_same hforward ?_ ?_ ?_ ?_
    · rw [← heq]
    · rw [← heq]
    · rw [hspawn, spawnTimeAfter, hlabel]
    · rw [hwake, wakeAfter_of_same (by rw [← heq])]
  | act action =>
    rw [hlabel] at hrun
    obtain ⟨supervisor, hact, heq⟩ := Option.map_eq_some_iff.mp hrun
    have hsupervisor : t.run.supervisor = supervisor := by rw [← heq]
    change Paced since (attempts + action.attempts) t
    cases Supervisor.branch_of_step hact with
    | left phase token => exact paced_stopped hlater hoverall (by rw [hsupervisor])
    | undeliverable child tools phase closed =>
      exact paced_stopped hlater hoverall (by rw [hsupervisor])
    | abandoned child phase token =>
      exact paced_stopped hlater hoverall (by rw [hsupervisor])
    | interrupted phase token =>
      exact paced_stopped hlater hoverall (by rw [hsupervisor])
    | began phase token =>
      have hpaid := h.between (Or.inl phase)
      have hahead : t.ahead = s.ahead := by rw [ahead, ahead, hsupervisor]
      refine ⟨hlater, hoverall, ?_, by simp [hsupervisor],
        by simp [hsupervisor, SupervisorPhase.child?]⟩
      intro _
      rw [hahead]
      change attemptCost * (attempts : ℚ) ≤ _
      linarith
    | spawned phase =>
      have hpaid := h.between (Or.inr phase)
      have hahead : t.ahead = s.ahead := by rw [ahead, ahead, hsupervisor]
      have htime' : t.spawnTime = t.now := by rw [hspawn, spawnTimeAfter, hlabel, htime]
      have hcost := cost_succ attempts
      refine ⟨hlater, ?_, by simp [hsupervisor], by simp [hsupervisor], fun _ => Or.inr ?_⟩
      · change attemptCost * ((attempts + 1 : ℕ) : ℚ) ≤ _
        linarith
      · refine ⟨htime'.le, ?_⟩
        change attemptCost * ((attempts + 1 : ℕ) : ℚ) ≤ _
        rw [hahead, htime']
        linarith
    | spawnFailed phase =>
      have hpaid := h.between (Or.inr phase)
      refine h.fail hstep (by simp [phase]) hsupervisor hcounted htotal (Or.inr ?_)
      have hcost := cost_succ attempts
      change attemptCost * ((attempts + 1 : ℕ) : ℚ) ≤ t.now - since + s.ahead + attemptCost
      linarith
    | discovered child tools phase =>
      refine h.go_on hforward (by simp [phase, SupervisorPhase.child?])
        (by simp [hsupervisor, SupervisorPhase.child?]) (by rw [hsupervisor]) ?_
      rw [hspawn, spawnTimeAfter, hlabel]
    | delivered child tools phase empty =>
      refine h.go_on hforward (by simp [phase, SupervisorPhase.child?])
        (by simp [hsupervisor, SupervisorPhase.child?]) (by rw [hsupervisor]) ?_
      rw [hspawn, spawnTimeAfter, hlabel]
    | handshakeFailed child phase =>
      have hpaid := h.paid (t := t) (by simp [phase, SupervisorPhase.child?]) hforward
      exact h.fail hstep (by simp [phase]) hsupervisor hcounted htotal hpaid
    | exited child =>
      refine h.of_same hforward ?_ ?_ ?_ ?_
      · rw [hsupervisor]
      · rw [hsupervisor]
      · rw [hspawn, spawnTimeAfter, hlabel]
      · rw [hwake, wakeAfter_of_same (by rw [hsupervisor])]
    | rested phase =>
      have hpaid := h.asleep phase
      have hahead : t.ahead = s.ahead := by rw [ahead, ahead, hsupervisor]
      have hslept : max s.wake s.now ≤ t.now := by
        rw [timely, hlabel] at htimely
        rw [htime]
        exact max_le (of_decide_eq_true htimely) hnow
      refine ⟨hlater, hoverall, ?_, by simp [hsupervisor],
        by simp [hsupervisor, SupervisorPhase.child?]⟩
      intro _
      rw [hahead]
      change attemptCost * (attempts : ℚ) ≤ _
      linarith
    | noticed child restartCount uptime phase count =>
      have hchild : s.run.supervisor.phase.child? ≠ none := by
        simp [phase, SupervisorPhase.child?]
      refine h.fail hstep (by simp [phase]) hsupervisor hcounted htotal ?_
      change attempts = 0 ∨
        attemptCost * attempts ≤ t.now - since + advance restartCount + attemptCost
      by_cases hlong : Supervisor.healthyThreshold < uptime
      · -- the count starts over, and the minute of good health pays for what it was
        rw [if_pos hlong] at count
        rw [count]
        rw [timely, hlabel] at htimely
        have huptime : uptime = elapsed s.spawnTime l.time := of_decide_eq_true htimely
        rcases h.during hchild with hzero | ⟨hspawned, hpaid⟩
        · exact Or.inl hzero
        · right
          have hminute : 60 < t.now - s.spawnTime := by
            rw [huptime, Supervisor.healthyThreshold, elapsed] at hlong
            rw [htime]
            rcases lt_max_iff.mp hlong with hlong | hlong
            · linarith
            · linarith
          rw [advance]
          linarith
      · rw [if_neg hlong] at count
        rw [count]
        exact h.paid hchild hforward

theorem counted_of_exec {now : Instant}
    (hrun : Runs.exec step (start config now) labels = some s) : Counted (attemptsIn labels) s := by
  refine Runs.exec_induction step (motive := fun labels s => Counted (attemptsIn labels) s)
    (Or.inr le_rfl) ?_ hrun
  intro labels l s t _ ih hstep
  rw [attemptsIn_concat]
  exact ih.step hstep

/-- **The spawn rate.** Whatever the children do and whenever, within any stretch of any
run: the attempts to spawn a child cost 18.2 seconds each, up to 78.2 seconds in advance. -/
theorem spawn_rate (config : BackendConfig) (now : Instant) (before after : List TimedLabel)
    (s t : TimedSupervisor) (hbefore : Runs.exec step (start config now) before = some s)
    (hafter : Runs.exec step s after = some t) (hfit : attemptsIn (before ++ after) ≤ 2 ^ 31) :
    91 / 5 * (attemptsIn after : ℚ) ≤ t.now - s.now + 391 / 5 := by
  have hpaced : Paced s.now (attemptsIn after) t := by
    refine Runs.exec_induction step
      (motive := fun after t => attemptsIn (before ++ after) ≤ 2 ^ 31 →
        Paced s.now (attemptsIn after) t)
      (fun _ => paced_zero s) ?_ hafter hfit
    intro after l u v hrun ih hstep hfit
    have hwhole : Runs.exec step (start config now) (before ++ after) = some u := by
      rw [Runs.exec_append, hbefore]
      exact hrun
    have hcounted := (counted_of_exec hwhole).step hstep
    rw [← List.append_assoc, attemptsIn_concat] at hfit
    rw [attemptsIn_concat]
    exact (ih (Nat.le_of_add_right_le hfit)).step hstep hcounted hfit
  have hoverall := hpaced.overall
  rw [attemptCost] at hoverall
  linarith

/-- A child that is well for a little more than a minute. -/
def wellOnce : List TimedLabel :=
  [⟨.act .checkCancel, 0, 0⟩, ⟨.act (.spawn true), 0, 0⟩, ⟨.act (.handshake (some [])), 0, 0⟩,
   ⟨.act .offer, 0, 0⟩, ⟨.act (.childExit 0), 61, 0⟩, ⟨.act (.noticeExit 61), 61, 0⟩]

/-- Two attempts after it that fail, as early as the delays allow. -/
def failedTwice : List TimedLabel :=
  [⟨.act .endBackoff, 62, 0⟩, ⟨.act .checkCancel, 62, 0⟩, ⟨.act (.spawn false), 62, 0⟩,
   ⟨.act .endBackoff, 64, 0⟩, ⟨.act .checkCancel, 64, 0⟩, ⟨.act (.spawn false), 64, 0⟩]

/-- A configuration without a limit on restarts. -/
def unlimited : BackendConfig := { SupervisorRun.twoRestarts with maxRestarts := 0 }

/-- They take no less time than the rate allows. -/
theorem spawn_rate_failed_twice : ∃ s t,
    Runs.exec step (start unlimited 0) wellOnce = some s ∧
      Runs.exec step s failedTwice = some t ∧
      91 / 5 * (attemptsIn failedTwice : ℚ) ≤ t.now - s.now + 391 / 5 := by
  have hrun : (Runs.exec step (start unlimited 0) (wellOnce ++ failedTwice)).isSome = true := by
    decide +kernel
  obtain ⟨t, ht⟩ := Option.isSome_iff_exists.mp hrun
  rw [Runs.exec_append] at ht
  obtain ⟨s, hs, ht⟩ := Option.bind_eq_some_iff.mp ht
  exact ⟨s, t, hs, ht, spawn_rate unlimited 0 wellOnce failedTwice s t hs ht (by decide)⟩

end TimedSupervisor

end SentinelGateway
