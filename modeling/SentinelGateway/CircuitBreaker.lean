import Mathlib.Algebra.Order.Ring.Rat
import Mathlib.Data.List.DropRight
import Mathlib.Tactic.Linarith
import SentinelGateway.Config
import SentinelGateway.Library.Runs

/-!
# Circuit breakers

The breaker of `health/circuit_breaker.rs` is an automaton with a counter and a
timestamp. What it is for mentions neither: a backend is cut off while its most
recent calls form a long enough run of failures and the last failure is recent.
`Tracks` ties the two together and every operation of the breaker keeps it.
-/

namespace SentinelGateway

/-- `CircuitState`. -/
inductive CircuitState where
  | closed
  | opened
  | halfOpen
  deriving DecidableEq

/-- `CircuitBreaker`. The counter is an unsigned 32-bit integer and wraps around. -/
structure CircuitBreaker where
  state : CircuitState
  failureCount : UInt32
  failureThreshold : UInt32
  recoveryTimeout : Duration
  lastFailure : Option Instant

namespace CircuitBreaker

/-- `CircuitBreaker::new`. -/
def new (threshold : UInt32) (recoveryTimeout : Duration) : CircuitBreaker :=
  { state := .closed, failureCount := 0, failureThreshold := threshold, recoveryTimeout,
    lastFailure := none }

/-- `CircuitBreaker::allow_request`. -/
def allowRequest (cb : CircuitBreaker) (now : Instant) : CircuitBreaker × Bool :=
  match cb.state with
  | .closed => (cb, true)
  | .opened =>
    match cb.lastFailure with
    | some t =>
      if cb.recoveryTimeout ≤ elapsed t now then ({ cb with state := .halfOpen }, true)
      else (cb, false)
    | none => (cb, false)
  | .halfOpen => (cb, true)

/-- `CircuitBreaker::record_success`. -/
def recordSuccess (cb : CircuitBreaker) : CircuitBreaker :=
  { cb with failureCount := 0, state := .closed }

/-- `CircuitBreaker::record_failure`. -/
def recordFailure (cb : CircuitBreaker) (now : Instant) : CircuitBreaker :=
  { cb with
    failureCount := cb.failureCount + 1
    lastFailure := some now
    state := if cb.failureThreshold ≤ cb.failureCount + 1 then .opened else cb.state }

end CircuitBreaker

/-- The result of a call to a backend; failures carry the time they were recorded. -/
inductive CallResult where
  | success
  | failure (recordedAt : Instant)
  deriving DecidableEq

def CallResult.isFailure : CallResult → Bool
  | .success => false
  | .failure _ => true

/-- The circuit is open by history: the most recent results are a run of at least
`max threshold 1` failures, the last of them recorded less than `timeout` ago. -/
def OpenByHistory (threshold : ℕ) (timeout : Duration) (history : List CallResult)
    (now : Instant) : Prop :=
  ∃ before run t, history = before ++ run ++ [.failure t] ∧ (∀ r ∈ run, r.isFailure = true) ∧
    max threshold 1 ≤ run.length + 1 ∧ now - t < timeout

/-- No run of consecutive failures is as long as the 32-bit counter can count. -/
def RunsFit (history : List CallResult) : Prop :=
  ∀ before run rest, history = before ++ run ++ rest → (∀ r ∈ run, r.isFailure = true) →
    run.length < 2 ^ 32

/-- The number of failures at the end of a history. -/
def failureStreak (history : List CallResult) : ℕ :=
  (history.rtakeWhile CallResult.isFailure).length

@[simp] theorem failureStreak_success (history : List CallResult) :
    failureStreak (history ++ [.success]) = 0 := by
  simp [failureStreak, CallResult.isFailure]

@[simp] theorem failureStreak_failure (history : List CallResult) (t : Instant) :
    failureStreak (history ++ [.failure t]) = failureStreak history + 1 := by
  rw [failureStreak, List.rtakeWhile_concat_pos _ _ _ rfl, List.length_append, failureStreak,
    List.length_singleton]

/-- Being open by history in terms of the final streak and the last result. -/
theorem openByHistory_iff {threshold : ℕ} {timeout : Duration} {history : List CallResult}
    {now : Instant} : OpenByHistory threshold timeout history now ↔
      max threshold 1 ≤ failureStreak history ∧
        ∃ t, history.getLast? = some (.failure t) ∧ now - t < timeout := by
  constructor
  · rintro ⟨before, run, t, rfl, hrun, hlong, hrecent⟩
    refine ⟨?_, t, by simp, hrecent⟩
    have hstreak : run.length ≤ failureStreak (before ++ run) := by
      clear hlong
      induction run using List.reverseRecOn with
      | nil => simp
      | append_singleton run r ih =>
        obtain ⟨u, rfl⟩ : ∃ u, r = .failure u := by
          cases r with
          | success => exact absurd (hrun .success (by simp)) (by simp [CallResult.isFailure])
          | failure u => exact ⟨u, rfl⟩
        rw [← List.append_assoc, failureStreak_failure, List.length_append, List.length_singleton]
        exact Nat.add_le_add_right (ih fun x hx => hrun x (by simp [hx])) 1
    rw [failureStreak_failure]
    omega
  · rintro ⟨hlong, t, hlast, hrecent⟩
    obtain ⟨before, rfl⟩ := List.getLast?_eq_some_iff.mp hlast
    refine ⟨before.rdropWhile CallResult.isFailure, before.rtakeWhile CallResult.isFailure, t, ?_,
      fun r hr => List.mem_rtakeWhile_imp hr, ?_, hrecent⟩
    · rw [List.rdropWhile_append_rtakeWhile]
    · rwa [failureStreak_failure] at hlong

/-- A history whose runs fit has a final streak that fits. -/
theorem RunsFit.streak_lt {history : List CallResult} (h : RunsFit history) :
    failureStreak history < 2 ^ 32 :=
  h (history.rdropWhile CallResult.isFailure) (history.rtakeWhile CallResult.isFailure) []
    (by rw [List.rdropWhile_append_rtakeWhile, List.append_nil])
    fun _ hr => List.mem_rtakeWhile_imp hr

theorem RunsFit.of_append {history rest : List CallResult} (h : RunsFit (history ++ rest)) :
    RunsFit history := by
  intro before run after heq hrun
  exact h before run (after ++ rest) (by rw [heq]; simp) hrun

namespace CircuitBreaker

/-- A breaker that refuses a request is left as it was. -/
theorem allowRequest_of_refused (cb : CircuitBreaker) {now : Instant}
    (h : (cb.allowRequest now).2 = false) : (cb.allowRequest now).1 = cb := by
  unfold allowRequest at h ⊢
  cases hstate : cb.state with
  | closed => rfl
  | halfOpen => rfl
  | opened =>
    cases hlast : cb.lastFailure with
    | none => rfl
    | some t =>
      simp only [hstate, hlast] at h ⊢
      split_ifs at h ⊢
      rfl

/-- The breaker knows the history: it counts the final streak, remembers when the
last failure was recorded, is not closed exactly when the streak is long enough,
and is half open only if the timeout has passed by every time still to come. -/
structure Tracks (threshold : UInt32) (timeout : Duration) (history : List CallResult)
    (future : Set Instant) (cb : CircuitBreaker) : Prop where
  threshold_eq : cb.failureThreshold = threshold
  timeout_eq : cb.recoveryTimeout = timeout
  count_eq : cb.failureCount.toNat = failureStreak history
  last_eq : ∀ t, history.getLast? = some (.failure t) → cb.lastFailure = some t
  closed_iff : cb.state = .closed ↔ failureStreak history < max threshold.toNat 1
  half_open : cb.state = .halfOpen → ∀ t, history.getLast? = some (.failure t) →
    ∀ now ∈ future, timeout ≤ now - t
  past : ∀ t, history.getLast? = some (.failure t) → ∀ now ∈ future, t ≤ now

variable {threshold : UInt32} {timeout : Duration} {history : List CallResult}
  {future : Set Instant} {cb : CircuitBreaker}

theorem tracks_new (threshold : UInt32) (timeout : Duration) (future : Set Instant) :
    Tracks threshold timeout [] future (new threshold timeout) where
  threshold_eq := rfl
  timeout_eq := rfl
  count_eq := rfl
  last_eq := by simp
  closed_iff := by simp [new, failureStreak]
  half_open := by simp [new]
  past := by simp

/-- As time passes, fewer instants remain to be answered for. -/
theorem Tracks.mono (h : Tracks threshold timeout history future cb) {later : Set Instant}
    (hlater : later ⊆ future) : Tracks threshold timeout history later cb :=
  { h with
    half_open := fun hs t ht now hnow => h.half_open hs t ht now (hlater hnow)
    past := fun t ht now hnow => h.past t ht now (hlater hnow) }

/-- A streak that keeps the breaker from being closed ends with a failure. -/
theorem exists_getLast_of_streak_pos (h : 0 < failureStreak history) :
    ∃ t, history.getLast? = some (.failure t) := by
  induction history using List.reverseRecOn with
  | nil => simp [failureStreak] at h
  | append_singleton history r _ =>
    cases r with
    | success => simp at h
    | failure t => exact ⟨t, by simp⟩

/-- `allow_request` refuses exactly when the circuit is open by history, and the
breaker still knows the history afterwards. -/
theorem Tracks.allowRequest (h : Tracks threshold timeout history future cb) {now : Instant}
    (hnow : now ∈ future) :
    Tracks threshold timeout history (future ∩ Set.Ici now) (cb.allowRequest now).1 ∧
      ((cb.allowRequest now).2 = false ↔
        OpenByHistory threshold.toNat timeout history now) := by
  have hkeep := h.mono (Set.inter_subset_left (t := Set.Ici now))
  cases hstate : cb.state with
  | closed =>
    have hshort := h.closed_iff.mp hstate
    have hallow : cb.allowRequest now = (cb, true) := by simp [CircuitBreaker.allowRequest, hstate]
    rw [hallow]
    refine ⟨hkeep, ?_⟩
    simp only [Bool.true_eq_false, false_iff, openByHistory_iff, not_and]
    intro hlong
    omega
  | halfOpen =>
    have hallow : cb.allowRequest now = (cb, true) := by simp [CircuitBreaker.allowRequest, hstate]
    rw [hallow]
    refine ⟨hkeep, ?_⟩
    simp only [Bool.true_eq_false, false_iff, openByHistory_iff, not_and, not_exists, not_lt]
    exact fun _ t ht => h.half_open hstate t ht now hnow
  | opened =>
    have hlong : max threshold.toNat 1 ≤ failureStreak history := by
      have hclosed := h.closed_iff
      simp only [hstate, reduceCtorEq, false_iff, not_lt] at hclosed
      exact hclosed
    have hpos : 0 < failureStreak history := by omega
    obtain ⟨t, ht⟩ := exists_getLast_of_streak_pos hpos
    have hlast := h.last_eq t ht
    have helapsed : elapsed t now = now - t := max_eq_right (sub_nonneg.mpr (h.past t ht now hnow))
    have hunique : ∀ u, history.getLast? = some (.failure u) → u = t := by
      intro u hu
      simpa [ht] using hu.symm
    by_cases hdue : cb.recoveryTimeout ≤ elapsed t now
    · have hallow : cb.allowRequest now = ({ cb with state := .halfOpen }, true) := by
        simp [CircuitBreaker.allowRequest, hstate, hlast, hdue]
      rw [helapsed, h.timeout_eq] at hdue
      rw [hallow]
      refine ⟨{ hkeep with closed_iff := ?_, half_open := ?_ }, ?_⟩
      · exact iff_of_false (by simp) (not_lt.mpr hlong)
      · rintro - u hu later ⟨-, hlater⟩
        rw [hunique u hu]
        exact le_trans hdue (sub_le_sub_right hlater t)
      · simp only [Bool.true_eq_false, false_iff, openByHistory_iff, not_and, not_exists, not_lt]
        intro _ u hu
        rw [hunique u hu]
        exact hdue
    · have hallow : cb.allowRequest now = (cb, false) := by
        simp [CircuitBreaker.allowRequest, hstate, hlast, hdue]
      rw [helapsed, h.timeout_eq, not_le] at hdue
      rw [hallow]
      refine ⟨hkeep, ?_⟩
      simp only [true_iff, openByHistory_iff]
      exact ⟨hlong, t, ht, hdue⟩

/-- `record_success` closes the breaker, as a success ends every streak. -/
theorem Tracks.recordSuccess (h : Tracks threshold timeout history future cb) :
    Tracks threshold timeout (history ++ [.success]) future cb.recordSuccess where
  threshold_eq := h.threshold_eq
  timeout_eq := h.timeout_eq
  count_eq := by simp [CircuitBreaker.recordSuccess]
  last_eq := by simp
  closed_iff := by simp [CircuitBreaker.recordSuccess]
  half_open := by simp
  past := by simp

/-- `record_failure` lengthens the streak and opens the breaker once it is long
enough. This is where the counter must not wrap around. -/
theorem Tracks.recordFailure (h : Tracks threshold timeout history future cb) {now : Instant}
    (hfit : failureStreak history + 1 < 2 ^ 32) :
    Tracks threshold timeout (history ++ [.failure now]) (future ∩ Set.Ici now)
      (cb.recordFailure now) := by
  have hcount : (cb.failureCount + 1).toNat = failureStreak history + 1 := by
    rw [UInt32.toNat_add, h.count_eq]
    exact Nat.mod_eq_of_lt hfit
  have hreached : cb.failureThreshold ≤ cb.failureCount + 1 ↔
      max threshold.toNat 1 ≤ failureStreak history + 1 := by
    rw [UInt32.le_iff_toNat_le, hcount, h.threshold_eq]
    omega
  refine ⟨h.threshold_eq, h.timeout_eq, ?_, ?_, ?_, ?_, ?_⟩
  · simpa [CircuitBreaker.recordFailure] using hcount
  · simp [CircuitBreaker.recordFailure]
  · simp only [CircuitBreaker.recordFailure, hreached, failureStreak_failure]
    split_ifs with hlong
    · simpa using hlong
    · have hshort : failureStreak history < max threshold.toNat 1 := by omega
      exact iff_of_true (h.closed_iff.mpr hshort) (by omega)
  · intro hs
    simp only [CircuitBreaker.recordFailure, hreached] at hs
    split_ifs at hs with hlong
    -- a breaker below the threshold is closed, so it cannot be half open
    have hshort : failureStreak history < max threshold.toNat 1 := by omega
    rw [h.closed_iff.mpr hshort] at hs
    cases hs
  · intro t ht later hlater
    obtain rfl : now = t := by simpa using ht
    exact hlater.2

/-- The operations other code performs on a breaker, with their clock readings. -/
inductive Operation where
  | allowRequest (now : Instant)
  | recordSuccess
  | recordFailure (now : Instant)

/-- An operation as a step of a machine; only `allow_request` has an answer. -/
def operate (cb : CircuitBreaker) : Operation → CircuitBreaker × Option Bool
  | .allowRequest now => ((cb.allowRequest now).1, some (cb.allowRequest now).2)
  | .recordSuccess => (cb.recordSuccess, none)
  | .recordFailure now => (cb.recordFailure now, none)

/-- The clock reading of an operation, if it takes one. -/
def Operation.reading : Operation → Option Instant
  | .allowRequest now => some now
  | .recordSuccess => none
  | .recordFailure now => some now

/-- The call result an operation records, if it records one. -/
def Operation.result : Operation → Option CallResult
  | .allowRequest _ => none
  | .recordSuccess => some .success
  | .recordFailure now => some (.failure now)

/-- A fresh breaker knows the history after any operations in the order of time. -/
theorem tracks_after (threshold : UInt32) (timeout : Duration) {operations : List Operation}
    (hsorted : (operations.filterMap Operation.reading).Pairwise (· ≤ ·))
    (hfit : RunsFit (operations.filterMap Operation.result)) :
    Tracks threshold timeout (operations.filterMap Operation.result)
      {now | ∀ t ∈ operations.filterMap Operation.reading, t ≤ now}
      (Runs.after operate (new threshold timeout) operations) := by
  induction operations using List.reverseRecOn with
  | nil => exact tracks_new _ _ _
  | append_singleton operations operation ih =>
    rw [List.filterMap_append] at hsorted hfit
    obtain ⟨hbefore, -, hlast⟩ := List.pairwise_append.mp hsorted
    have h := ih hbefore hfit.of_append
    rw [Runs.after_concat, List.filterMap_append, List.filterMap_append]
    cases operation with
    | allowRequest now =>
      simp only [List.filterMap_cons, List.filterMap_nil, Operation.result, Operation.reading,
        List.append_nil]
      refine ((h.allowRequest ?_).1).mono ?_
      · exact fun t ht => hlast t ht now (by simp [Operation.reading])
      · exact fun later hlater => ⟨fun t ht => hlater t (by simp [ht]), hlater now (by simp)⟩
    | recordSuccess =>
      simp only [List.filterMap_cons, List.filterMap_nil, Operation.result, Operation.reading,
        List.append_nil]
      exact h.recordSuccess
    | recordFailure now =>
      simp only [List.filterMap_cons, List.filterMap_nil, Operation.result, Operation.reading]
      have hstreak := hfit.streak_lt
      simp only [List.filterMap_cons, List.filterMap_nil, Operation.result,
        failureStreak_failure] at hstreak
      refine (h.recordFailure hstreak).mono ?_
      exact fun later hlater => ⟨fun t ht => hlater t (by simp [ht]), hlater now (by simp)⟩

/-- What a fresh breaker answers after any operations in the order of time. -/
theorem allowRequest_after (threshold : UInt32) (timeout : Duration)
    {operations : List Operation} {now : Instant}
    (hsorted : (operations.filterMap Operation.reading).Pairwise (· ≤ ·))
    (hnow : ∀ t ∈ operations.filterMap Operation.reading, t ≤ now)
    (hfit : RunsFit (operations.filterMap Operation.result)) :
    ((Runs.after operate (new threshold timeout) operations).allowRequest now).2 = false ↔
      OpenByHistory threshold.toNat timeout (operations.filterMap Operation.result) now :=
  ((tracks_after threshold timeout hsorted hfit).allowRequest hnow).2

end CircuitBreaker

end SentinelGateway
