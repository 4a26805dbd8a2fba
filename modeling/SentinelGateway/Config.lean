import Mathlib.Algebra.Order.Ring.Rat
import SentinelGateway.Library.Table

/-!
# Configuration

The parts of `config/types.rs` that the modelled code reads, with the checks of
`config/mod.rs` on the backend list. Instants and durations are exact rational
numbers of seconds.
-/

namespace SentinelGateway

/-- A reading of the monotonic clock, in seconds. -/
abbrev Instant := ℚ

/-- A length of time, in seconds. -/
abbrev Duration := ℚ

/-- `Instant::elapsed`, which saturates at zero. -/
def elapsed (since now : Instant) : Duration := max 0 (now - since)

/-- `BackendType`. -/
inductive BackendType where
  | http
  | stdio
  deriving DecidableEq

/-- `BackendConfig`: one entry of the backend list. -/
structure BackendConfig where
  name : String
  backendType : BackendType
  url : Option String
  command : Option String
  timeoutSecs : ℕ := 60
  retries : ℕ := 3
  restartOnExit : Bool := false
  maxRestarts : ℕ := 5
  circuitBreakerThreshold : UInt32 := 5
  circuitBreakerRecoverySecs : ℕ := 30

/-- `RoleConfig`. -/
structure RoleConfig where
  permissions : List String := []
  deniedTools : List String := []

/-- `RbacConfig`. -/
structure RbacConfig where
  roles : Table String RoleConfig := ∅

/-- `RateLimitConfig`: requests per minute, with overrides for single tools. -/
structure RateLimitConfig where
  defaultRpm : ℕ := 1000
  perTool : Table String ℕ := ∅

/-- `KillSwitchConfig`. -/
structure KillSwitchConfig where
  disabledTools : List String := []
  disabledBackends : List String := []

/-- The check one backend entry must pass besides having a new name. -/
def BackendConfig.checkTransport (backend : BackendConfig) : Except String Unit :=
  match backend.backendType with
  | .http =>
    if backend.url.isNone then
      .error ("HTTP backend '" ++ backend.name ++ "' must have a 'url' field")
    else .ok ()
  | .stdio =>
    if backend.command.isNone then
      .error ("stdio backend '" ++ backend.name ++ "' must have a 'command' field")
    else .ok ()

/-- The loop of `SentinelConfig::validate_backends`, with the names seen so far. -/
def validateBackendsFrom (names : List String) : List BackendConfig → Except String Unit
  | [] => .ok ()
  | backend :: rest =>
    if backend.name ∈ names then .error ("Duplicate backend name: " ++ backend.name)
    else do
      backend.checkTransport
      validateBackendsFrom (backend.name :: names) rest

/-- `SentinelConfig::validate_backends`. -/
def validateBackends (backends : List BackendConfig) : Except String Unit :=
  validateBackendsFrom [] backends

/-- An accepted tail repeats neither a name of its own nor one seen before it. -/
theorem nodup_of_validateBackendsFrom {names : List String} {backends : List BackendConfig}
    (h : validateBackendsFrom names backends = .ok ()) :
    (backends.map BackendConfig.name).Nodup ∧ ∀ b ∈ backends, b.name ∉ names := by
  induction backends generalizing names with
  | nil => simp
  | cons b rest ih =>
    unfold validateBackendsFrom at h
    by_cases hseen : b.name ∈ names
    · simp [hseen] at h
    · rw [if_neg hseen] at h
      cases hcheck : b.checkTransport with
      | error e => simp [hcheck, Bind.bind, Except.bind] at h
      | ok _ =>
        simp only [hcheck, Bind.bind, Except.bind] at h
        obtain ⟨hnodup, hfresh⟩ := ih h
        constructor
        · simp only [List.map_cons, List.nodup_cons]
          refine ⟨?_, hnodup⟩
          intro hmem
          obtain ⟨c, hc, heq⟩ := List.mem_map.mp hmem
          exact hfresh c hc (by simp [heq])
        · intro c hc
          rcases List.mem_cons.mp hc with rfl | hc
          · exact hseen
          · exact fun hmem => hfresh c hc (List.mem_cons_of_mem _ hmem)

/-- The backend names of an accepted configuration are pairwise distinct. -/
theorem nodup_of_validateBackends {backends : List BackendConfig}
    (h : validateBackends backends = .ok ()) : (backends.map BackendConfig.name).Nodup :=
  (nodup_of_validateBackendsFrom h).1

end SentinelGateway
