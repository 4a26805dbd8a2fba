import SentinelGateway.Retry

/-!
# Health reports

`health_checker` pings the backends it was given, one round after the other, and
writes what it finds into a map that `/ready` reads. `main` enters every backend
it registered into the map as healthy and gives the checker the HTTP backends.
The entry of an HTTP backend tells what became of its last ping; the entry of a
stdio backend stays as it was at the start.
-/

namespace SentinelGateway

/-- `BackendHealth`. -/
structure BackendHealth where
  healthy : Bool
  lastCheck : Instant
  consecutiveFailures : UInt32
  deriving DecidableEq

/-- `BackendHealthMap`. -/
abbrev HealthMap := Table String BackendHealth

/-- The body of a ping. -/
def pingBody : String := "\x7b\"jsonrpc\":\"2.0\",\"id\":1,\"method\":\"ping\"\x7d"

/-- What the transport does with the posts of one ping, and when it is recorded. -/
structure Probe where
  transport : ℕ → Attempt
  recordedAt : Instant

/-- A round of the checker: the fate of the ping to each backend. -/
abbrev Round := String → Probe

/-- The backend answers the ping that is sent to it in the round. -/
def HttpBackend.answers (backend : HttpBackend) (name : String) (round : Round) : Bool :=
  (backend.send pingBody (round name).transport).2.isOk

namespace HealthMap

/-- The entry of a backend that nobody has pinged yet, as `main` makes it. -/
def optimistic (now : Instant) : BackendHealth :=
  { healthy := true, lastCheck := now, consecutiveFailures := 0 }

/-- The map `main` starts with: every registered backend is taken to be healthy. -/
def initial (backends : Table String Backend) (now : Instant) : HealthMap :=
  backends.keys.foldl (fun map name => map.insert name (optimistic now)) ∅

/-- What the checker writes into an entry after a ping. -/
def record (entry : BackendHealth) (answered : Bool) (now : Instant) : BackendHealth :=
  if answered then { healthy := true, lastCheck := now, consecutiveFailures := 0 }
  else
    { healthy := false, lastCheck := now, consecutiveFailures := entry.consecutiveFailures + 1 }

/-- The entry of a backend after its ping. A missing entry is created as an
unhealthy one without failures. -/
def pinged (round : Round) (target : String × HttpBackend) (entry : Option BackendHealth) :
    BackendHealth :=
  let now := (round target.1).recordedAt
  record (entry.getD { healthy := false, lastCheck := now, consecutiveFailures := 0 })
    (target.2.answers target.1 round) now

/-- One iteration of the loop over the backends. -/
def probe (round : Round) (map : HealthMap) (target : String × HttpBackend) : HealthMap :=
  map.insert target.1 (pinged round target (map.lookup target.1))

/-- One round of `health_checker`. -/
def checkRound (targets : List (String × HttpBackend)) (map : HealthMap) (round : Round) :
    HealthMap :=
  targets.foldl (probe round) map

/-- The backends `main` hands to the checker. -/
def targets (backends : Table String Backend) : List (String × HttpBackend) :=
  backends.entries.filterMap fun entry =>
    match entry.2 with
    | .http backend => some (entry.1, backend)
    | .stdio _ => none

/-- The map after the given rounds. -/
def afterRounds (backends : Table String Backend) (now : Instant) (rounds : List Round) :
    HealthMap :=
  rounds.foldl (checkRound (targets backends)) (initial backends now)

/-- `readiness`: status code and body of `/ready`. -/
def readiness (map : HealthMap) : UInt16 × Json :=
  if map.values.isEmpty then
    (503, .object [("status", .string "not_ready"), ("reason", .string "no backends registered")])
  else if map.values.any BackendHealth.healthy then (200, .object [("status", .string "ready")])
  else (503, .object [("status", .string "not_ready")])

/-- The number of rounds at the end of a run in which the backend did not answer. -/
def misses (backend : HttpBackend) (name : String) (rounds : List Round) : ℕ :=
  (rounds.rtakeWhile fun round => !backend.answers name round).length

theorem misses_concat (backend : HttpBackend) (name : String) (rounds : List Round)
    (round : Round) :
    misses backend name (rounds ++ [round]) =
      if backend.answers name round then 0 else misses backend name rounds + 1 := by
  unfold misses
  cases h : backend.answers name round with
  | true => rw [List.rtakeWhile_concat_neg _ _ _ (by simp [h])]; rfl
  | false =>
    rw [List.rtakeWhile_concat_pos _ _ _ (by simp [h]), List.length_append]
    simp

/-- A backend is pinged exactly if it is an HTTP backend. -/
theorem mem_targets_iff {backends : Table String Backend} {name : String}
    {backend : HttpBackend} :
    (name, backend) ∈ targets backends ↔ backends.lookup name = some (.http backend) := by
  rw [← Option.mem_def, AList.mem_lookup_iff, targets, List.mem_filterMap]
  constructor
  · rintro ⟨⟨other, stored⟩, hmem, hsome⟩
    cases stored with
    | http http =>
      obtain ⟨rfl, rfl⟩ := Prod.mk.inj (Option.some.inj hsome)
      exact hmem
    | stdio stdio => cases hsome
  · intro hmem
    exact ⟨⟨name, .http backend⟩, hmem, rfl⟩

/-- No backend is pinged twice in a round. -/
theorem nodup_targets (backends : Table String Backend) :
    ((targets backends).map Prod.fst).Nodup := by
  have hsub : ((targets backends).map Prod.fst).Sublist (backends.entries.map Sigma.fst) := by
    unfold targets
    induction backends.entries with
    | nil => exact .slnil
    | cons entry entries ih =>
      obtain ⟨name, backend⟩ := entry
      cases backend with
      | http http => exact ih.cons_cons name
      | stdio stdio => exact ih.cons name
  exact (AList.keys_nodup backends).sublist hsub

theorem lookup_probe_of_ne (round : Round) (map : HealthMap) (target : String × HttpBackend)
    (name : String) (h : name ≠ target.1) :
    (probe round map target).lookup name = map.lookup name :=
  AList.lookup_insert_ne h

/-- What a ping leaves in the entry of its backend. -/
theorem lookup_probe_self (round : Round) (map : HealthMap) (target : String × HttpBackend) :
    (probe round map target).lookup target.1 =
      some (pinged round target (map.lookup target.1)) :=
  AList.lookup_insert _

/-- A round records one ping of each HTTP backend. -/
theorem lookup_checkRound_http {backends : Table String Backend} {name : String}
    {backend : HttpBackend} (h : backends.lookup name = some (.http backend)) (map : HealthMap)
    {entry : BackendHealth} (hentry : map.lookup name = some entry) (round : Round) :
    (checkRound (targets backends) map round).lookup name =
      some (record entry (backend.answers name round) (round name).recordedAt) := by
  have hround := Table.lookup_foldl_of_mem (lookup_probe_of_ne round)
    (g := fun target entry => some (pinged round target entry)) (lookup_probe_self round)
    (nodup_targets backends) (mem_targets_iff.mpr h) map
  rw [hentry] at hround
  exact hround

/-- A round leaves every other entry alone. -/
theorem lookup_checkRound_of_ne {backends : Table String Backend} {name : String}
    (h : ∀ backend, backends.lookup name ≠ some (.http backend)) (map : HealthMap)
    (round : Round) : (checkRound (targets backends) map round).lookup name = map.lookup name := by
  apply Table.lookup_foldl_of_notMem (lookup_probe_of_ne round)
  intro hmem
  obtain ⟨⟨other, backend⟩, htarget, rfl⟩ := List.mem_map.mp hmem
  exact h backend (mem_targets_iff.mp htarget)

/-- At the start exactly the registered backends have an entry. -/
theorem lookup_initial (backends : Table String Backend) (now : Instant) (name : String) :
    (initial backends now).lookup name =
      if name ∈ backends then some (optimistic now) else none := by
  have hother : ∀ (map : HealthMap) (inserted other : String), other ≠ id inserted →
      (map.insert inserted (optimistic now)).lookup other = map.lookup other :=
    fun _ _ _ hne => AList.lookup_insert_ne hne
  split_ifs with h
  · exact Table.lookup_foldl_of_mem hother (g := fun _ _ => some (optimistic now))
      (fun _ _ => AList.lookup_insert _) (by simpa using AList.keys_nodup backends)
      (AList.mem_keys.mp h) ∅
  · have hkeys : name ∉ backends.keys.map id := by
      rw [List.map_id]
      exact fun hmem => h (AList.mem_keys.mpr hmem)
    rw [initial, Table.lookup_foldl_of_notMem hother hkeys]
    rfl

/-- What an entry says about an HTTP backend after a run: whether it answered the
last ping, and the length of the final run of unanswered ones as far as 32 bits
can count it. -/
structure Tells (backend : HttpBackend) (name : String) (rounds : List Round)
    (entry : BackendHealth) : Prop where
  healthy_iff : entry.healthy = true ↔ misses backend name rounds = 0
  failures_eq : entry.consecutiveFailures.toNat = misses backend name rounds % 2 ^ 32

/-- Recording a ping keeps the entry telling the truth. -/
theorem Tells.record {backend : HttpBackend} {name : String} {rounds : List Round}
    {entry : BackendHealth} (h : Tells backend name rounds entry) (round : Round)
    (now : Instant) :
    Tells backend name (rounds ++ [round])
      (HealthMap.record entry (backend.answers name round) now) := by
  cases hanswers : backend.answers name round with
  | true =>
    have hzero : misses backend name (rounds ++ [round]) = 0 := by
      rw [misses_concat, if_pos hanswers]
    exact ⟨by simp [HealthMap.record, hzero], by simp [HealthMap.record, hzero]⟩
  | false =>
    have hsucc : misses backend name (rounds ++ [round]) = misses backend name rounds + 1 := by
      rw [misses_concat, if_neg (by simp [hanswers])]
    refine ⟨by simp [HealthMap.record, hsucc], ?_⟩
    have hfailures := h.failures_eq
    simp only [HealthMap.record, Bool.false_eq_true, if_false, UInt32.toNat_add, hsucc]
    rw [hfailures]
    simp

/-- After every run the entry of an HTTP backend tells what became of its pings. -/
theorem exists_tells {backends : Table String Backend} {name : String} {backend : HttpBackend}
    (h : backends.lookup name = some (.http backend)) (now : Instant) (rounds : List Round) :
    ∃ entry, (afterRounds backends now rounds).lookup name = some entry ∧
      Tells backend name rounds entry := by
  induction rounds using List.reverseRecOn with
  | nil =>
    have hmem : name ∈ backends := by
      rw [← AList.lookup_isSome, h]
      rfl
    refine ⟨optimistic now, ?_, ⟨by simp [optimistic, misses], by simp [optimistic, misses]⟩⟩
    rw [afterRounds, List.foldl_nil, lookup_initial, if_pos hmem]
  | append_singleton rounds round ih =>
    obtain ⟨entry, hentry, htells⟩ := ih
    refine ⟨_, ?_, htells.record round (round name).recordedAt⟩
    rw [afterRounds, List.foldl_append, List.foldl_cons, List.foldl_nil, ← afterRounds]
    exact lookup_checkRound_http h _ hentry round

/-- After every run the entry of any other name is what it was at the start. -/
theorem lookup_afterRounds_of_ne {backends : Table String Backend} {name : String}
    (h : ∀ backend, backends.lookup name ≠ some (.http backend)) (now : Instant)
    (rounds : List Round) :
    (afterRounds backends now rounds).lookup name = (initial backends now).lookup name := by
  induction rounds using List.reverseRecOn with
  | nil => rfl
  | append_singleton rounds round ih =>
    rw [afterRounds, List.foldl_append, List.foldl_cons, List.foldl_nil, ← afterRounds,
      lookup_checkRound_of_ne h, ih]

/-- After a round a pinged backend is reported healthy exactly if it answered. -/
theorem healthy_iff_answers {backends : Table String Backend} {name : String}
    {backend : HttpBackend} (h : backends.lookup name = some (.http backend)) (now : Instant)
    (rounds : List Round) (round : Round) {entry : BackendHealth}
    (hentry : (afterRounds backends now (rounds ++ [round])).lookup name = some entry) :
    entry.healthy = true ↔ backend.answers name round = true := by
  obtain ⟨other, hother, htells⟩ := exists_tells h now (rounds ++ [round])
  obtain rfl : entry = other := by simpa [hentry] using hother
  rw [htells.healthy_iff, misses_concat]
  split_ifs with hanswers
  · simp [hanswers]
  · simp [hanswers]

/-- A name that is not pinged has the entry it started with, if it is registered. -/
theorem lookup_afterRounds_stdio {backends : Table String Backend} {name : String}
    {backend : StdioBackend} (h : backends.lookup name = some (.stdio backend)) (now : Instant)
    (rounds : List Round) :
    (afterRounds backends now rounds).lookup name = some (optimistic now) := by
  have hmem : name ∈ backends := by
    rw [← AList.lookup_isSome, h]
    rfl
  rw [lookup_afterRounds_of_ne (by simp [h]), lookup_initial, if_pos hmem]

/-- The map has entries for the registered backends, whatever the rounds bring. -/
theorem lookup_afterRounds_isSome (backends : Table String Backend) (now : Instant)
    (rounds : List Round) (name : String) :
    ((afterRounds backends now rounds).lookup name).isSome ↔ (backends.lookup name).isSome := by
  cases hlookup : backends.lookup name with
  | none =>
    have hmem : name ∉ backends := AList.lookup_eq_none.mp hlookup
    rw [lookup_afterRounds_of_ne (by simp [hlookup]), lookup_initial, if_neg hmem]
    rfl
  | some backend =>
    cases backend with
    | http http =>
      obtain ⟨entry, hentry, -⟩ := exists_tells hlookup now rounds
      simp [hentry]
    | stdio stdio => simp [lookup_afterRounds_stdio hlookup]

/-- An entry counts no failure exactly if it is healthy, as long as the backend has
not failed to answer as often as 32 bits can count. -/
theorem failures_eq_zero_iff (backends : Table String Backend) (now : Instant)
    (rounds : List Round) {name : String} {entry : BackendHealth}
    (hentry : (afterRounds backends now rounds).lookup name = some entry) :
    (entry.healthy = true → entry.consecutiveFailures = 0) ∧
      ((∀ backend, backends.lookup name = some (.http backend) →
        misses backend name rounds < 2 ^ 32) →
        entry.consecutiveFailures = 0 → entry.healthy = true) := by
  have hsome := (lookup_afterRounds_isSome backends now rounds name).mp (by rw [hentry]; rfl)
  obtain ⟨backend, hbackend⟩ := Option.isSome_iff_exists.mp hsome
  cases backend with
  | http http =>
    obtain ⟨other, hother, htells⟩ := exists_tells hbackend now rounds
    obtain rfl : entry = other := by simpa [hentry] using hother
    rw [htells.healthy_iff, ← UInt32.toNat_inj, htells.failures_eq]
    refine ⟨fun hzero => by simp [hzero], ?_⟩
    intro hfits hzero
    rwa [UInt32.toNat_zero, Nat.mod_eq_of_lt (hfits http hbackend)] at hzero
  | stdio stdio =>
    rw [lookup_afterRounds_stdio hbackend, Option.some.injEq] at hentry
    subst hentry
    exact ⟨fun _ => rfl, fun _ _ => rfl⟩

/-- `/ready` answers 200 exactly if some entry is healthy. -/
theorem readiness_eq_ok_iff (map : HealthMap) :
    (readiness map).1 = 200 ↔
      ∃ name entry, map.lookup name = some entry ∧ entry.healthy = true := by
  have hany : map.values.any BackendHealth.healthy = true ↔
      ∃ name entry, map.lookup name = some entry ∧ entry.healthy = true := by
    rw [List.any_eq_true]
    constructor
    · rintro ⟨entry, hmem, hhealthy⟩
      obtain ⟨name, hlookup⟩ := Table.exists_lookup_of_mem_values hmem
      exact ⟨name, entry, hlookup, hhealthy⟩
    · rintro ⟨name, entry, hlookup, hhealthy⟩
      exact ⟨entry, Table.mem_values_of_lookup hlookup, hhealthy⟩
  rw [← hany]
  unfold readiness
  cases hvalues : map.values with
  | nil => simp
  | cons entry entries =>
    cases hhealthy : (entry :: entries).any BackendHealth.healthy with
    | true => simp
    | false => simp

/-- **Health reports.** After every completed round the map has an entry for each
registered backend. The entry of an HTTP backend is healthy exactly if the backend
answered the ping of that round; that of a stdio backend, which is never pinged, is
still the initial one. A healthy entry counts no failures, and one that counts none
is healthy unless 32 bits were too few. `/ready` answers 200 exactly if an HTTP
backend answered or a stdio backend is registered. -/
theorem report_after_round (backends : Table String Backend) (now : Instant)
    (rounds : List Round) (round : Round) :
    let map := afterRounds backends now (rounds ++ [round])
    (∀ name, (map.lookup name).isSome ↔ (backends.lookup name).isSome) ∧
    (∀ name backend entry, backends.lookup name = some (.http backend) →
      map.lookup name = some entry →
        (entry.healthy = true ↔ backend.answers name round = true)) ∧
    (∀ name backend, backends.lookup name = some (.stdio backend) →
      map.lookup name = some (optimistic now)) ∧
    (∀ name entry, map.lookup name = some entry →
      (entry.healthy = true → entry.consecutiveFailures = 0) ∧
      ((∀ backend, backends.lookup name = some (.http backend) →
        misses backend name (rounds ++ [round]) < 2 ^ 32) →
          entry.consecutiveFailures = 0 → entry.healthy = true)) ∧
    ((readiness map).1 = 200 ↔ ∃ name,
      (∃ backend, backends.lookup name = some (.stdio backend)) ∨
      ∃ backend, backends.lookup name = some (.http backend) ∧
        backend.answers name round = true) := by
  intro map
  have hkeys := lookup_afterRounds_isSome backends now (rounds ++ [round])
  refine ⟨hkeys, fun name backend entry h => healthy_iff_answers h now rounds round,
    fun name backend h => lookup_afterRounds_stdio h now _,
    fun name entry => failures_eq_zero_iff backends now _, ?_⟩
  rw [readiness_eq_ok_iff]
  constructor
  · rintro ⟨name, entry, hentry, hhealthy⟩
    have hsome := (hkeys name).mp (by rw [hentry]; rfl)
    obtain ⟨backend, hbackend⟩ := Option.isSome_iff_exists.mp hsome
    cases backend with
    | http http =>
      exact ⟨name, Or.inr ⟨http, hbackend,
        (healthy_iff_answers hbackend now rounds round hentry).mp hhealthy⟩⟩
    | stdio stdio => exact ⟨name, Or.inl ⟨stdio, hbackend⟩⟩
  · rintro ⟨name, ⟨backend, hbackend⟩ | ⟨backend, hbackend, hanswers⟩⟩
    · exact ⟨name, optimistic now, lookup_afterRounds_stdio hbackend now _, rfl⟩
    · obtain ⟨entry, hentry, -⟩ := exists_tells hbackend now (rounds ++ [round])
      have hiff := healthy_iff_answers hbackend now rounds round hentry
      exact ⟨name, entry, hentry, hiff.mpr hanswers⟩

/-- A stdio backend is reported healthy, and the gateway ready on its account,
after a round in which nothing was sent to it. -/
theorem stdio_reported_healthy :
    let backends : Table String Backend := AList.singleton "files" (.stdio ⟨"files", 0, 60⟩)
    let round : Round := fun _ =>
      { transport := fun _ =>
          .failed { message := "refused", isTimeout := false, isConnect := true }
        recordedAt := 30 }
    (readiness (afterRounds backends 0 [round])).1 = 200 ∧
      ¬∀ name entry, (afterRounds backends 0 [round]).lookup name = some entry →
        entry.healthy = true → ∃ backend, backends.lookup name = some (.http backend) ∧
          backend.answers name round = true := by
  intro backends round
  refine ⟨by decide, ?_⟩
  intro h
  obtain ⟨backend, hbackend, -⟩ := h "files" (optimistic 0) (by decide +kernel) rfl
  have hlookup : backends.lookup "files" = some (.stdio ⟨"files", 0, 60⟩) := by decide +kernel
  rw [hlookup] at hbackend
  cases hbackend

end HealthMap

end SentinelGateway
