import SentinelGateway.Health
import SentinelGateway.Library.Runs
import SentinelGateway.Library.RwLock

/-!
# Two views of one check

`/ready` reads the health map, `/metrics` shows a gauge for every backend. Both are
written by `health_checker`, one backend after the other, while handlers of `/ready`
come and go: the checker pings without the lock, takes it for writing, enters the
result into the map, sets the gauge, and lets go of it. A handler holds the lock for
reading. A scrape takes no lock at all.

Whatever the order of the steps, the two views say the same of every backend, except
of one that the checker is recording at that moment; and since it does so under the
lock, no handler of `/ready` ever answers what the gauges contradict.
-/

namespace SentinelGateway

/-- `backend_healthy`: the gauges that exist, by their label. -/
abbrev GaugeVec := Table String ℕ

namespace GaugeVec

/-- What the gauge of a backend shows. -/
def level (healthy : Bool) : ℕ := if healthy then 1 else 0

/-- `Metrics::set_backend_health`. -/
def setBackendHealth (gauge : GaugeVec) (backend : String) (healthy : Bool) : GaugeVec :=
  gauge.insert backend (level healthy)

/-- The gauges as `main` sets them, next to the entries of the map. -/
def initial (backends : Table String Backend) : GaugeVec :=
  backends.keys.foldl (fun gauge name => gauge.setBackendHealth name true) ∅

/-- Every gauge shows what the map says, and there is one for each entry. -/
def Shows (gauge : GaugeVec) (map : HealthMap) : Prop :=
  ∀ name, gauge.lookup name = (map.lookup name).map fun entry => level entry.healthy

end GaugeVec

/-- Where `health_checker` is. From `recording` to `releasing` it holds the lock. -/
inductive CheckerPhase where
  | waiting
  | pinging (round : Round) (targets : List (String × HttpBackend))
  | acquiring (round : Round) (target : String × HttpBackend)
      (targets : List (String × HttpBackend))
  | recording (round : Round) (target : String × HttpBackend)
      (targets : List (String × HttpBackend))
  | setting (round : Round) (target : String × HttpBackend)
      (targets : List (String × HttpBackend))
  | releasing (round : Round) (targets : List (String × HttpBackend))
  | stopped

namespace CheckerPhase

/-- The checker holds the lock for writing. -/
def holdsGuard : CheckerPhase → Bool
  | .recording _ _ _ | .setting _ _ _ | .releasing _ _ => true
  | .waiting | .pinging _ _ | .acquiring _ _ _ | .stopped => false

/-- The round the checker is in, with the backends whose gauges are not set yet. -/
def unset : CheckerPhase → Option (Round × List (String × HttpBackend))
  | .waiting | .stopped => none
  | .pinging round targets | .releasing round targets => some (round, targets)
  | .acquiring round target targets | .recording round target targets
  | .setting round target targets => some (round, target :: targets)

/-- The map when the gauges show the given one. -/
def written (shown : HealthMap) : CheckerPhase → HealthMap
  | .setting round target _ => shown.probe round target
  | _ => shown

end CheckerPhase

/-- The checker and the handlers of `/ready` that wait for the lock or hold it. The
completed rounds are kept as a record. -/
structure HealthService where
  lock : RwLock
  map : HealthMap
  gauge : GaugeVec
  checker : CheckerPhase
  waiting : ℕ
  holding : ℕ
  answers : List (UInt16 × Json)
  cancelled : Bool
  rounds : List Round

namespace HealthService

/-- A step: a tick of the interval, which brings a round of pings with some fate; a move
of the checker; a request for `/ready`, its guard and its answer; the cancellation, and
the checker taking notice of it. -/
inductive Label where
  | tick (round : Round)
  | check
  | request
  | acquire
  | answer
  | cancel
  | leave

/-- The service when `main` starts the checker. -/
def start (backends : Table String Backend) (now : Instant) : HealthService :=
  { lock := .new, map := .initial backends now, gauge := .initial backends
    checker := .waiting, waiting := 0, holding := 0, answers := [], cancelled := false,
    rounds := [] }

/-- A move of the checker inside a round. The ping of the first target takes one, and
the lock is not held then. -/
def check (s : HealthService) : Option HealthService :=
  match s.checker with
  | .waiting | .stopped => none
  | .pinging round [] => some { s with checker := .waiting, rounds := s.rounds ++ [round] }
  | .pinging round (target :: targets) =>
    some { s with checker := .acquiring round target targets }
  | .acquiring round target targets =>
    s.lock.write.map fun lock => { s with lock, checker := .recording round target targets }
  | .recording round target targets =>
    some { s with map := s.map.probe round target, checker := .setting round target targets }
  | .setting round target targets =>
    some { s with
      gauge := s.gauge.setBackendHealth target.1 (target.2.answers target.1 round)
      checker := .releasing round targets }
  | .releasing round targets =>
    some { s with lock := s.lock.dropWrite, checker := .pinging round targets }

/-- One step of the service. Between two rounds the checker waits for the interval and
for the cancellation at once, and when both are there it may take either. -/
def step (backends : Table String Backend) (s : HealthService) : Label → Option HealthService
  | .tick round =>
    match s.checker with
    | .waiting => some { s with checker := .pinging round (HealthMap.targets backends) }
    | _ => none
  | .check => s.check
  | .request => some { s with waiting := s.waiting + 1 }
  | .acquire =>
    match s.waiting with
    | 0 => none
    | waiting + 1 =>
      s.lock.read.map fun lock => { s with lock, waiting, holding := s.holding + 1 }
  | .answer =>
    match s.holding with
    | 0 => none
    | holding + 1 =>
      some { s with
        holding, lock := s.lock.dropRead, answers := s.answers ++ [s.map.readiness] }
  | .cancel => some { s with cancelled := true }
  | .leave =>
    match s.checker with
    | .waiting => if s.cancelled then some { s with checker := .stopped } else none
    | _ => none

end HealthService

namespace GaugeVec

variable {gauge : GaugeVec} {map : HealthMap}

/-- An entry and its gauge are written together. -/
theorem Shows.insert (h : gauge.Shows map) (name : String) (entry : BackendHealth) :
    (gauge.setBackendHealth name entry.healthy).Shows (map.insert name entry) := by
  intro other
  unfold setBackendHealth
  by_cases hother : other = name
  · subst other
    rw [AList.lookup_insert, AList.lookup_insert]
    rfl
  · rw [AList.lookup_insert_ne hother, AList.lookup_insert_ne hother]
    exact h other

/-- What the checker writes about a ping is whether it was answered. -/
theorem healthy_pinged (round : Round) (target : String × HttpBackend)
    (entry : Option BackendHealth) :
    (HealthMap.pinged round target entry).healthy = target.2.answers target.1 round := by
  unfold HealthMap.pinged HealthMap.record
  cases target.2.answers target.1 round with
  | true => rfl
  | false => rfl

theorem Shows.probe (h : gauge.Shows map) (round : Round) (target : String × HttpBackend) :
    (gauge.setBackendHealth target.1 (target.2.answers target.1 round)).Shows
      (map.probe round target) := by
  have hset := h.insert target.1 (HealthMap.pinged round target (map.lookup target.1))
  rwa [healthy_pinged] at hset

end GaugeVec

namespace HealthService

variable {backends : Table String Backend} {now : Instant}

/-- The map is the one that follows the completed rounds and the finished part of the
round under way. -/
def Reached (backends : Table String Backend) (now : Instant) (rounds : List Round)
    (map : HealthMap) : Option (Round × List (String × HttpBackend)) → Prop
  | none => map = .afterRounds backends now rounds
  | some (round, left) => ∃ done, HealthMap.targets backends = done ++ left ∧
      map = done.foldl (HealthMap.probe round) (.afterRounds backends now rounds)

/-- The lock is held by whom it should be, and the gauges show a map that the checker has
reached; the map itself is at most one entry ahead. -/
structure Views (backends : Table String Backend) (now : Instant) (s : HealthService)
    (shown : HealthMap) : Prop where
  readers_eq : s.lock.readers = s.holding
  writer_eq : s.lock.writer = s.checker.holdsGuard
  shows : s.gauge.Shows shown
  map_eq : s.map = s.checker.written shown
  reached : Reached backends now s.rounds shown s.checker.unset

variable {s t : HealthService} {shown : HealthMap}

/-- The checker records one ping after the other. -/
theorem Views.check (h : s.Views backends now shown) (hstep : s.check = some t) :
    ∃ shown, t.Views backends now shown := by
  obtain ⟨hreaders, hwriter, hshows, hmap, hreached⟩ := h
  unfold HealthService.check at hstep
  cases hphase : s.checker with
  | waiting | stopped =>
    rw [hphase] at hstep
    cases hstep
  | pinging round targets =>
    rw [hphase] at hstep hwriter hmap hreached
    cases targets with
    | nil =>
      cases hstep
      obtain ⟨done, htargets, hshown⟩ := hreached
      refine ⟨shown, hreaders, hwriter, hshows, hmap, ?_⟩
      rw [List.append_nil] at htargets
      change shown = HealthMap.afterRounds backends now (s.rounds ++ [round])
      rw [HealthMap.afterRounds, List.foldl_append, ← HealthMap.afterRounds, hshown, ← htargets]
      rfl
    | cons target targets =>
      cases hstep
      exact ⟨shown, hreaders, hwriter, hshows, hmap, hreached⟩
  | acquiring round target targets =>
    rw [hphase] at hstep hwriter hmap hreached
    obtain ⟨lock, hlock, rfl⟩ := Option.map_eq_some_iff.mp hstep
    obtain ⟨hfree, hheld, hnone⟩ := RwLock.write_cases hlock
    exact ⟨shown, hnone.trans (hfree.symm.trans hreaders), hheld, hshows, hmap, hreached⟩
  | recording round target targets =>
    rw [hphase] at hstep hwriter hmap hreached
    cases hstep
    exact ⟨shown, hreaders, hwriter, hshows, congrArg (HealthMap.probe round · target) hmap,
      hreached⟩
  | setting round target targets =>
    rw [hphase] at hstep hwriter hmap hreached
    cases hstep
    obtain ⟨done, htargets, hshown⟩ := hreached
    refine ⟨shown.probe round target, hreaders, hwriter, hshows.probe round target, hmap,
      done ++ [target], ?_, ?_⟩
    · rw [htargets, List.append_assoc]
      rfl
    · rw [List.foldl_append, hshown]
      rfl
  | releasing round targets =>
    rw [hphase] at hstep hwriter hmap hreached
    cases hstep
    exact ⟨shown, hreaders, rfl, hshows, hmap, hreached⟩

/-- Every step leaves the two views together. -/
theorem Views.step (h : s.Views backends now shown) {label : Label}
    (hstep : s.step backends label = some t) : ∃ shown, t.Views backends now shown := by
  cases label with
  | check => exact h.check hstep
  | request | cancel =>
    cases hstep
    exact ⟨shown, h.readers_eq, h.writer_eq, h.shows, h.map_eq, h.reached⟩
  | tick round =>
    obtain ⟨hreaders, hwriter, hshows, hmap, hreached⟩ := h
    unfold HealthService.step at hstep
    cases hphase : s.checker with
    | waiting =>
      rw [hphase] at hstep hwriter hmap hreached
      cases hstep
      exact ⟨shown, hreaders, hwriter, hshows, hmap, [], rfl, hreached⟩
    | _ =>
      rw [hphase] at hstep
      cases hstep
  | leave =>
    obtain ⟨hreaders, hwriter, hshows, hmap, hreached⟩ := h
    unfold HealthService.step at hstep
    cases hphase : s.checker with
    | waiting =>
      rw [hphase] at hstep hwriter hmap hreached
      simp only at hstep
      split_ifs at hstep
      cases hstep
      exact ⟨shown, hreaders, hwriter, hshows, hmap, hreached⟩
    | _ =>
      rw [hphase] at hstep
      cases hstep
  | acquire =>
    obtain ⟨hreaders, hwriter, hshows, hmap, hreached⟩ := h
    unfold HealthService.step at hstep
    cases hwaiting : s.waiting with
    | zero =>
      rw [hwaiting] at hstep
      cases hstep
    | succ waiting =>
      rw [hwaiting] at hstep
      obtain ⟨lock, hlock, rfl⟩ := Option.map_eq_some_iff.mp hstep
      obtain ⟨hfree, hheld, hcount⟩ := RwLock.read_cases hlock
      exact ⟨shown, hcount.trans (congrArg (· + 1) hreaders),
        hheld.trans (hfree.symm.trans hwriter), hshows, hmap, hreached⟩
  | answer =>
    obtain ⟨hreaders, hwriter, hshows, hmap, hreached⟩ := h
    unfold HealthService.step at hstep
    cases hholding : s.holding with
    | zero =>
      rw [hholding] at hstep
      cases hstep
    | succ holding =>
      rw [hholding] at hstep hreaders
      cases hstep
      exact ⟨shown, congrArg (· - 1) hreaders, hwriter, hshows, hmap, hreached⟩

/-- The map of a finished part of a round tells of every HTTP backend what became of its
last recorded ping, and of any other name what the completed rounds left of it. -/
theorem lookup_foldl_probe {done left : List (String × HttpBackend)}
    (htargets : HealthMap.targets backends = done ++ left) (now : Instant) (rounds : List Round)
    (round : Round) {name : String} {backend : HttpBackend}
    (hbackend : backends.lookup name = some (.http backend)) :
    ∃ recorded entry, (recorded = rounds ∨ recorded = rounds ++ [round]) ∧
      (done.foldl (HealthMap.probe round) (.afterRounds backends now rounds)).lookup name =
        some entry ∧ HealthMap.Tells backend name recorded entry := by
  obtain ⟨entry, hentry, htells⟩ := HealthMap.exists_tells hbackend now rounds
  have hnodup := HealthMap.nodup_targets backends
  rw [htargets, List.map_append] at hnodup
  by_cases hname : name ∈ done.map Prod.fst
  · obtain ⟨⟨other, pinged⟩, hmem, rfl⟩ := List.mem_map.mp hname
    have hpinged := HealthMap.mem_targets_iff.mp
      (htargets ▸ List.mem_append_left left hmem)
    obtain rfl : pinged = backend := by simpa [hpinged] using hbackend
    refine ⟨rounds ++ [round], _, Or.inr rfl, ?_, htells.record round (round other).recordedAt⟩
    rw [Table.lookup_foldl_of_mem (HealthMap.lookup_probe_of_ne round)
      (g := fun target entry => some (HealthMap.pinged round target entry))
      (HealthMap.lookup_probe_self round) (List.nodup_append.mp hnodup).1 hmem, hentry]
    rfl
  · refine ⟨rounds, entry, Or.inl rfl, ?_, htells⟩
    rw [Table.lookup_foldl_of_notMem (HealthMap.lookup_probe_of_ne round) hname, hentry]

/-- What a reached map says of an HTTP backend. -/
theorem Reached.http {unset : Option (Round × List (String × HttpBackend))} {rounds : List Round}
    (h : Reached backends now rounds shown unset) {name : String} {backend : HttpBackend}
    (hbackend : backends.lookup name = some (.http backend)) :
    ∃ recorded entry, (recorded = rounds ∨
        ∃ round left, unset = some (round, left) ∧ recorded = rounds ++ [round]) ∧
      shown.lookup name = some entry ∧ HealthMap.Tells backend name recorded entry := by
  cases unset with
  | none =>
    obtain ⟨entry, hentry, htells⟩ := HealthMap.exists_tells hbackend now rounds
    exact ⟨rounds, entry, Or.inl rfl, by rw [← hentry, h], htells⟩
  | some under =>
    obtain ⟨round, left⟩ := under
    obtain ⟨done, htargets, rfl⟩ := h
    obtain ⟨recorded, entry, hrecorded, hentry, htells⟩ :=
      lookup_foldl_probe htargets now rounds round hbackend
    refine ⟨recorded, entry, hrecorded.imp_right ?_, hentry, htells⟩
    exact fun heq => ⟨round, left, rfl, heq⟩

end HealthService

end SentinelGateway
