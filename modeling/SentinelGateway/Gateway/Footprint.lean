import SentinelGateway.Gateway.Identifiers
import SentinelGateway.Gateway.Monitor
import SentinelGateway.Gateway.Reloading

/-!
# What a session leaves in memory

Of the tables a session works on, the identifiers of forwarded calls are given back and
the breakers stay the same ones. Only the limiter grows. It keeps a bucket for every name
that was counted since the last reload, and it counts a name before anybody asks whether
there is such a tool, so it is the client who says how many there are.
-/

namespace SentinelGateway

namespace Gateway

variable {gw : Gateway} {initial st : DispatchState} {line : InboundLine}

/-- The names whose limits the lines since the last reload came to, each once, next to the
state of the session. -/
def noteCounted (gw : Gateway) (noted : DispatchState × List String) (event : Event) :
    DispatchState × List String :=
  ((gw.step noted.1 event).1,
    match event with
    | .replaceHotConfig _ => []
    | .line line => (gw.countedTool noted.1 line).elim noted.2 fun name => noted.2.insert name)

def countedSince (gw : Gateway) (initial : DispatchState) (events : List Event) : List String :=
  (events.foldl gw.noteCounted (initial, [])).2

theorem foldl_noteCounted (gw : Gateway) (initial : DispatchState) (events : List Event) :
    events.foldl gw.noteCounted (initial, []) =
      (Runs.after gw.step initial events, gw.countedSince initial events) := by
  refine Prod.ext ?_ rfl
  change (events.foldl gw.noteCounted (initial, [])).1 = Runs.after gw.step initial events
  induction events using List.reverseRecOn with
  | nil => rfl
  | append_singleton events event ih =>
    rw [List.foldl_concat, Runs.after_concat, ← ih]
    rfl

theorem countedSince_line (gw : Gateway) (initial : DispatchState) (events : List Event)
    (line : InboundLine) :
    gw.countedSince initial (events ++ [.line line]) =
      (gw.countedTool (Runs.after gw.step initial events) line).elim
        (gw.countedSince initial events) fun name =>
          (gw.countedSince initial events).insert name := by
  rw [countedSince, List.foldl_concat, foldl_noteCounted]
  rfl

theorem countedSince_reload (gw : Gateway) (initial : DispatchState) (events : List Event)
    (hotConfig : HotConfig) :
    gw.countedSince initial (events ++ [.replaceHotConfig hotConfig]) = [] := by
  rw [countedSince, List.foldl_concat]
  rfl

theorem mem_countedSince_line {events : List Event} {name : String} :
    name ∈ gw.countedSince initial (events ++ [.line line]) ↔
      gw.countedTool (Runs.after gw.step initial events) line = some name ∨
        name ∈ gw.countedSince initial events := by
  rw [countedSince_line]
  cases gw.countedTool (Runs.after gw.step initial events) line with
  | none => simp
  | some counted => simp [eq_comm]

/-- A name is noted by a line that came to its limit, if no reload followed. -/
theorem mem_countedSince_iff {events : List Event} {name : String} :
    name ∈ gw.countedSince initial events ↔ ∃ before line after,
      events = before ++ .line line :: after ∧ (∀ event ∈ after, event.hotConfig? = none) ∧
        gw.countedTool (Runs.after gw.step initial before) line = some name := by
  induction events using List.reverseRecOn with
  | nil => simp [countedSince]
  | append_singleton events event ih =>
    constructor
    · intro hname
      cases event with
      | replaceHotConfig hotConfig => simp [countedSince_reload] at hname
      | line line =>
        rcases mem_countedSince_line.mp hname with hcounted | hbefore
        · exact ⟨events, line, [], rfl, by simp, hcounted⟩
        · obtain ⟨before, noted, after, rfl, hafter, hcounted⟩ := ih.mp hbefore
          refine ⟨before, noted, after ++ [.line line], by simp, ?_, hcounted⟩
          simpa [or_imp, forall_and, Event.hotConfig?] using hafter
    · rintro ⟨before, noted, after, heq, hafter, hcounted⟩
      rcases List.eq_nil_or_concat after with rfl | ⟨rest, last, rfl⟩
      · obtain ⟨rfl, hlast⟩ := List.append_inj' heq rfl
        obtain rfl := List.singleton_inj.mp hlast
        exact mem_countedSince_line.mpr (Or.inl hcounted)
      · rw [List.concat_eq_append, ← List.cons_append, ← List.append_assoc] at heq
        obtain ⟨rfl, hlast⟩ := List.append_inj' heq rfl
        obtain rfl := List.singleton_inj.mp hlast
        rw [List.concat_eq_append] at hafter
        have hbefore := ih.mpr ⟨before, noted, rest, rfl,
          fun event hmem => hafter event (List.mem_append_left _ hmem), hcounted⟩
        cases event with
        | replaceHotConfig hotConfig =>
          have hnone := hafter (.replaceHotConfig hotConfig) (by simp)
          cases hnone
        | line line => exact mem_countedSince_line.mpr (Or.inr hbefore)

/-- The buckets of the limiter are those of the names, under the caller. -/
structure BucketsOf (gw : Gateway) (names : List String) (limiter : RateLimiter) : Prop where
  mem_iff : ∀ client tool, (client, tool) ∈ limiter.buckets ↔
    client = gw.identity.subject ∧ tool ∈ names
  nodup : names.Nodup
  size_eq : Table.size limiter.buckets = names.length

/-- A limiter without buckets. -/
theorem bucketsOf_nil {limiter : RateLimiter} (h : limiter.buckets = ∅) :
    BucketsOf gw [] limiter where
  mem_iff client tool := by simp [h]
  nodup := .nil
  size_eq := by rw [h]; rfl

/-- A check makes a bucket for its name unless there is one. -/
theorem BucketsOf.check {names : List String} {limiter : RateLimiter}
    (h : BucketsOf gw names limiter) (name : String) (now : Instant) :
    BucketsOf gw (names.insert name) (limiter.check gw.identity.subject name now).1 where
  mem_iff client tool := by
    simp only [RateLimiter.check, AList.mem_insert, h.mem_iff, List.mem_insert_iff,
      Prod.mk.injEq]
    constructor
    · rintro (⟨rfl, rfl⟩ | ⟨rfl, hmem⟩)
      · exact ⟨rfl, Or.inl rfl⟩
      · exact ⟨rfl, Or.inr hmem⟩
    · rintro ⟨rfl, rfl | hmem⟩
      · exact Or.inl ⟨rfl, rfl⟩
      · exact Or.inr ⟨rfl, hmem⟩
  nodup := h.nodup.insert
  size_eq := by
    by_cases hmem : name ∈ names
    · rw [List.insert_of_mem hmem, ← h.size_eq]
      exact Table.size_insert_of_mem ((h.mem_iff _ _).mpr ⟨rfl, hmem⟩) _
    · have hfresh : (gw.identity.subject, name) ∉ limiter.buckets :=
        fun hbucket => hmem ((h.mem_iff _ _).mp hbucket).2
      rw [List.insert_of_not_mem hmem, List.length_cons, ← h.size_eq]
      exact Table.size_insert_of_notMem hfresh _

/-- The limiter has the buckets of the names counted since the last reload. -/
theorem bucketsOf_after (gw : Gateway) {initial : DispatchState} {events : List Event}
    (hlimits : initial.hotConfig.rateLimiter.buckets = ∅)
    (hfresh : ∀ event ∈ events, Monitor.FreshReload event) :
    BucketsOf gw (gw.countedSince initial events)
      (Runs.after gw.step initial events).hotConfig.rateLimiter := by
  induction events using List.reverseRecOn with
  | nil => exact bucketsOf_nil hlimits
  | append_singleton events event ih =>
    have hbuckets := ih fun other hmem => hfresh other (List.mem_append_left _ hmem)
    rw [Runs.after_concat]
    cases event with
    | replaceHotConfig hotConfig =>
      rw [countedSince_reload]
      exact bucketsOf_nil (hfresh _ (List.mem_append_right _ (List.mem_singleton_self _)))
    | line line =>
      rw [countedSince_line, hotConfig_step]
      cases gw.countedTool (Runs.after gw.step initial events) line with
      | none => exact hbuckets
      | some name => exact hbuckets.check name line.checkedAt

/-- The breakers are those the session started with. -/
theorem mem_circuitBreakers_after (gw : Gateway) (initial : DispatchState) (events : List Event)
    (backendName : String) :
    backendName ∈ (Runs.after gw.step initial events).circuitBreakers ↔
      backendName ∈ initial.circuitBreakers := by
  obtain ⟨operations, hbreaker, -⟩ := exists_operations_after gw initial backendName events
  rw [← AList.lookup_isSome, hbreaker, Option.isSome_map, AList.lookup_isSome]

/-- **What a session leaves in memory.** After every session that starts with unused limits
and no pending identifiers, and whose reloads bring unused limits: no identifier is pending,
the breakers are those of the start, and the limiter has one bucket, the caller's, for each
name that a call came to the limit of since the last reload, whether or not there is such a tool: a
call that the kill switch lets pass comes there before it is routed. -/
theorem footprint (gw : Gateway) (hotConfig : HotConfig)
    (circuitBreakers : Table String CircuitBreaker) (events : List Event)
    (hlimits : hotConfig.rateLimiter.buckets = ∅)
    (hfresh : ∀ event ∈ events, Monitor.FreshReload event) :
    let initial := start hotConfig .new circuitBreakers
    let st := Runs.after gw.step initial events
    st.idRemapper.mappings = ∅ ∧
      (∀ backendName, backendName ∈ st.circuitBreakers ↔ backendName ∈ circuitBreakers) ∧
      (gw.countedSince initial events).Nodup ∧
      (∀ client tool, (client, tool) ∈ st.hotConfig.rateLimiter.buckets ↔
        client = gw.identity.subject ∧ tool ∈ gw.countedSince initial events) ∧
      Table.size st.hotConfig.rateLimiter.buckets = (gw.countedSince initial events).length ∧
      (∀ name, name ∈ gw.countedSince initial events ↔ ∃ before line after,
        events = before ++ .line line :: after ∧ (∀ event ∈ after, event.hotConfig? = none) ∧
          gw.countedTool (Runs.after gw.step initial before) line = some name) ∧
      ∀ line name, gw.calledTool st.state line = some name → gw.catalog.route name = none →
        name ∉ st.hotConfig.killSwitch.disabledTools → gw.countedTool st line = some name := by
  intro initial st
  have hbuckets : BucketsOf gw (gw.countedSince initial events) st.hotConfig.rateLimiter :=
    bucketsOf_after gw hlimits hfresh
  obtain ⟨count, -, hremapper, -⟩ := remapper_after gw hotConfig circuitBreakers events
  refine ⟨by rw [hremapper]; rfl, mem_circuitBreakers_after gw initial events, hbuckets.nodup,
    hbuckets.mem_iff, hbuckets.size_eq, fun name => mem_countedSince_iff, ?_⟩
  intro line name hcalled hroute henabled
  refine countedTool_eq_some_iff.mpr ⟨hcalled, (killSwitchGate_eq_none_iff _).mpr ⟨henabled, ?_⟩⟩
  intro backendName hbackend
  rw [hroute] at hbackend
  cases hbackend

/-- Calls of two tools that do not exist, with a reload before the last one. -/
def unknownTools (more : List Event) : List Event :=
  handshake ++ [.line (.message (callJson 7 "alpha")), .line (.message (callJson 8 "beta")),
    .line (.message (callJson 7 "alpha"))] ++ more

/-- They leave two buckets behind, and one after a reload and another call. -/
theorem footprint_unknown_tools :
    let gw := Gateway.bare (.ofValues (handshakeMessages ++
      [callJson 7 "alpha", callJson 8 "beta"]))
    let left (more : List Event) :=
      (Runs.after gw.step (start ⟨{}, .new {}⟩ .new ∅) (unknownTools more)).hotConfig.rateLimiter
    let reloaded := [Event.replaceHotConfig ⟨{}, .new {}⟩, .line (.message (callJson 8 "beta"))]
    Table.size (left []).buckets = 2 ∧ ("admin", "alpha") ∈ (left []).buckets ∧
      Table.size (left reloaded).buckets = 1 ∧ ("admin", "alpha") ∉ (left reloaded).buckets := by
  intro gw left reloaded
  obtain ⟨-, -, -, hbuckets, hsize, -⟩ := footprint gw ⟨{}, .new {}⟩ ∅ (unknownTools []) rfl
    (by simp [unknownTools, handshake, Monitor.FreshReload])
  obtain ⟨-, -, -, hbuckets', hsize', -⟩ := footprint gw ⟨{}, .new {}⟩ ∅ (unknownTools reloaded)
    rfl (by simp [unknownTools, handshake, reloaded, Monitor.FreshReload, RateLimiter.new])
  refine ⟨?_, (hbuckets _ _).mpr ⟨rfl, ?_⟩, ?_, fun hmem => ?_⟩
  · rw [hsize]
    decide +kernel
  · decide +kernel
  · rw [hsize']
    decide +kernel
  · exact absurd ((hbuckets' _ _).mp hmem).2 (by decide +kernel)

end Gateway

end SentinelGateway
