import SentinelGateway.Gateway.Breaking
import SentinelGateway.Health
import SentinelGateway.Startup

/-!
# Tables filled at startup

`main` fills four tables that are keyed by backend names: the routes of the
catalog, the backends, the circuit breakers and the health map. They are filled
in different places, from different lists. As no two entries of the configuration
share a name, they agree: what is routed is there, and the backend and the breaker
under a name come from the same entry.
-/

namespace SentinelGateway

/-- The backend is one that the configuration entry describes. -/
def BackendConfig.Builds (config : BackendConfig) (authSecret : Option String) : Backend → Prop
  | .http backend => config.backendType = .http ∧ backend = .new config authSecret
  | .stdio backend => config.backendType = .stdio ∧
      ∃ child, backend = { name := config.name, child, timeout := config.timeoutSecs }

/-- The breaker has the threshold and the timeout of the configuration entry. -/
def BackendConfig.Configures (config : BackendConfig) (cb : CircuitBreaker) : Prop :=
  cb.failureThreshold = config.circuitBreakerThreshold ∧
    cb.recoveryTimeout = config.circuitBreakerRecoverySecs

theorem BackendConfig.configures_new (config : BackendConfig) :
    config.Configures
      (.new config.circuitBreakerThreshold config.circuitBreakerRecoverySecs) := ⟨rfl, rfl⟩

/-- No operation changes what a breaker was configured with. -/
theorem BackendConfig.Configures.after {config : BackendConfig} {cb : CircuitBreaker}
    (h : config.Configures cb) (operations : List CircuitBreaker.Operation) :
    config.Configures (Runs.after CircuitBreaker.operate cb operations) := by
  induction operations generalizing cb with
  | nil => exact h
  | cons operation operations ih =>
    apply ih
    cases operation with
    | allowRequest now =>
      change config.Configures (cb.allowRequest now).1
      unfold CircuitBreaker.allowRequest
      split
      · exact h
      · split
        · split_ifs
          · exact h
          · exact h
        · exact h
      · exact h
    | recordSuccess => exact h
    | recordFailure now => exact h

/-- Registering a backend routes names to this backend only. -/
theorem ToolCatalog.route_registerBackend {catalog : ToolCatalog} {registered : String}
    {tools : List Tool} {name backendName : String}
    (h : (catalog.registerBackend registered tools).route name = some backendName) :
    backendName = registered ∨ catalog.route name = some backendName := by
  induction tools generalizing catalog with
  | nil => exact Or.inr h
  | cons tool tools ih =>
    rcases ih h with heq | hroute
    · exact Or.inl heq
    · change (catalog.registerTool registered tool).route name = some backendName at hroute
      rw [registerTool_eq] at hroute
      by_cases hname : name = catalog.catalogName registered tool
      · subst hname
        left
        simpa [ToolCatalog.route] using hroute.symm
      · right
        rwa [ToolCatalog.route, AList.lookup_insert_ne hname] at hroute

namespace World

variable {settings : Settings} {configs : List BackendConfig} {w w' : World}

/-- With distinct names, each discovered backend has the breaker of its own entry. -/
theorem lookup_circuitBreakers (hnodup : (w.configs.map BackendConfig.name).Nodup)
    {config : BackendConfig} (hconfig : config ∈ w.configs) (hmem : config.name ∈ w.backends) :
    w.circuitBreakers.lookup config.name =
      some (.new config.circuitBreakerThreshold config.circuitBreakerRecoverySecs) := by
  have hfiltered : config ∈ w.configs.filter fun config => config.name ∈ w.backends :=
    List.mem_filter.mpr ⟨hconfig, by simpa using hmem⟩
  have hsub : ((w.configs.filter fun config => config.name ∈ w.backends).map
      BackendConfig.name).Nodup := hnodup.sublist (List.filter_sublist.map _)
  exact Table.lookup_foldl_of_mem (fun _ _ _ hne => AList.lookup_insert_ne hne)
    (g := fun config _ => some (CircuitBreaker.new config.circuitBreakerThreshold
      config.circuitBreakerRecoverySecs)) (fun _ _ => AList.lookup_insert _) hsub hfiltered ∅

/-- What the tables have to do with the configuration. The catalog counts only as
long as it is not the stub that is served when nothing was discovered. -/
structure Consistent (settings : Settings) (configs : List BackendConfig) (w : World) : Prop where
  configs_eq : w.configs = configs
  todo_mem : ∀ config ∈ w.todo, config ∈ configs
  supervised : ∀ name supervisor, w.supervisors.lookup name = some supervisor →
    supervisor.config ∈ configs ∧ supervisor.config.name = name ∧
      supervisor.config.backendType = .stdio
  registered : ∀ name backend, w.backends.lookup name = some backend →
    ∃ config ∈ configs, config.name = name ∧ config.Builds settings.authSecret backend
  routed : (∀ st, w.stage = .serving st → w.discoverySucceeded = true) →
    ∀ name backendName, w.catalog.route name = some backendName → backendName ∈ w.backends
  breakers : ∀ st, w.stage = .serving st → ∀ config ∈ configs, config.name ∈ w.backends →
    ∃ cb, st.circuitBreakers.lookup config.name = some cb ∧ config.Configures cb

theorem consistent_init (settings : Settings) (configs : List BackendConfig) :
    Consistent settings configs (init configs) where
  configs_eq := rfl
  todo_mem config h := by
    rcases List.mem_append.mp h with hmem | hmem
    · exact List.mem_of_mem_filter hmem
    · exact List.mem_of_mem_filter hmem
  supervised := by simp [init]
  registered := by simp [init]
  routed := by simp [init, ToolCatalog.route, ToolCatalog.new]
  breakers := by simp [init]

/-- A step of `main` that leaves tables and catalog alone and does not serve yet. -/
theorem Consistent.of_stage (h : Consistent settings configs w)
    (hbefore : ∀ st, w.stage ≠ .serving st) (stage : Stage) (hstage : ∀ st, stage ≠ .serving st)
    {todo : List BackendConfig} (htodo : ∀ config ∈ todo, config ∈ w.todo) :
    Consistent settings configs { w with stage, todo } :=
  ⟨h.configs_eq, fun config hconfig => h.todo_mem config (htodo config hconfig), h.supervised,
    h.registered, fun _ => h.routed fun st hserving => absurd hserving (hbefore st),
    fun st hserving => absurd hserving (hstage st)⟩

/-- The supervisor under a name is replaced by one for the same kind of entry. -/
theorem Consistent.supervise (h : Consistent settings configs w) (supervisor : Supervisor)
    {name : String} (hmem : supervisor.config ∈ configs) (hname : supervisor.config.name = name)
    (hkind : supervisor.config.backendType = .stdio) :
    Consistent settings configs
      { w with supervisors := w.supervisors.insert name supervisor } := by
  refine ⟨h.configs_eq, h.todo_mem, ?_, h.registered, h.routed, h.breakers⟩
  intro other found hlookup
  by_cases heq : other = name
  · subst heq
    obtain rfl : supervisor = found := by simpa using hlookup
    exact ⟨hmem, hname, hkind⟩
  · rw [AList.lookup_insert_ne heq] at hlookup
    exact h.supervised other found hlookup

/-- A backend built from an entry is registered under the name of the entry. -/
theorem Consistent.register (h : Consistent settings configs w)
    (hstage : ∀ st, w.stage ≠ .serving st) {config : BackendConfig} (hmem : config ∈ configs)
    (tools : List Tool) {backend : Backend} (hbuilds : config.Builds settings.authSecret backend) :
    Consistent settings configs (w.register config.name tools backend) where
  configs_eq := h.configs_eq
  todo_mem := h.todo_mem
  supervised := h.supervised
  registered name found hlookup := by
    change (w.backends.insert config.name backend).lookup name = some found at hlookup
    by_cases heq : name = config.name
    · subst heq
      obtain rfl : backend = found := by simpa using hlookup
      exact ⟨config, hmem, rfl, hbuilds⟩
    · rw [AList.lookup_insert_ne heq] at hlookup
      exact h.registered name found hlookup
  routed _ name backendName hroute := by
    change backendName ∈ w.backends.insert config.name backend
    rw [AList.mem_insert]
    rcases ToolCatalog.route_registerBackend hroute with heq | hold
    · exact Or.inl heq
    · exact Or.inr (h.routed (fun st hserving => absurd hserving (hstage st)) name _ hold)
  breakers st hserving := absurd hserving (hstage st)

/-- Every step keeps the tables consistent. -/
theorem Consistent.step (hnodup : (configs.map BackendConfig.name).Nodup)
    (h : Consistent settings configs w) (hwired : w.Wired) (hcase : StepCase settings w w') :
    Consistent settings configs w' := by
  cases hcase with
  | skipped config todo hstage htodo =>
    exact h.of_stage (by simp [hstage]) w.stage (by simp [hstage]) (by simp +contextual [htodo])
  | discovered config todo tools hstage htodo hkind =>
    have hnext : Consistent settings configs { w with todo } :=
      h.of_stage (by simp [hstage]) w.stage (by simp [hstage]) (by simp +contextual [htodo])
    exact hnext.register (by simp [hstage]) (h.todo_mem config (by simp [htodo])) tools
      ⟨hkind, rfl⟩
  | launched config todo hstage htodo hkind =>
    have hnext : Consistent settings configs { w with stage := .waiting config.name, todo } :=
      h.of_stage (by simp [hstage]) (.waiting config.name) (by simp) (by simp +contextual [htodo])
    exact hnext.supervise (.new config) (h.todo_mem config (by simp [htodo])) rfl hkind
  | received name supervisor tools backend hstage hlookup hbuffer =>
    obtain ⟨hmem, rfl, hkind⟩ := h.supervised name supervisor hlookup
    -- the message in the channel is that of a child of this supervisor
    obtain ⟨listened, hlistened, hfirst⟩ := hwired.waiting _ hstage
    obtain rfl : listened = supervisor := by simpa [hlookup] using hlistened.symm
    obtain ⟨child, -, hhandle⟩ := hfirst.buffered tools backend hbuffer
    have hbuilds : listened.config.Builds settings.authSecret (.stdio backend) :=
      ⟨hkind, child, hhandle⟩
    have hregistered := h.register (by simp [hstage]) hmem tools hbuilds
    have hleaving := hregistered.of_stage (by simp [World.register, hstage])
      (.leaving listened.config.name) (by simp) (fun _ => id)
    exact hleaving.supervise { listened with buffer := none } hmem rfl hkind
  | gaveUp name hstage => exact h.of_stage (by simp [hstage]) (.leaving name) (by simp) fun _ => id
  | left name supervisor hstage hlookup =>
    obtain ⟨hmem, hname, hkind⟩ := h.supervised name supervisor hlookup
    have hleft := h.of_stage (by simp [hstage]) .discovering (by simp) (fun _ => id)
    exact hleft.supervise { supervisor with receiverOpen := false, buffer := none } hmem hname hkind
  | served st hstage htodo hstart =>
    refine ⟨h.configs_eq, h.todo_mem, h.supervised, h.registered, ?_, ?_⟩
    · intro hsucceeded name backendName hroute
      have hfound : w.discoverySucceeded = true := hsucceeded st rfl
      change (if w.discoverySucceeded then w.catalog else .stub).route name = _ at hroute
      rw [if_pos hfound] at hroute
      exact h.routed (fun st hserving => by simp [hstage] at hserving) name backendName hroute
    · intro st' hserving config hconfig hmem
      obtain rfl : st = st' := by simpa using hserving
      have hconfigs : w.configs = configs := h.configs_eq
      rw [← hconfigs] at hconfig hnodup
      refine ⟨_, ?_, config.configures_new⟩
      rw [hstart]
      exact lookup_circuitBreakers hnodup hconfig hmem
  | dispatched st st' event hstage hstepped =>
    refine ⟨h.configs_eq, h.todo_mem, h.supervised, h.registered, ?_, ?_⟩
    · intro hsucceeded
      exact h.routed fun _ _ => hsucceeded st' rfl
    · intro later hserving config hconfig hmem
      obtain rfl : st' = later := by simpa using hserving
      obtain ⟨cb, hlookup, hconfigures⟩ := h.breakers st hstage config hconfig hmem
      obtain ⟨operations, hoperates⟩ :=
        Gateway.exists_operates (w.gateway settings) st event config.name
      refine ⟨_, ?_, hconfigures.after operations⟩
      rw [hstepped, hoperates.breaker_eq, hlookup]
      rfl
  | supervised name before after hlookup hcase =>
    obtain ⟨hmem, hname, hkind⟩ := h.supervised name before hlookup
    have hconfig := Supervisor.config_step hcase
    rw [← hconfig] at hmem hname hkind
    exact h.supervise after hmem hname hkind
  | cancelled =>
    exact ⟨h.configs_eq, h.todo_mem, h.supervised, h.registered, h.routed, h.breakers⟩

/-- Every run on an accepted configuration keeps the tables consistent. -/
theorem consistent_of_exec (hvalid : validateBackends configs = .ok ())
    {labels : List WorldLabel}
    (hrun : Runs.exec (step settings) (init configs) labels = some w) :
    Consistent settings configs w := by
  have hboth : w.Wired ∧ Consistent settings configs w := by
    refine Runs.exec_induction (step settings)
      (motive := fun _ w => w.Wired ∧ Consistent settings configs w)
      ⟨wired_init hvalid, consistent_init settings configs⟩ ?_ hrun
    rintro _ _ _ _ _ ⟨hwired, hconsistent⟩ hstep
    have hcase := step_cases hstep
    exact ⟨hwired.step hcase,
      hconsistent.step (nodup_of_validateBackends hvalid) hwired hcase⟩
  exact hboth.2

/-- **Startup wiring.** In every run on an accepted configuration that discovered
a backend, every routed name leads to a backend whose entry in the configuration
made both what is registered under its name and the breaker there, and it has an
entry in the health map from the start. So a call of the name is sent rather than
answered for want of a backend, and it passes the gate of that breaker. -/
theorem wiring_consistent (settings : Settings) {configs : List BackendConfig}
    (hvalid : validateBackends configs = .ok ()) {labels : List WorldLabel} {w : World}
    (hrun : Runs.exec (step settings) (init configs) labels = some w) {st : DispatchState}
    (hserving : w.stage = .serving st) (hsucceeded : w.discoverySucceeded = true)
    {name backendName : String} (hroute : w.catalog.route name = some backendName) :
    ∃ config ∈ configs, config.name = backendName ∧
      (∃ backend, w.backends.lookup backendName = some backend ∧
        config.Builds settings.authSecret backend ∧
        ∀ called line id params, toolName params = some name →
          ∃ body, ((w.gateway settings).handleToolsCall called line id params).2.1 =
            [.send backendName backend body]) ∧
      w.circuitBreakers.lookup backendName =
        some (.new config.circuitBreakerThreshold config.circuitBreakerRecoverySecs) ∧
      (∃ cb, st.circuitBreakers.lookup backendName = some cb ∧ config.Configures cb ∧
        ∀ line, ((w.gateway settings).circuitGate ((w.gateway settings).afterCheck st line name)
          name line.allowedAt).2 = none ↔ (cb.allowRequest line.allowedAt).2 = true) ∧
      ∀ now rounds, ((HealthMap.afterRounds w.backends now rounds).lookup backendName).isSome := by
  have hconsistent := consistent_of_exec hvalid hrun
  have hmem := hconsistent.routed (fun _ _ => hsucceeded) name backendName hroute
  obtain ⟨backend, hbackend⟩ := Option.isSome_iff_exists.mp (AList.lookup_isSome.mpr hmem)
  obtain ⟨config, hconfig, rfl, hbuilds⟩ := hconsistent.registered backendName backend hbackend
  obtain ⟨cb, hcb, hconfigures⟩ := hconsistent.breakers st hserving config hconfig hmem
  refine ⟨config, hconfig, rfl, ⟨backend, hbackend, hbuilds, ?_⟩, ?_, ⟨cb, hcb, hconfigures, ?_⟩,
    ?_⟩
  · intro called line id params hname
    have hgw : (w.gateway settings).catalog.route name = some config.name := hroute
    exact ⟨_, by rw [Gateway.handleToolsCall_of_served hname hgw hbackend]⟩
  · have hconfigs : w.configs = configs := hconsistent.configs_eq
    have hnodup := nodup_of_validateBackends hvalid
    rw [← hconfigs] at hconfig hnodup
    exact lookup_circuitBreakers hnodup hconfig hmem
  · intro line
    have hgw : (w.gateway settings).catalog.route name = some config.name := hroute
    have hcounted : ((w.gateway settings).afterCheck st line name).circuitBreakers.lookup
        config.name = some cb := hcb
    rw [Gateway.circuitGate_of_breaker line.allowedAt hgw hcounted]
    cases hallowed : (cb.allowRequest line.allowedAt).2 with
    | true => simp
    | false => simp
  · intro now rounds
    rw [HealthMap.lookup_afterRounds_isSome, hbackend]
    rfl

/-- Whether the dispatch loop runs. -/
def isServing (w : World) : Bool :=
  match w.stage with
  | .serving _ => true
  | .discovering | .waiting _ | .leaving _ => false

/-- A backend whose first child failed its handshake is wired by the second one. -/
theorem wiring_consistent_second_child :
    ∃ w st, Runs.exec (step openSettings) (init oneStdio) secondChildFirst = some w ∧
      w.stage = .serving st ∧ ∃ config ∈ oneStdio, config.name = "db" ∧
        w.circuitBreakers.lookup "db" = some
          (.new config.circuitBreakerThreshold config.circuitBreakerRecoverySecs) := by
  have hready : (Runs.exec (step openSettings) (init oneStdio) secondChildFirst).any (fun w =>
      w.isServing && decide (w.discoverySucceeded = true ∧
        w.catalog.route "query" = some "db")) = true := by decide +kernel
  obtain ⟨w, hrun, hready⟩ := (Option.any_eq_true _ _).mp hready
  rw [Bool.and_eq_true, decide_eq_true_eq] at hready
  obtain ⟨hserving, hsucceeded, hroute⟩ := hready
  cases hstage : w.stage with
  | discovering | waiting | leaving => simp [isServing, hstage] at hserving
  | serving st =>
    obtain ⟨config, hconfig, hname, -, hbreaker, -⟩ :=
      wiring_consistent openSettings (by decide) hrun hstage hsucceeded hroute
    exact ⟨w, st, hrun, hstage, config, hconfig, hname, hbreaker⟩

end World

end SentinelGateway
