import SentinelGateway.Gateway.Steps
import SentinelGateway.Library.Runs
import SentinelGateway.Stdio.Supervisor

/-!
# Startup and service

`main` discovers the backends one after the other, HTTP backends first. For a
stdio backend it starts a supervisor and waits for the first message on a channel
of its own, which it gives up when it turns to the next backend. Then it serves
the client, while the supervisors go on in the background. Calls therefore go to
the child that was the first to complete its handshake, whatever became of it.
-/

namespace SentinelGateway

/-- What `main` reads from its configuration and its environment, besides the
backend list. -/
structure Settings where
  serde : SerdeJson
  decodeInitialize : Json → Except String Unit
  compile : Json → Except String Validator
  authSecret : Option String
  caller : Option CallerIdentity
  rbacConfig : RbacConfig
  audit : Bool
  killSwitch : KillSwitchConfig
  rateLimits : RateLimitConfig

/-- Where `main` is: between two backends, waiting for the tools of a stdio
backend, about to let go of that backend's channel, or in `run_dispatch`. -/
inductive Stage where
  | discovering
  | waiting (name : String)
  | leaving (name : String)
  | serving (st : DispatchState)

/-- The gateway process: the state of `main` and of all supervisors. -/
structure World where
  configs : List BackendConfig
  todo : List BackendConfig
  stage : Stage
  catalog : ToolCatalog
  backends : Table String Backend
  discoverySucceeded : Bool
  supervisors : Table String Supervisor
  cancelled : Bool

/-- The steps of the gateway process. -/
inductive WorldLabel where
  | discoverHttp (tools : Option (List Tool))
  | launch
  | receive
  | hangUp
  | giveUp
  | leave
  | serve
  | dispatch (event : Event)
  | supervise (name : String) (action : SupervisorAction)
  | cancel

namespace World

/-- The process after the configuration was read: HTTP backends come first. -/
def init (configs : List BackendConfig) : World :=
  { configs
    todo := configs.filter (·.backendType = .http) ++ configs.filter (·.backendType = .stdio)
    stage := .discovering, catalog := .new, backends := ∅, discoverySucceeded := false,
    supervisors := ∅, cancelled := false }

/-- Registers a discovered backend. -/
def register (w : World) (name : String) (tools : List Tool) (backend : Backend) : World :=
  { w with
    catalog := w.catalog.registerBackend name tools
    backends := w.backends.insert name backend
    discoverySucceeded := true }

/-- A breaker for each backend that was discovered. -/
def circuitBreakers (w : World) : Table String CircuitBreaker :=
  (w.configs.filter fun config => config.name ∈ w.backends).foldl (fun breakers config =>
    breakers.insert config.name
      (.new config.circuitBreakerThreshold config.circuitBreakerRecoverySecs)) ∅

/-- The arguments of `run_dispatch`. -/
def gateway (settings : Settings) (w : World) : Gateway :=
  { serde := settings.serde, decodeInitialize := settings.decodeInitialize, catalog := w.catalog,
    backends := w.backends, caller := settings.caller, rbacConfig := settings.rbacConfig,
    auditTx := settings.audit, metrics := true,
    schemaCache := .fromCatalog settings.compile w.catalog }

/-- One step of the gateway process. -/
def step (settings : Settings) (w : World) : WorldLabel → Option World
  | .discoverHttp tools =>
    match w.stage, w.todo with
    | .discovering, config :: todo =>
      if config.backendType = .http then
        match tools with
        | some tools => some ({ w with todo }.register config.name tools
            (.http (.new config settings.authSecret)))
        | none => some { w with todo }
      else none
    | _, _ => none
  | .launch =>
    match w.stage, w.todo with
    | .discovering, config :: todo =>
      if config.backendType = .stdio then
        some { w with
          todo
          stage := .waiting config.name
          supervisors := w.supervisors.insert config.name (.new config) }
      else none
    | _, _ => none
  -- the three ways in which waiting for a message ends
  | .receive =>
    match w.stage with
    | .waiting name =>
      (w.supervisors.lookup name).bind fun supervisor =>
        supervisor.buffer.map fun message =>
          { w.register name message.1 (.stdio message.2) with
            stage := .leaving name
            supervisors := w.supervisors.insert name { supervisor with buffer := none } }
    | _ => none
  | .hangUp =>
    match w.stage with
    | .waiting name =>
      (w.supervisors.lookup name).bind fun supervisor =>
        match supervisor.phase, supervisor.buffer with
        | .stopped, none => some { w with stage := .leaving name }
        | _, _ => none
    | _ => none
  | .giveUp =>
    match w.stage with
    | .waiting name =>
      (w.supervisors.lookup name).bind fun supervisor =>
        if supervisor.buffer.isNone then some { w with stage := .leaving name } else none
    | _ => none
  -- the receiver is dropped at the end of the loop body
  | .leave =>
    match w.stage with
    | .leaving name =>
      (w.supervisors.lookup name).map fun supervisor =>
        { w with
          stage := .discovering
          supervisors := w.supervisors.insert name
            { supervisor with receiverOpen := false, buffer := none } }
    | _ => none
  | .serve =>
    match w.stage, w.todo with
    | .discovering, [] =>
      some { w with
        catalog := if w.discoverySucceeded then w.catalog else .stub
        stage := .serving (Gateway.start ⟨settings.killSwitch, .new settings.rateLimits⟩ .new
          w.circuitBreakers) }
    | _, _ => none
  | .dispatch event =>
    match w.stage with
    | .serving st => some { w with stage := .serving ((w.gateway settings).step st event).1 }
    | _ => none
  | .supervise name action =>
    (w.supervisors.lookup name).bind fun supervisor =>
      (supervisor.step w.cancelled action).map fun supervisor =>
        { w with supervisors := w.supervisors.insert name supervisor }
  | .cancel => some { w with cancelled := true }

/-- Everything a step can do, with the state in which it can be done. -/
inductive StepCase (settings : Settings) (w : World) : World → Prop
  | skipped (config : BackendConfig) (todo : List BackendConfig) (stage : w.stage = .discovering)
      (todo_eq : w.todo = config :: todo) : StepCase settings w { w with todo }
  | discovered (config : BackendConfig) (todo : List BackendConfig) (tools : List Tool)
      (stage : w.stage = .discovering) (todo_eq : w.todo = config :: todo)
      (kind : config.backendType = .http) :
      StepCase settings w ({ w with todo }.register config.name tools
        (.http (.new config settings.authSecret)))
  | launched (config : BackendConfig) (todo : List BackendConfig) (stage : w.stage = .discovering)
      (todo_eq : w.todo = config :: todo) (kind : config.backendType = .stdio) :
      StepCase settings w
        { w with
          todo
          stage := .waiting config.name
          supervisors := w.supervisors.insert config.name (.new config) }
  | received (name : String) (supervisor : Supervisor) (tools : List Tool) (backend : StdioBackend)
      (stage : w.stage = .waiting name) (lookup : w.supervisors.lookup name = some supervisor)
      (buffer : supervisor.buffer = some (tools, backend)) :
      StepCase settings w
        { w.register name tools (.stdio backend) with
          stage := .leaving name
          supervisors := w.supervisors.insert name { supervisor with buffer := none } }
  | gaveUp (name : String) (stage : w.stage = .waiting name) :
      StepCase settings w { w with stage := .leaving name }
  | left (name : String) (supervisor : Supervisor) (stage : w.stage = .leaving name)
      (lookup : w.supervisors.lookup name = some supervisor) :
      StepCase settings w
        { w with
          stage := .discovering
          supervisors := w.supervisors.insert name
            { supervisor with receiverOpen := false, buffer := none } }
  | served (st : DispatchState) (stage : w.stage = .discovering) (todo_eq : w.todo = [])
      (start : st = Gateway.start ⟨settings.killSwitch, .new settings.rateLimits⟩ .new
        w.circuitBreakers) :
      StepCase settings w
        { w with
          catalog := if w.discoverySucceeded then w.catalog else .stub
          stage := .serving st }
  | dispatched (st st' : DispatchState) (event : Event) (stage : w.stage = .serving st)
      (stepped : st' = ((w.gateway settings).step st event).1) :
      StepCase settings w { w with stage := .serving st' }
  | supervised (name : String) (before after : Supervisor)
      (lookup : w.supervisors.lookup name = some before) (case : Supervisor.StepCase before after) :
      StepCase settings w { w with supervisors := w.supervisors.insert name after }
  | cancelled : StepCase settings w { w with cancelled := true }

/-- **Inversion.** Every step of the gateway process is one of the listed ones. -/
theorem step_cases {settings : Settings} {w w' : World} {label : WorldLabel}
    (h : w.step settings label = some w') : StepCase settings w w' := by
  cases label with
  | discoverHttp tools =>
    simp only [step] at h
    split at h
    · rename_i config todo hstage htodo
      split_ifs at h with hkind
      cases tools with
      | none =>
        obtain rfl := Option.some.inj h
        exact .skipped config todo hstage htodo
      | some tools =>
        obtain rfl := Option.some.inj h
        exact .discovered config todo tools hstage htodo hkind
    · cases h
  | launch =>
    simp only [step] at h
    split at h
    · rename_i config todo hstage htodo
      split_ifs at h with hkind
      obtain rfl := Option.some.inj h
      exact .launched config todo hstage htodo hkind
    · cases h
  | receive =>
    simp only [step] at h
    split at h
    · rename_i name hstage
      obtain ⟨supervisor, hlookup, hmap⟩ := Option.bind_eq_some_iff.mp h
      obtain ⟨⟨tools, backend⟩, hbuffer, rfl⟩ := Option.map_eq_some_iff.mp hmap
      exact .received name supervisor tools backend hstage hlookup hbuffer
    · cases h
  | hangUp =>
    simp only [step] at h
    split at h
    · rename_i name hstage
      obtain ⟨supervisor, -, hguard⟩ := Option.bind_eq_some_iff.mp h
      split at hguard
      · obtain rfl := Option.some.inj hguard
        exact .gaveUp name hstage
      · cases hguard
    · cases h
  | giveUp =>
    simp only [step] at h
    split at h
    · rename_i name hstage
      obtain ⟨supervisor, -, hguard⟩ := Option.bind_eq_some_iff.mp h
      split_ifs at hguard
      obtain rfl := Option.some.inj hguard
      exact .gaveUp name hstage
    · cases h
  | leave =>
    simp only [step] at h
    split at h
    · rename_i name hstage
      obtain ⟨supervisor, hlookup, rfl⟩ := Option.map_eq_some_iff.mp h
      exact .left name supervisor hstage hlookup
    · cases h
  | serve =>
    simp only [step] at h
    split at h
    · rename_i hstage htodo
      obtain rfl := Option.some.inj h
      exact .served _ hstage htodo rfl
    · cases h
  | dispatch event =>
    simp only [step] at h
    split at h
    · rename_i st hstage
      obtain rfl := Option.some.inj h
      exact .dispatched st _ event hstage rfl
    · cases h
  | supervise name action =>
    obtain ⟨supervisor, hlookup, hmap⟩ := Option.bind_eq_some_iff.mp h
    obtain ⟨after, hafter, rfl⟩ := Option.map_eq_some_iff.mp hmap
    exact .supervised name supervisor after hlookup (Supervisor.step_cases hafter)
  | cancel =>
    obtain rfl := Option.some.inj h
    exact .cancelled

/-- Backends still to be discovered are unknown, a registered stdio backend is the
first child of its supervisor to complete the handshake, and while `main` waits
for a supervisor, the message it will get is that of this child. -/
structure Wired (w : World) : Prop where
  todo_nodup : (w.todo.map BackendConfig.name).Nodup
  todo_fresh : ∀ config ∈ w.todo, config.name ∉ w.supervisors ∧ config.name ∉ w.backends
  ordered : ∀ name supervisor, w.supervisors.lookup name = some supervisor → supervisor.Ordered
  registered : ∀ name supervisor backend, w.supervisors.lookup name = some supervisor →
    w.backends.lookup name = some backend →
      ∃ child, supervisor.discovered.head? = some child ∧
        backend = .stdio (supervisor.handle child)
  waiting : ∀ name, w.stage = .waiting name → ∃ supervisor,
    w.supervisors.lookup name = some supervisor ∧ supervisor.FirstOffered

variable {w : World}

/-- The HTTP and the stdio entries of an accepted configuration have distinct names. -/
theorem wired_init {configs : List BackendConfig} (h : validateBackends configs = .ok ()) :
    (init configs).Wired where
  todo_nodup := by
    have hperm : (configs.filter (·.backendType = .http) ++
        configs.filter (·.backendType = .stdio)).Perm configs := by
      have hstdio : configs.filter (·.backendType = .stdio) =
          configs.filter (fun config => !decide (config.backendType = .http)) := by
        congr 1
        funext config
        cases config.backendType <;> rfl
      rw [hstdio]
      exact List.filter_append_perm _ _
    exact (hperm.map _).nodup_iff.mpr (nodup_of_validateBackends h)
  todo_fresh := by simp [init]
  ordered := by simp [init]
  registered := by simp [init]
  waiting := by simp [init]

theorem mem_supervisors {name : String} {supervisor : Supervisor}
    (h : w.supervisors.lookup name = some supervisor) : name ∈ w.supervisors := by
  rw [← AList.lookup_isSome, h]
  rfl

/-- Another stage, unless it is one in which `main` waits. -/
theorem Wired.of_stage (h : w.Wired) (stage : Stage) (hstage : ∀ name, stage ≠ .waiting name) :
    Wired { w with stage } :=
  ⟨h.todo_nodup, h.todo_fresh, h.ordered, h.registered,
    fun name heq => absurd heq (hstage name)⟩

/-- A supervisor that moved on without changing who was first. -/
theorem Wired.replace (h : w.Wired) {name : String} {before after : Supervisor}
    (hbefore : w.supervisors.lookup name = some before) (hordered : after.Ordered)
    (hconfig : after.config = before.config)
    (hhead : ∀ child, before.discovered.head? = some child → after.discovered.head? = some child)
    (hfirst : w.stage = .waiting name → before.FirstOffered → after.FirstOffered) :
    Wired { w with supervisors := w.supervisors.insert name after } where
  todo_nodup := h.todo_nodup
  todo_fresh config hconfig := by
    obtain ⟨hsupervisors, hbackends⟩ := h.todo_fresh config hconfig
    refine ⟨?_, hbackends⟩
    rw [AList.mem_insert, not_or]
    refine ⟨?_, hsupervisors⟩
    intro heq
    exact hsupervisors (heq ▸ mem_supervisors hbefore)
  ordered other supervisor hlookup := by
    by_cases heq : other = name
    · subst heq
      obtain rfl : after = supervisor := by simpa using hlookup
      exact hordered
    · rw [AList.lookup_insert_ne heq] at hlookup
      exact h.ordered other supervisor hlookup
  registered other supervisor backend hlookup hbackend := by
    by_cases heq : other = name
    · subst heq
      obtain rfl : after = supervisor := by simpa using hlookup
      obtain ⟨child, hchild, rfl⟩ := h.registered other before backend hbefore hbackend
      exact ⟨child, hhead child hchild, by simp [Supervisor.handle, hconfig]⟩
    · rw [AList.lookup_insert_ne heq] at hlookup
      exact h.registered other supervisor backend hlookup hbackend
  waiting other hstage := by
    obtain ⟨supervisor, hlookup, hsupervisor⟩ := h.waiting other hstage
    by_cases heq : other = name
    · subst heq
      obtain rfl : before = supervisor := by simpa [hbefore] using hlookup
      exact ⟨after, AList.lookup_insert _, hfirst hstage hsupervisor⟩
    · exact ⟨supervisor, by rw [AList.lookup_insert_ne heq]; exact hlookup, hsupervisor⟩

/-- Changing the channel of a supervisor that `main` does not wait for. -/
theorem Wired.replaceChannel (h : w.Wired) {name : String} {supervisor : Supervisor}
    (hlookup : w.supervisors.lookup name = some supervisor) (hstage : w.stage ≠ .waiting name)
    {receiverOpen : Bool} {buffer : Option (List Tool × StdioBackend)} :
    Wired { w with
      supervisors := w.supervisors.insert name { supervisor with receiverOpen, buffer } } := by
  have hordered := h.ordered name supervisor hlookup
  refine h.replace hlookup ?_ rfl (fun _ => id) fun hwaiting => absurd hwaiting hstage
  exact ⟨hordered.sorted, hordered.lt_spawned, hordered.handshaking⟩

/-- Registering a backend under a name that is not to be discovered any more, in
agreement with its supervisor if it has one. -/
theorem Wired.register (h : w.Wired) {name : String} {tools : List Tool} {backend : Backend}
    (htodo : ∀ config ∈ w.todo, config.name ≠ name)
    (hbackend : ∀ supervisor, w.supervisors.lookup name = some supervisor →
      ∃ child, supervisor.discovered.head? = some child ∧
        backend = .stdio (supervisor.handle child)) : (w.register name tools backend).Wired where
  todo_nodup := h.todo_nodup
  todo_fresh config hconfig := by
    obtain ⟨hsupervisors, hbackends⟩ := h.todo_fresh config hconfig
    refine ⟨hsupervisors, ?_⟩
    change config.name ∉ w.backends.insert name backend
    rw [AList.mem_insert, not_or]
    exact ⟨htodo config hconfig, hbackends⟩
  ordered := h.ordered
  registered other supervisor known hlookup hknown := by
    change (w.backends.insert name backend).lookup other = some known at hknown
    by_cases heq : other = name
    · subst heq
      obtain rfl : backend = known := by simpa using hknown
      exact hbackend supervisor hlookup
    · rw [AList.lookup_insert_ne heq] at hknown
      exact h.registered other supervisor known hlookup hknown
  waiting := h.waiting

/-- Turning to the next backend of the list. -/
theorem Wired.next (h : w.Wired) {config : BackendConfig} {todo : List BackendConfig}
    (htodo : w.todo = config :: todo) :
    Wired { w with todo } ∧ (∀ other ∈ todo, other.name ≠ config.name) ∧
      config.name ∉ w.supervisors ∧ config.name ∉ w.backends := by
  have hnodup := h.todo_nodup
  rw [htodo, List.map_cons, List.nodup_cons] at hnodup
  refine ⟨⟨hnodup.2, ?_, h.ordered, h.registered, h.waiting⟩, ?_,
    h.todo_fresh config (by simp [htodo])⟩
  · exact fun other hother => h.todo_fresh other (by simp [htodo, hother])
  · exact fun other hother heq => hnodup.1 (heq ▸ List.mem_map_of_mem hother)

/-- Starting the supervisor of a backend that is not known yet. -/
theorem Wired.launch (h : w.Wired) {config : BackendConfig}
    (htodo : ∀ other ∈ w.todo, other.name ≠ config.name) (hbackends : config.name ∉ w.backends) :
    Wired { w with
      stage := .waiting config.name
      supervisors := w.supervisors.insert config.name (.new config) } where
  todo_nodup := h.todo_nodup
  todo_fresh other hother := by
    obtain ⟨hsupervisors, hunknown⟩ := h.todo_fresh other hother
    refine ⟨?_, hunknown⟩
    rw [AList.mem_insert, not_or]
    exact ⟨htodo other hother, hsupervisors⟩
  ordered name supervisor hlookup := by
    by_cases heq : name = config.name
    · subst heq
      obtain rfl : Supervisor.new config = supervisor := by simpa using hlookup
      exact Supervisor.ordered_new config
    · rw [AList.lookup_insert_ne heq] at hlookup
      exact h.ordered name supervisor hlookup
  registered name supervisor backend hlookup hbackend := by
    by_cases heq : name = config.name
    · subst heq
      simp [AList.lookup_eq_none.mpr hbackends] at hbackend
    · rw [AList.lookup_insert_ne heq] at hlookup
      exact h.registered name supervisor backend hlookup hbackend
  waiting name hstage := by
    obtain rfl : config.name = name := by simpa using hstage
    exact ⟨.new config, AList.lookup_insert _, Supervisor.firstOffered_new config⟩

/-- Registering the child whose message is in the channel. -/
theorem Wired.receive (h : w.Wired) {name : String} (hstage : w.stage = .waiting name)
    {supervisor : Supervisor} (hlookup : w.supervisors.lookup name = some supervisor)
    {tools : List Tool} {backend : StdioBackend}
    (hbuffer : supervisor.buffer = some (tools, backend)) :
    Wired { w.register name tools (.stdio backend) with
      stage := .leaving name
      supervisors := w.supervisors.insert name { supervisor with buffer := none } } := by
  obtain ⟨listened, hlistened, hfirst⟩ := h.waiting name hstage
  obtain rfl : listened = supervisor := by simpa [hlookup] using hlistened.symm
  have hregistered : (w.register name tools (.stdio backend)).Wired := by
    refine h.register ?_ ?_
    · intro config hconfig heq
      exact (h.todo_fresh config hconfig).1 (heq ▸ mem_supervisors hlookup)
    · intro other hother
      obtain rfl : listened = other := by simpa [hlookup] using hother
      obtain ⟨child, hchild, rfl⟩ := hfirst.buffered tools backend hbuffer
      exact ⟨child, hchild, rfl⟩
  exact (hregistered.of_stage (.leaving name) (by simp)).replaceChannel hlookup (by simp)

/-- Every step of the gateway process keeps it wired. -/
theorem Wired.step {settings : Settings} (h : w.Wired) {w' : World}
    (hcase : StepCase settings w w') : w'.Wired := by
  cases hcase with
  | skipped config todo _ htodo =>
    obtain ⟨hnext, -⟩ := h.next htodo
    exact hnext
  | discovered config todo tools _ htodo =>
    obtain ⟨hnext, hothers, hsupervisors, -⟩ := h.next htodo
    refine hnext.register hothers ?_
    intro supervisor hlookup
    exact absurd (mem_supervisors hlookup) hsupervisors
  | launched config todo _ htodo =>
    obtain ⟨hnext, hothers, -, hbackends⟩ := h.next htodo
    exact hnext.launch hothers hbackends
  | received name supervisor tools backend hstage hlookup hbuffer =>
    exact h.receive hstage hlookup hbuffer
  | gaveUp | dispatched => exact h.of_stage _ (by simp)
  | left name supervisor _ hlookup =>
    exact (h.of_stage .discovering (by simp)).replaceChannel hlookup (by simp)
  | served => exact ⟨h.todo_nodup, h.todo_fresh, h.ordered, h.registered, by simp⟩
  | supervised name before after hlookup hcase =>
    exact h.replace hlookup ((h.ordered name before hlookup).step hcase)
      (Supervisor.config_step hcase) (fun _ => Supervisor.head?_discovered_step hcase)
      (fun _ hfirst => hfirst.step hcase)
  | cancelled => exact ⟨h.todo_nodup, h.todo_fresh, h.ordered, h.registered, h.waiting⟩

/-- Every run of the gateway process on an accepted configuration keeps it wired. -/
theorem wired_of_exec {settings : Settings} {configs : List BackendConfig}
    (hvalid : validateBackends configs = .ok ()) {labels : List WorldLabel}
    (hrun : Runs.exec (step settings) (init configs) labels = some w) : w.Wired :=
  Runs.exec_induction (step settings) (motive := fun _ w => w.Wired) (wired_init hvalid)
    (fun _ _ _ _ _ hwired hstep => hwired.step (step_cases hstep)) hrun

/-- **Restart wiring.** In every run of the gateway process, a call that passes the
gates and routes to a stdio backend is sent to the child last spawned, once that
child has completed its handshake, exactly if the backend was registered and no
other child of it ever completed a handshake. -/
theorem sent_to_latest_child_iff (settings : Settings) {configs : List BackendConfig}
    (hvalid : validateBackends configs = .ok ()) {labels : List WorldLabel}
    (hrun : Runs.exec (step settings) (init configs) labels = some w)
    {st : DispatchState} (_hserving : w.stage = .serving st)
    {backendName : String} {supervisor : Supervisor}
    (hsupervisor : w.supervisors.lookup backendName = some supervisor)
    {child : ℕ} (hlatest : supervisor.spawned = child + 1)
    (hdiscovered : child ∈ supervisor.discovered)
    {line : InboundLine} {id : JsonRpcId} {name : String} {params : Option Json}
    (hcall : (w.gateway settings).IsCall st line id name params)
    (hpolicy : (w.gateway settings).PassesPolicy st line name params)
    (hcircuit : (w.gateway settings).CircuitAdmits st line name)
    (hroute : w.catalog.route name = some backendName) :
    (∃ body, sends ((w.gateway settings).step st (.line line)).2 =
        [(backendName, .stdio (supervisor.handle child), body)]) ↔
      backendName ∈ w.backends ∧ ∀ other ∈ supervisor.discovered, other = child := by
  have hwired := wired_of_exec hvalid hrun
  have hsends := Gateway.sends_of_admitted hcall hpolicy hcircuit hroute
  have hordered := hwired.ordered backendName supervisor hsupervisor
  have hfirst := hordered.head?_eq_iff hlatest hdiscovered
  rw [hsends, ← hfirst]
  change (∃ body, (w.backends.lookup backendName).toList.map _ = _) ↔ _
  cases hlookup : w.backends.lookup backendName with
  | none =>
    have hunknown : backendName ∉ w.backends := AList.lookup_eq_none.mp hlookup
    simp [hunknown]
  | some backend =>
    have hknown : backendName ∈ w.backends := by
      rw [← AList.lookup_isSome, hlookup]
      rfl
    obtain ⟨first, hhead, rfl⟩ :=
      hwired.registered backendName supervisor backend hsupervisor hlookup
    simp [hknown, hhead, Supervisor.handle]

/-- One stdio backend, which may be restarted. -/
def oneStdio : List BackendConfig :=
  [{ name := "db", backendType := .stdio, url := none, command := some "db-server",
     restartOnExit := true }]

/-- Settings under which everything is allowed. -/
def openSettings : Settings where
  serde := .ofValues (handshakeMessages ++ [queryMessage, resultJson 1])
  decodeInitialize := fun _ => .ok ()
  compile := fun _ => .ok fun _ => []
  authSecret := none
  caller := none
  rbacConfig := { roles := AList.singleton "admin" { permissions := ["*"] } }
  audit := false
  killSwitch := {}
  rateLimits := {}

/-- A child of the backend is spawned, and completes its handshake or fails. -/
def spawnChild (tools : Option (List Tool)) : List WorldLabel :=
  [.supervise "db" .checkCancel, .supervise "db" (.spawn true),
    .supervise "db" (.handshake tools)]

/-- The child is registered, and a client gets through its own handshake. -/
def registerAndServe : List WorldLabel :=
  [.supervise "db" .offer, .receive, .leave, .serve] ++ handshake.map .dispatch

/-- The output of the child ends, and its supervisor gets ready for another one. -/
def endOfChild : List WorldLabel :=
  [.supervise "db" (.childExit 0), .supervise "db" (.noticeExit 10), .supervise "db" .endBackoff]

/-- The first child fails its handshake, and the second one is registered. -/
def secondChildFirst : List WorldLabel :=
  .launch :: spawnChild none ++ .supervise "db" .endBackoff ::
    spawnChild (some [⟨"query", none, [], []⟩]) ++ registerAndServe

/-- The first child is registered, ends, and is replaced by a second one. -/
def restartAfterRegistration : List WorldLabel :=
  .launch :: spawnChild (some [⟨"query", none, [], []⟩]) ++ registerAndServe ++ endOfChild ++
    spawnChild (some [⟨"query", none, [], []⟩])

/-- What a run shows: how many children were spawned, which of them completed the
handshake, which have ended, and to whom a call would be sent. -/
def callTargets (labels : List WorldLabel) : Option (ℕ × List ℕ × List ℕ × List Backend) :=
  (Runs.exec (step openSettings) (init oneStdio) labels).bind fun w =>
    match w.stage with
    | .serving st => (w.supervisors.lookup "db").map fun supervisor =>
      (supervisor.spawned, supervisor.discovered, supervisor.exited,
        (sends ((w.gateway openSettings).step st (.line (.message queryMessage))).2).map
          fun send => send.2.1)
    | _ => none

/-- A restarted child that is the first to complete its handshake gets the calls. -/
theorem sent_to_latest_child_second :
    ∃ w st supervisor, Runs.exec (step openSettings) (init oneStdio) secondChildFirst = some w ∧
      w.stage = .serving st ∧ w.supervisors.lookup "db" = some supervisor ∧
      supervisor.spawned = 2 ∧
      ∃ body, sends ((w.gateway openSettings).step st
          (.line (.answered queryMessage (resultJson 1)))).2 =
        [("db", .stdio (supervisor.handle 1), body)] := by
  have hready : (Runs.exec (step openSettings) (init oneStdio) secondChildFirst).any (fun w =>
      match w.stage with
      | .serving st =>
        decide (st.state = .operational ∧ st.hotConfig.killSwitch.disabledTools = [] ∧
          st.hotConfig.killSwitch.disabledBackends = [] ∧
          (st.hotConfig.rateLimiter.check "admin" "query" 0).2 = .ok () ∧
          w.catalog.route "query" = some "db" ∧ "db" ∈ w.backends ∧
          (st.circuitBreakers.lookup "db").map (fun cb => (cb.allowRequest 0).2) = some true ∧
          (w.supervisors.lookup "db").map (fun supervisor =>
            (supervisor.spawned, supervisor.discovered)) = some (2, [1]))
      | _ => false) = true := by decide +kernel
  obtain ⟨w, hrun, hready⟩ := (Option.any_eq_true _ _).mp hready
  cases hstage : w.stage with
  | discovering | waiting | leaving => simp [hstage] at hready
  | serving st =>
    simp only [hstage, decide_eq_true_eq] at hready
    obtain ⟨hoperational, htools, hbackends, hrate, hroute, hknown, hcircuit, hchildren⟩ := hready
    obtain ⟨supervisor, hsupervisor, hpair⟩ := Option.map_eq_some_iff.mp hchildren
    obtain ⟨hspawned, hdiscovered⟩ : supervisor.spawned = 2 ∧ supervisor.discovered = [1] := by
      simpa using hpair
    have hcall : (w.gateway openSettings).IsCall st
        (.answered queryMessage (resultJson 1)) (.number 7) "query"
        (some (.object [("name", .string "query")])) := ⟨⟨"2.0", rfl⟩, hoperational, rfl⟩
    have hpolicy : (w.gateway openSettings).PassesPolicy st
        (.answered queryMessage (resultJson 1)) "query"
        (some (.object [("name", .string "query")])) :=
      { tool_enabled := by simp [htools]
        backend_enabled := by simp [hbackends]
        rate_ok := hrate
        role_ok := rfl
        arguments_ok := by simp [Json.get, Json.lastMember] }
    have hadmits : (w.gateway openSettings).CircuitAdmits st
        (.answered queryMessage (resultJson 1)) "query" := by
      intro backendName cb hname hbreaker
      obtain rfl : "db" = backendName := Option.some.inj (hroute.symm.trans hname)
      simpa [hbreaker, InboundLine.answered, InboundLine.message, InboundLine.plain] using hcircuit
    exact ⟨w, st, supervisor, hrun, hstage, hsupervisor, hspawned,
      (sent_to_latest_child_iff openSettings (by decide) hrun hstage hsupervisor hspawned
        (by simp [hdiscovered]) hcall hpolicy hadmits hroute).mpr
        ⟨hknown, by simp [hdiscovered]⟩⟩

/-- After a restart, a call goes to the handle of the child that has ended, and not
to the one that has completed its handshake since. -/
theorem call_sent_to_dead_child :
    validateBackends oneStdio = .ok () ∧
      callTargets restartAfterRegistration =
        some (2, [0, 1], [0], [.stdio ⟨"db", 0, 60⟩]) := by
  refine ⟨by decide, by decide +kernel⟩

end World

end SentinelGateway
