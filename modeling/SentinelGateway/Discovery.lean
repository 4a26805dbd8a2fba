import SentinelGateway.Startup

/-!
# Policies and failed discoveries

Deny lists and kill switches name tools by their catalog names, and the catalog
name of a tool depends on what was registered before it. A backend whose discovery
fails at startup is not registered, so that the names of the others may change
under a policy that stays the same.
-/

namespace SentinelGateway

/-- A configured backend at startup: the tools it advertises, and whether they are
discovered. -/
structure Discovery where
  backendName : String
  tools : List Tool
  succeeded : Bool

/-- One advertised tool with its backend. -/
structure Offer where
  entry : String × Tool
  succeeded : Bool

namespace Discovery

/-- The advertised tools in the order of registration. -/
def offers (backends : List Discovery) : List Offer :=
  backends.flatMap fun backend =>
    backend.tools.map fun tool => ⟨(backend.backendName, tool), backend.succeeded⟩

/-- The registrations if every discovery succeeds, and those that take place. -/
def all (offers : List Offer) : List (String × Tool) := offers.map Offer.entry
def working (offers : List Offer) : List (String × Tool) := all (offers.filter Offer.succeeded)

/-- What is passed to `register_backend`. -/
def registration (backend : Discovery) : String × List Tool :=
  (backend.backendName, backend.tools)

/-- The catalog if every discovery succeeds, and the one without the failed backends. -/
def fullCatalog (backends : List Discovery) : ToolCatalog :=
  ToolCatalog.new.registerAll (backends.map registration)
def workingCatalog (backends : List Discovery) : ToolCatalog :=
  ToolCatalog.new.registerAll ((backends.filter Discovery.succeeded).map registration)

theorem advertised_all (backends : List Discovery) :
    ToolCatalog.advertised (backends.map registration) = all (offers backends) := by
  simp [ToolCatalog.advertised, all, offers, List.flatMap_map, List.map_flatMap, registration,
    Function.comp_def]

/-- Leaving out backends is leaving out what they offer. -/
theorem offers_filter (backends : List Discovery) :
    offers (backends.filter Discovery.succeeded) = (offers backends).filter Offer.succeeded := by
  induction backends with
  | nil => rfl
  | cons backend backends ih =>
    have hsplit (rest : List Discovery) : offers (backend :: rest) = backend.tools.map (fun tool =>
        ⟨(backend.backendName, tool), backend.succeeded⟩) ++ offers rest := rfl
    rw [hsplit, List.filter_append, ← ih]
    cases hsucceeded : backend.succeeded with
    | true =>
      rw [List.filter_cons_of_pos hsucceeded, hsplit, hsucceeded]
      simp [List.filter_map, Function.comp_def]
    | false =>
      rw [List.filter_cons_of_neg (by simp [hsucceeded])]
      simp [List.filter_map, Function.comp_def]

theorem fullCatalog_eq (backends : List Discovery) :
    fullCatalog backends = Runs.after ToolCatalog.registerStep .new (all (offers backends)) := by
  rw [fullCatalog, ToolCatalog.registerAll_eq_after, advertised_all]

theorem workingCatalog_eq (backends : List Discovery) :
    workingCatalog backends =
      Runs.after ToolCatalog.registerStep .new (working (offers backends)) := by
  rw [workingCatalog, ToolCatalog.registerAll_eq_after, advertised_all, offers_filter, working]

/-- One more backend is registered behind the others if its tools were discovered. -/
theorem workingCatalog_concat (backends : List Discovery) (backend : Discovery) :
    workingCatalog (backends ++ [backend]) =
      if backend.succeeded then
        (workingCatalog backends).registerBackend backend.backendName backend.tools
      else workingCatalog backends := by
  unfold workingCatalog
  cases hsucceeded : backend.succeeded with
  | true => simp [ToolCatalog.registerAll, hsucceeded, registration]
  | false => simp [ToolCatalog.registerAll, hsucceeded]

end Discovery

/-- The backend whose tools `main` waits for. -/
def Stage.awaited : Stage → List String
  | .waiting name => [name]
  | .discovering | .leaving _ | .serving _ => []

namespace World

/-- What `main` has found out so far, where `advertised` is what it did not: one entry
for every backend it is done with, in order, and a catalog of those it discovered. -/
structure Discovers (configs : List BackendConfig) (advertised : String → List Tool) (w : World)
    (backends : List Discovery) : Prop where
  order : backends.map Discovery.backendName ++
    (w.stage.awaited ++ w.todo.map BackendConfig.name) =
      (init configs).todo.map BackendConfig.name
  failed : ∀ backend ∈ backends, backend.succeeded = false →
    backend.tools = advertised backend.backendName
  catalog : (∀ st, w.stage ≠ .serving st) → w.catalog = Discovery.workingCatalog backends
  serving : ∀ st, w.stage = .serving st → w.todo = [] ∧
    (w.discoverySucceeded = true → w.catalog = Discovery.workingCatalog backends)

variable {configs : List BackendConfig} {advertised : String → List Tool} {w w' : World}
  {backends : List Discovery}

/-- `main` is done with one more backend. -/
theorem Discovers.concat (h : Discovers configs advertised w backends) (backend : Discovery)
    (hfailed : backend.succeeded = false → backend.tools = advertised backend.backendName)
    (hbefore : ∀ st, w.stage ≠ .serving st) (hafter : ∀ st, w'.stage ≠ .serving st)
    (horder : w.stage.awaited ++ w.todo.map BackendConfig.name =
      backend.backendName :: (w'.stage.awaited ++ w'.todo.map BackendConfig.name))
    (hcatalog : w'.catalog = if backend.succeeded then
        w.catalog.registerBackend backend.backendName backend.tools else w.catalog) :
    Discovers configs advertised w' (backends ++ [backend]) := by
  refine ⟨?_, ?_, ?_, ?_⟩
  · rw [← h.order, horder]
    simp
  · intro other hother
    rcases List.mem_append.mp hother with hold | hnew
    · exact h.failed other hold
    · rw [List.mem_singleton.mp hnew]
      exact hfailed
  · intro _
    rw [hcatalog, Discovery.workingCatalog_concat, h.catalog hbefore]
  · intro st hserving
    exact absurd hserving (hafter st)

/-- A step after which `main` is done with the same backends. -/
theorem Discovers.of_same (h : Discovers configs advertised w backends)
    (hbefore : ∀ st, w.stage ≠ .serving st) (hafter : ∀ st, w'.stage ≠ .serving st)
    (horder : w'.stage.awaited ++ w'.todo.map BackendConfig.name =
      w.stage.awaited ++ w.todo.map BackendConfig.name)
    (hcatalog : w'.catalog = w.catalog) : Discovers configs advertised w' backends := by
  refine ⟨?_, h.failed, ?_, ?_⟩
  · rw [horder]
    exact h.order
  · intro _
    rw [hcatalog, h.catalog hbefore]
  · intro st hserving
    exact absurd hserving (hafter st)

theorem Discovers.step {settings : Settings} (h : Discovers configs advertised w backends)
    (hcase : StepCase settings w w') : ∃ backends, Discovers configs advertised w' backends := by
  cases hcase with
  | skipped config todo hstage htodo =>
    refine ⟨_, h.concat ⟨config.name, advertised config.name, false⟩ (fun _ => rfl) ?_ ?_ ?_ ?_⟩
    · simp [hstage]
    · simp [hstage]
    · simp [hstage, htodo, Stage.awaited]
    · rfl
  | discovered config todo tools hstage htodo =>
    refine ⟨_, h.concat ⟨config.name, tools, true⟩ (by simp) ?_ ?_ ?_ ?_⟩
    · simp [hstage]
    · simp [hstage, register]
    · simp [hstage, htodo, Stage.awaited, register]
    · rfl
  | launched config todo hstage htodo =>
    exact ⟨_, h.of_same (by simp [hstage]) (by simp) (by simp [hstage, htodo, Stage.awaited]) rfl⟩
  | received name supervisor tools backend hstage =>
    refine ⟨_, h.concat ⟨name, tools, true⟩ (by simp) ?_ (by simp) ?_ ?_⟩
    · simp [hstage]
    · simp [hstage, Stage.awaited, register]
    · rfl
  | gaveUp name hstage =>
    refine ⟨_, h.concat ⟨name, advertised name, false⟩ (fun _ => rfl) ?_ (by simp) ?_ ?_⟩
    · simp [hstage]
    · simp [hstage, Stage.awaited]
    · rfl
  | left name supervisor hstage =>
    exact ⟨_, h.of_same (by simp [hstage]) (by simp) (by simp [hstage, Stage.awaited]) rfl⟩
  | served st hstage htodo =>
    refine ⟨_, ?_, h.failed, ?_, ?_⟩
    · rw [← h.order, hstage]
      rfl
    · intro hnot
      exact absurd rfl (hnot st)
    · intro _ _
      refine ⟨htodo, ?_⟩
      intro hsucceeded
      have hfound : w.discoverySucceeded = true := hsucceeded
      change (if w.discoverySucceeded then w.catalog else .stub) = _
      rw [if_pos hfound]
      exact h.catalog (by simp [hstage])
  | dispatched st st' event hstage =>
    refine ⟨_, ?_, h.failed, ?_, ?_⟩
    · rw [← h.order, hstage]
      rfl
    · intro hnot
      exact absurd rfl (hnot st')
    · intro _ _
      exact h.serving st hstage
  | supervised | cancelled => exact ⟨_, h.order, h.failed, h.catalog, h.serving⟩

/-- **The catalog of a run.** Whatever the failed backends would have advertised, a
client that finds a discovered backend is served with the catalog of the working ones. -/
theorem catalog_of_serving {settings : Settings} {labels : List WorldLabel}
    (advertised : String → List Tool)
    (hrun : Runs.exec (step settings) (init configs) labels = some w) {st : DispatchState}
    (hserving : w.stage = .serving st) (hsucceeded : w.discoverySucceeded = true) :
    ∃ backends : List Discovery,
      backends.map Discovery.backendName = (init configs).todo.map BackendConfig.name ∧
      (∀ backend ∈ backends, backend.succeeded = false →
        backend.tools = advertised backend.backendName) ∧
      w.catalog = Discovery.workingCatalog backends := by
  have hdiscovers : ∃ backends, Discovers configs advertised w backends := by
    refine Runs.exec_induction (step settings) (motive := fun _ w =>
      ∃ backends, Discovers configs advertised w backends) ?_ ?_ hrun
    · exact ⟨[], rfl, by simp, fun _ => rfl, by simp [init]⟩
    · rintro _ _ _ _ _ ⟨backends, hdiscovers⟩ hstep
      exact hdiscovers.step (step_cases hstep)
  obtain ⟨backends, hdiscovers⟩ := hdiscovers
  obtain ⟨htodo, hcatalog⟩ := hdiscovers.serving st hserving
  refine ⟨backends, ?_, hdiscovers.failed, hcatalog hsucceeded⟩
  have horder := hdiscovers.order
  rw [hserving, htodo] at horder
  simpa [Stage.awaited] using horder

end World

namespace ToolCatalog

/-- The name an entry is stored under, if others are registered before it. -/
def nameAfter (before : List (String × Tool)) (entry : String × Tool) : String :=
  (Runs.after registerStep new before).catalogName entry.1 entry.2

/-- A later registration takes the name over. -/
def TakenOver (before : List (String × Tool)) (entry : String × Tool)
    (after : List (String × Tool)) : Prop :=
  nameAfter before entry ∈
    Runs.outputs registerStep (Runs.after registerStep new (before ++ [entry])) after

/-- A name that no registration uses keeps its entry. -/
theorem lookup_after_of_notMem {catalog : ToolCatalog} {entries : List (String × Tool)}
    {name : String} (h : name ∉ Runs.outputs registerStep catalog entries) :
    (Runs.after registerStep catalog entries).tools.lookup name = catalog.tools.lookup name := by
  induction entries generalizing catalog with
  | nil => rfl
  | cons entry entries ih =>
    simp only [Runs.outputs_cons, List.mem_cons, not_or] at h
    obtain ⟨hne, hrest⟩ := h
    rw [Runs.after_cons, ih hrest]
    change (catalog.registerTool entry.1 entry.2).tools.lookup name = _
    rw [registerTool_eq]
    exact AList.lookup_insert_ne hne

/-- A name that is not taken over routes to the backend of its tool. -/
theorem route_nameAfter {before : List (String × Tool)} {entry : String × Tool}
    {after : List (String × Tool)} (h : ¬TakenOver before entry after) :
    (Runs.after registerStep new (before ++ entry :: after)).route (nameAfter before entry) =
      some entry.1 := by
  have hsplit : before ++ entry :: after = before ++ [entry] ++ after := by simp
  rw [route, hsplit, Runs.after_append, lookup_after_of_notMem h, Runs.after_concat]
  change (((Runs.after registerStep new before).registerTool entry.1 entry.2).tools.lookup
    (nameAfter before entry)).map Prod.snd = _
  rw [registerTool_eq, nameAfter, AList.lookup_insert]
  rfl

/-- The name is in use once the entries are registered. -/
def Taken (entries : List (String × Tool)) (name : String) : Prop :=
  name ∈ (Runs.after registerStep new entries).tools

theorem nameAfter_of_taken {before : List (String × Tool)} {entry : String × Tool}
    (h : Taken before entry.2.name) :
    nameAfter before entry = prefixedName entry.1 entry.2.name := if_pos h

theorem nameAfter_of_not_taken {before : List (String × Tool)} {entry : String × Tool}
    (h : ¬Taken before entry.2.name) : nameAfter before entry = entry.2.name := if_neg h

/-- A tool's own name is in use once the tool is registered, by it or by another. -/
theorem own_mem_registerTool (catalog : ToolCatalog) (backendName : String) (tool : Tool) :
    tool.name ∈ (catalog.registerTool backendName tool).tools := by
  rw [mem_registerTool]
  by_cases h : tool.name ∈ catalog.tools
  · exact .inr h
  · exact .inl (if_neg h).symm

/-- The same registration keeps the names of one catalog among those of the other. -/
theorem subset_registerTool {small large : ToolCatalog}
    (h : ∀ name ∈ small.tools, name ∈ large.tools) (backendName : String) (tool : Tool) :
    ∀ name ∈ (small.registerTool backendName tool).tools,
      name ∈ (large.registerTool backendName tool).tools := by
  intro name hname
  rcases (mem_registerTool small backendName tool name).mp hname with rfl | hold
  · by_cases hown : tool.name ∈ small.tools
    · have hsame : small.catalogName backendName tool = large.catalogName backendName tool := by
        rw [catalogName, if_pos hown, catalogName, if_pos (h _ hown)]
      rw [hsame, mem_registerTool]
      exact .inl rfl
    · rw [catalogName, if_neg hown]
      exact own_mem_registerTool large backendName tool
  · exact (mem_registerTool large backendName tool name).mpr (.inr (h name hold))

end ToolCatalog

namespace Discovery

open ToolCatalog

/-- Registering without the failed backends keeps the names of one catalog among those
of the other. -/
theorem subset_after {small large : ToolCatalog} (h : ∀ name ∈ small.tools, name ∈ large.tools)
    (offers : List Offer) : ∀ name ∈ (Runs.after registerStep small (working offers)).tools,
      name ∈ (Runs.after registerStep large (all offers)).tools := by
  induction offers generalizing small large with
  | nil => exact h
  | cons offer offers ih =>
    cases hsucceeded : offer.succeeded with
    | true =>
      have hworking : working (offer :: offers) = offer.entry :: working offers := by
        simp [working, all, hsucceeded]
      rw [hworking]
      exact ih (subset_registerTool h offer.entry.1 offer.entry.2)
    | false =>
      have hworking : working (offer :: offers) = working offers := by
        simp [working, hsucceeded]
      rw [hworking]
      have hlarger : ∀ name ∈ small.tools,
          name ∈ (large.registerTool offer.entry.1 offer.entry.2).tools := by
        intro name hname
        exact (mem_registerTool large _ _ name).mpr (.inr (h name hname))
      exact ih hlarger

/-- Failed discoveries only set names free. -/
theorem taken_all_of_working {offers : List Offer} {name : String}
    (h : Taken (working offers) name) : Taken (all offers) name :=
  subset_after (fun _ hname => hname) offers name h

end Discovery

namespace Gateway

open ToolCatalog Discovery

/-- The policy lets a role's call under the name pass to the backend. -/
structure Admits (role : String) (rbac : RbacConfig) (killSwitch : KillSwitchConfig)
    (backendName name : String) : Prop where
  tool_enabled : name ∉ killSwitch.disabledTools
  backend_enabled : backendName ∉ killSwitch.disabledBackends
  role_ok : isToolAllowed role name .execute rbac = true

/-- A name reaches the tool at its place among the registrations: it was stored under
the name and nothing was later, and route and gates let a call pass. -/
structure Reaches (gw : Gateway) (killSwitch : KillSwitchConfig) (before : List (String × Tool))
    (entry : String × Tool) (after : List (String × Tool)) (name : String) : Prop where
  name_eq : name = nameAfter before entry
  kept : ¬TakenOver before entry after
  route : gw.catalog.route name = some entry.1
  killSwitch : gw.killSwitchGate killSwitch name = none
  rbac : gw.rbacGate name = none

/-- Some name reaches the tool of the backend, wherever it was registered. -/
def Reachable (gw : Gateway) (killSwitch : KillSwitchConfig) (entries : List (String × Tool))
    (entry : String × Tool) : Prop :=
  ∃ before after name, entries = before ++ entry :: after ∧
    Reaches gw killSwitch before entry after name

/-- Every tool that some name reaches without the failed backends is reached by some
name when all backends are registered. -/
def PolicyKept (gw : Gateway) (killSwitch : KillSwitchConfig) (backends : List Discovery) : Prop :=
  ∀ entry, Reachable { gw with catalog := workingCatalog backends } killSwitch
      (working (offers backends)) entry →
    Reachable { gw with catalog := fullCatalog backends } killSwitch (all (offers backends)) entry

/-- The same for each place in the advertised lists. -/
def PlacesKept (gw : Gateway) (killSwitch : KillSwitchConfig) (backends : List Discovery) : Prop :=
  ∀ before offer after, offers backends = before ++ offer :: after → offer.succeeded = true →
    (∃ name, Reaches { gw with catalog := workingCatalog backends } killSwitch
      (working before) offer.entry (working after) name) →
    ∃ name, Reaches { gw with catalog := fullCatalog backends } killSwitch
      (all before) offer.entry (all after) name

/-- The condition: a tool that keeps its name without the failed backends, and that
the policy admits under it, keeps its name with them too; and if a failed backend is
what makes its own name taken, the policy admits the prefixed name as well. -/
def NamesAgree (gw : Gateway) (killSwitch : KillSwitchConfig) (backends : List Discovery) : Prop :=
  ∀ before offer after, offers backends = before ++ offer :: after → offer.succeeded = true →
    ¬TakenOver (working before) offer.entry (working after) →
    Admits gw.identity.role gw.rbacConfig killSwitch offer.entry.1
      (nameAfter (working before) offer.entry) →
    ¬TakenOver (all before) offer.entry (all after) ∧
      (¬Taken (working before) offer.entry.2.name → Taken (all before) offer.entry.2.name →
        Admits gw.identity.role gw.rbacConfig killSwitch offer.entry.1
          (prefixedName offer.entry.1 offer.entry.2.name))

/-- A tool is reached exactly if its name is not taken over and the policy admits it. -/
theorem exists_reaches_iff {gw : Gateway} {killSwitch : KillSwitchConfig}
    {before after : List (String × Tool)} {entry : String × Tool}
    (hcatalog : gw.catalog = Runs.after registerStep new (before ++ entry :: after)) :
    (∃ name, Reaches gw killSwitch before entry after name) ↔
      ¬TakenOver before entry after ∧ Admits gw.identity.role gw.rbacConfig killSwitch entry.1
        (nameAfter before entry) := by
  constructor
  · rintro ⟨name, hname, hkept, hroute, hkill, hrole⟩
    subst hname
    obtain ⟨htool, hbackend⟩ := (killSwitchGate_eq_none_iff killSwitch).mp hkill
    exact ⟨hkept, htool, hbackend entry.1 hroute, rbacGate_eq_none_iff.mp hrole⟩
  · rintro ⟨hkept, hadmits⟩
    have hroute : gw.catalog.route (nameAfter before entry) = some entry.1 := by
      rw [hcatalog]
      exact route_nameAfter hkept
    refine ⟨_, rfl, hkept, hroute, ?_, rbacGate_eq_none_iff.mpr hadmits.role_ok⟩
    refine (killSwitchGate_eq_none_iff killSwitch).mpr ⟨hadmits.tool_enabled, ?_⟩
    intro backendName hbackend
    obtain rfl : entry.1 = backendName := Option.some.inj (hroute.symm.trans hbackend)
    exact hadmits.backend_enabled

/-- With all backends registered a tool has the name it has without the failed ones,
unless one of those made its own name taken. -/
theorem admits_nameAfter_iff {role : String} {rbac : RbacConfig} {killSwitch : KillSwitchConfig}
    {before : List Offer} {entry : String × Tool}
    (h : Admits role rbac killSwitch entry.1 (nameAfter (working before) entry)) :
    Admits role rbac killSwitch entry.1 (nameAfter (all before) entry) ↔
      (¬Taken (working before) entry.2.name → Taken (all before) entry.2.name →
        Admits role rbac killSwitch entry.1 (prefixedName entry.1 entry.2.name)) := by
  by_cases hall : Taken (all before) entry.2.name
  · by_cases hworking : Taken (working before) entry.2.name
    · rw [nameAfter_of_taken hworking] at h
      simp [nameAfter_of_taken hall, h]
    · simp [nameAfter_of_taken hall, hall, hworking]
  · have hworking : ¬Taken (working before) entry.2.name := mt taken_all_of_working hall
    rw [nameAfter_of_not_taken hworking] at h
    simp [nameAfter_of_not_taken hall, h, hall]

/-- A place among the registrations of the working backends is one in the advertised
lists. -/
theorem exists_offer_of_working {offers : List Offer} {before after : List (String × Tool)}
    {entry : String × Tool} (h : working offers = before ++ entry :: after) :
    ∃ before' offer after', offers = before' ++ offer :: after' ∧ offer.succeeded = true ∧
      offer.entry = entry ∧ working before' = before ∧ working after' = after := by
  obtain ⟨first, rest, hfilter, hbefore, hrest⟩ := List.map_eq_append_iff.mp h
  obtain ⟨offer, last, rfl, hentry, hafter⟩ := List.map_eq_cons_iff.mp hrest
  obtain ⟨front, back, rfl, hfront, hback⟩ := List.filter_eq_append_iff.mp hfilter
  obtain ⟨failed, after', rfl, hfailed, hsucceeded, hlast⟩ := List.filter_eq_cons_iff.mp hback
  refine ⟨front ++ failed, offer, after', by simp, hsucceeded, hentry, ?_, ?_⟩
  · have hnone : failed.filter Offer.succeeded = [] := List.filter_eq_nil_iff.mpr hfailed
    simpa [working, all, hfront, hnone] using hbefore
  · rw [working, hlast]
    exact hafter

/-- A policy that is kept at every place is kept. -/
theorem PlacesKept.policyKept {gw : Gateway} {killSwitch : KillSwitchConfig}
    {backends : List Discovery} (h : PlacesKept gw killSwitch backends) :
    PolicyKept gw killSwitch backends := by
  rintro entry ⟨before, after, name, hsplit, hreaches⟩
  obtain ⟨before, offer, after, hoffers, hsucceeded, rfl, rfl, rfl⟩ :=
    exists_offer_of_working hsplit
  obtain ⟨name, hreached⟩ := h before offer after hoffers hsucceeded ⟨name, hreaches⟩
  refine ⟨all before, all after, name, ?_, hreached⟩
  rw [hoffers]
  simp [all]

/-- If no backend advertises a tool twice, every tool has one place only. -/
theorem PolicyKept.placesKept {gw : Gateway} {killSwitch : KillSwitchConfig}
    {backends : List Discovery} (h : PolicyKept gw killSwitch backends)
    (hnodup : (all (offers backends)).Nodup) : PlacesKept gw killSwitch backends := by
  rintro before offer after hsplit hsucceeded ⟨name, hreaches⟩
  have hworking : working (offers backends) =
      working before ++ offer.entry :: working after := by
    rw [hsplit]
    simp [working, all, hsucceeded]
  have hall : all (offers backends) = all before ++ offer.entry :: all after := by
    rw [hsplit]
    simp [all]
  obtain ⟨before', after', name', hplace, hreached⟩ :=
    h offer.entry ⟨_, _, name, hworking, hreaches⟩
  rw [hall] at hplace hnodup
  obtain ⟨hbefore, -, hafter⟩ : all before = before' ∧ offer.entry = offer.entry ∧
      all after = after' := by
    rw [List.nodup_middle, List.nodup_cons, List.mem_append, not_or] at hnodup
    exact (List.append_cons_inj_of_notMem hnodup.1.1 hnodup.1.2).mp hplace
  subst hbefore hafter
  exact ⟨name', hreached⟩

/-- The policy is kept at every place exactly if the names agree. -/
theorem placesKept_iff (gw : Gateway) (killSwitch : KillSwitchConfig)
    (backends : List Discovery) :
    PlacesKept gw killSwitch backends ↔ NamesAgree gw killSwitch backends := by
  have hcatalogs {before after : List Offer} {offer : Offer}
      (hsplit : offers backends = before ++ offer :: after) (hsucceeded : offer.succeeded = true) :
      workingCatalog backends = Runs.after registerStep new
          (working before ++ offer.entry :: working after) ∧
        fullCatalog backends = Runs.after registerStep new
          (all before ++ offer.entry :: all after) := by
    rw [workingCatalog_eq, fullCatalog_eq, hsplit]
    simp [working, all, hsucceeded]
  constructor
  · intro h before offer after hsplit hsucceeded hkept hadmits
    obtain ⟨hworking, hfull⟩ := hcatalogs hsplit hsucceeded
    have hreached := h before offer after hsplit hsucceeded
      ((exists_reaches_iff hworking).mpr ⟨hkept, hadmits⟩)
    obtain ⟨hkept', hadmits'⟩ := (exists_reaches_iff hfull).mp hreached
    exact ⟨hkept', (admits_nameAfter_iff hadmits).mp hadmits'⟩
  · intro h before offer after hsplit hsucceeded hreached
    obtain ⟨hworking, hfull⟩ := hcatalogs hsplit hsucceeded
    obtain ⟨hkept, hadmits⟩ := (exists_reaches_iff hworking).mp hreached
    obtain ⟨hkept', hprefixed⟩ := h before offer after hsplit hsucceeded hkept hadmits
    exact (exists_reaches_iff hfull).mpr ⟨hkept', (admits_nameAfter_iff hadmits).mpr hprefixed⟩

/-- **Failed discoveries.** The policy is kept when discoveries fail if the catalog
names of the admitted tools agree with those of a full registration. It is kept at
every place of the advertised lists only if they do, which is the same unless a backend
advertises one tool twice. -/
theorem policyKept_iff (gw : Gateway) (killSwitch : KillSwitchConfig)
    (backends : List Discovery) :
    (NamesAgree gw killSwitch backends → PolicyKept gw killSwitch backends) ∧
      (PlacesKept gw killSwitch backends ↔ NamesAgree gw killSwitch backends) ∧
      ((all (offers backends)).Nodup →
        (PolicyKept gw killSwitch backends ↔ NamesAgree gw killSwitch backends)) := by
  have hplaces := placesKept_iff gw killSwitch backends
  have henough (h : NamesAgree gw killSwitch backends) : PolicyKept gw killSwitch backends :=
    (hplaces.mpr h).policyKept
  refine ⟨henough, hplaces, ?_⟩
  intro hnodup
  exact ⟨fun h => hplaces.mp (h.placesKept hnodup), henough⟩

/-- Two backends advertise a tool, and a role is denied the second one under its
prefixed name. If the discovery of the first fails, the second keeps its own name,
which nothing denies. -/
theorem not_policyKept_prefixed_denial :
    let backends : List Discovery :=
      [⟨"alpha", [⟨"query", none, [], []⟩], false⟩, ⟨"beta", [⟨"query", none, [], []⟩], true⟩]
    let gw := { bare (.ofValues []) with
      rbacConfig := ⟨AList.singleton "admin" ⟨["*"], ["beta__query"]⟩⟩ }
    let absent := { gw with catalog := workingCatalog backends }
    let present := { gw with catalog := fullCatalog backends }
    (absent.catalog.route "query" = some "beta" ∧ absent.killSwitchGate {} "query" = none ∧
        absent.rbacGate "query" = none) ∧
      (∀ name, present.catalog.route name = some "beta" → present.rbacGate name ≠ none) ∧
      ¬PolicyKept gw {} backends := by
  intro backends gw absent present
  have habsent : absent.catalog.route "query" = some "beta" ∧
      absent.killSwitchGate {} "query" = none ∧ absent.rbacGate "query" = none :=
    ⟨by decide, by decide, by decide⟩
  have hpresent : ∀ name, present.catalog.route name = some "beta" →
      present.rbacGate name ≠ none := by
    intro name hroute
    have hmem : name ∈ present.catalog.tools.keys := by
      rw [← AList.mem_keys, ← route_isSome_iff, hroute]
      rfl
    have hkeys : present.catalog.tools.keys = ["beta__query", "query"] := by decide
    rw [hkeys, List.mem_cons, List.mem_singleton] at hmem
    rcases hmem with rfl | rfl
    · exact fun hgate => absurd (rbacGate_eq_none_iff.mp hgate) (by decide)
    · exact absurd hroute (by decide)
  refine ⟨habsent, hpresent, ?_⟩
  intro h
  obtain ⟨hroute, hkill, hrole⟩ := habsent
  obtain ⟨before, after, name, -, hreached⟩ := h ("beta", ⟨"query", none, [], []⟩)
    ⟨[], [], "query", rfl, rfl, List.not_mem_nil, hroute, hkill, hrole⟩
  exact hpresent name hreached.route hreached.rbac

end Gateway

end SentinelGateway
