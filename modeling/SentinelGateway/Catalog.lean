import SentinelGateway.Library.Runs
import SentinelGateway.Library.Table
import SentinelGateway.Protocol.Json

/-!
# The tool catalog

The catalog of `catalog/mod.rs` merges the tools of all backends under one
namespace. A tool whose name is taken is stored under its name prefixed by the
backend's; whether that name is taken too is not checked. This file follows
single registrations, says which tool each catalog name stands for, and finds
out exactly when a sequence of registrations loses nothing.
-/

namespace SentinelGateway

/-- `rmcp::model::Tool`. The members the gateway only passes on are kept in `rest`. -/
structure Tool where
  name : String
  description : Option String
  inputSchema : List (String × Json)
  rest : List (String × Json) := []

/-- `ToolCatalog`: tool name to definition and owning backend. -/
structure ToolCatalog where
  tools : Table String (Tool × String)

namespace ToolCatalog

/-- `ToolCatalog::new`. -/
def new : ToolCatalog := { tools := ∅ }

/-- The name given to a tool whose own name is taken. -/
def prefixedName (backendName toolName : String) : String := backendName ++ "__" ++ toolName

/-- The loop body of `register_backend`. -/
def registerTool (catalog : ToolCatalog) (backendName : String) (tool : Tool) : ToolCatalog :=
  if tool.name ∈ catalog.tools then
    let prefixed := prefixedName backendName tool.name
    { tools := catalog.tools.insert prefixed ({ tool with name := prefixed }, backendName) }
  else
    { tools := catalog.tools.insert tool.name (tool, backendName) }

/-- `ToolCatalog::register_backend`. -/
def registerBackend (catalog : ToolCatalog) (backendName : String) (tools : List Tool) :
    ToolCatalog :=
  tools.foldl (fun catalog tool => catalog.registerTool backendName tool) catalog

/-- `ToolCatalog::all_tools`. -/
def allTools (catalog : ToolCatalog) : List Tool := catalog.tools.values.map Prod.fst

/-- `ToolCatalog::route`. -/
def route (catalog : ToolCatalog) (toolName : String) : Option String :=
  (catalog.tools.lookup toolName).map Prod.snd

/-- `ToolCatalog::tool_count`. -/
def toolCount (catalog : ToolCatalog) : ℕ := catalog.tools.size

/-- The description of a tool of the stub catalog. -/
def makeTool (name description : String) : Tool :=
  { name, description := some description,
    inputSchema := [("type", .string "object"), ("properties", .object [])] }

/-- `create_stub_catalog`: what is listed when no backend was discovered. -/
def stub : ToolCatalog :=
  (new.registerBackend "stub-n8n" [makeTool "list_workflows" "List n8n workflows",
      makeTool "execute_workflow" "Execute an n8n workflow"]).registerBackend "stub-sqlite"
    [makeTool "read_query" "Execute a read-only SQL query",
      makeTool "write_query" "Execute a write SQL query"]

/-- Registers a list of backends, each with the tools it advertises. -/
def registerAll (catalog : ToolCatalog) (backends : List (String × List Tool)) : ToolCatalog :=
  backends.foldl (fun catalog backend => catalog.registerBackend backend.1 backend.2) catalog

/-- Every advertised tool with the backend that advertises it, in the order of
registration. -/
def advertised (backends : List (String × List Tool)) : List (String × Tool) :=
  backends.flatMap fun backend => backend.2.map fun tool => (backend.1, tool)

/-- The name a tool is stored under when it is registered. -/
def catalogName (catalog : ToolCatalog) (backendName : String) (tool : Tool) : String :=
  if tool.name ∈ catalog.tools then prefixedName backendName tool.name else tool.name

/-- Both branches of the loop body store the renamed tool under its catalog name. -/
theorem registerTool_eq (catalog : ToolCatalog) (backendName : String) (tool : Tool) :
    catalog.registerTool backendName tool =
      { tools := catalog.tools.insert (catalog.catalogName backendName tool)
          ({ tool with name := catalog.catalogName backendName tool }, backendName) } := by
  unfold registerTool catalogName
  by_cases h : tool.name ∈ catalog.tools
  · simp only [if_pos h]
  · simp only [if_neg h]

/-- A registration adds its catalog name to the names in use. -/
theorem mem_registerTool (catalog : ToolCatalog) (backendName : String) (tool : Tool)
    (name : String) : name ∈ (catalog.registerTool backendName tool).tools ↔
      name = catalog.catalogName backendName tool ∨ name ∈ catalog.tools := by
  rw [registerTool_eq]
  exact AList.mem_insert _

/-- A prefixed name is longer than the name it was made from. -/
theorem prefixedName_ne (backendName toolName : String) :
    prefixedName backendName toolName ≠ toolName := by
  intro h
  have hlength := congrArg String.length h
  have htwo : "__".length = 2 := rfl
  simp only [prefixedName, String.length_append, htwo] at hlength
  omega

/-- One registration as a step of a machine that reports the name it used. -/
def registerStep (catalog : ToolCatalog) (entry : String × Tool) : ToolCatalog × String :=
  (catalog.registerTool entry.1 entry.2, catalog.catalogName entry.1 entry.2)

/-- Registering backends is registering their advertised tools one by one. -/
theorem registerAll_eq_after (catalog : ToolCatalog) (backends : List (String × List Tool)) :
    catalog.registerAll backends = Runs.after registerStep catalog (advertised backends) := by
  have hone (b : String) (tools : List Tool) (c : ToolCatalog) :
      c.registerBackend b tools = Runs.after registerStep c (tools.map fun tool => (b, tool)) := by
    induction tools generalizing c with
    | nil => rfl
    | cons tool tools ih => exact ih (c.registerTool b tool)
  induction backends generalizing catalog with
  | nil => rfl
  | cons backend backends ih =>
    have hsplit : advertised (backend :: backends) =
        (backend.2.map fun tool => (backend.1, tool)) ++ advertised backends := rfl
    rw [registerAll, List.foldl_cons, ← registerAll, ih, hone, hsplit, Runs.after_append]

/-- The registration about to happen would replace an entry: the tool's name is
taken and so is the prefixed one. -/
def Overwrites (catalog : ToolCatalog) (entry : String × Tool) : Prop :=
  entry.2.name ∈ catalog.tools ∧ prefixedName entry.1 entry.2.name ∈ catalog.tools

/-- Replacing an entry is finding the chosen catalog name already in use. -/
theorem overwrites_iff (catalog : ToolCatalog) (entry : String × Tool) :
    catalog.Overwrites entry ↔ catalog.catalogName entry.1 entry.2 ∈ catalog.tools := by
  unfold Overwrites catalogName
  by_cases h : entry.2.name ∈ catalog.tools
  · simp [h]
  · simp [h]

/-- No registration of the list finds both of its names taken in the catalog it
is applied to. -/
def NeverOverwrites (catalog : ToolCatalog) : List (String × Tool) → Prop
  | [] => True
  | entry :: rest =>
    ¬catalog.Overwrites entry ∧ (catalog.registerTool entry.1 entry.2).NeverOverwrites rest

theorem neverOverwrites_append (catalog : ToolCatalog) (xs ys : List (String × Tool)) :
    catalog.NeverOverwrites (xs ++ ys) ↔ catalog.NeverOverwrites xs ∧
      (Runs.after registerStep catalog xs).NeverOverwrites ys := by
  induction xs generalizing catalog with
  | nil => simp [NeverOverwrites]
  | cons x xs ih =>
    simp only [List.cons_append, NeverOverwrites, ih, Runs.after_cons, and_assoc]
    rfl

/-- Each registration adds an entry exactly if it overwrites none, so the final
count tells whether any entry was lost. -/
theorem toolCount_after (catalog : ToolCatalog) (entries : List (String × Tool)) :
    (Runs.after registerStep catalog entries).toolCount ≤ catalog.toolCount + entries.length ∧
      ((Runs.after registerStep catalog entries).toolCount = catalog.toolCount + entries.length ↔
        catalog.NeverOverwrites entries) := by
  induction entries generalizing catalog with
  | nil => simp [NeverOverwrites]
  | cons entry entries ih =>
    obtain ⟨hle, hiff⟩ := ih (catalog.registerTool entry.1 entry.2)
    simp only [Runs.after_cons, List.length_cons, NeverOverwrites]
    by_cases h : catalog.Overwrites entry
    · have hsize : (catalog.registerTool entry.1 entry.2).toolCount = catalog.toolCount := by
        rw [registerTool_eq]
        exact Table.size_insert_of_mem ((overwrites_iff _ _).mp h) _
      rw [hsize] at hle
      refine ⟨by simp only [registerStep]; omega, ?_⟩
      simp only [h, not_true, false_and, iff_false, registerStep]
      omega
    · have hsize : (catalog.registerTool entry.1 entry.2).toolCount = catalog.toolCount + 1 := by
        rw [registerTool_eq]
        exact Table.size_insert_of_notMem (mt (overwrites_iff _ _).mpr h) _
      rw [hsize] at hle hiff
      refine ⟨by simp only [registerStep]; omega, ?_⟩
      simp only [h, not_false_iff, true_and, registerStep, ← hiff]
      omega

/-- Registrations that overwrite nothing keep every entry there was. -/
theorem lookup_after_of_neverOverwrites {catalog : ToolCatalog} {entries : List (String × Tool)}
    (h : catalog.NeverOverwrites entries) {name : String} {entry : Tool × String}
    (hname : catalog.tools.lookup name = some entry) :
    (Runs.after registerStep catalog entries).tools.lookup name = some entry := by
  induction entries generalizing catalog with
  | nil => exact hname
  | cons x xs ih =>
    obtain ⟨hfresh, hrest⟩ := h
    rw [overwrites_iff] at hfresh
    have hmem : name ∈ catalog.tools := by
      rw [← AList.lookup_isSome, hname]
      rfl
    have hne : name ≠ catalog.catalogName x.1 x.2 := fun heq => hfresh (heq ▸ hmem)
    apply ih hrest
    rw [registerTool_eq]
    simpa only [AList.lookup_insert_ne hne] using hname

/-- Registrations that overwrite nothing store every tool under a new name of its
own, and it stays there. -/
theorem names_of_neverOverwrites {catalog : ToolCatalog} {entries : List (String × Tool)}
    (h : catalog.NeverOverwrites entries) :
    (Runs.outputs registerStep catalog entries).Nodup ∧
      (∀ name ∈ Runs.outputs registerStep catalog entries, name ∉ catalog.tools) ∧
      List.Forall₂ (fun entry name =>
          (Runs.after registerStep catalog entries).tools.lookup name =
            some ({ entry.2 with name := name }, entry.1))
        entries (Runs.outputs registerStep catalog entries) := by
  induction entries generalizing catalog with
  | nil => simp
  | cons x xs ih =>
    obtain ⟨hfresh, hrest⟩ := h
    rw [overwrites_iff] at hfresh
    obtain ⟨hnodup, hnew, hstored⟩ := ih hrest
    have hmem := mem_registerTool catalog x.1 x.2
    have hown : (catalog.registerTool x.1 x.2).tools.lookup (catalog.catalogName x.1 x.2) =
        some ({ x.2 with name := catalog.catalogName x.1 x.2 }, x.1) := by
      rw [registerTool_eq]
      exact AList.lookup_insert _
    refine ⟨?_, ?_, ?_⟩
    · exact List.nodup_cons.mpr ⟨fun hx => hnew _ hx ((hmem _).mpr (Or.inl rfl)), hnodup⟩
    · intro name hname
      rcases List.mem_cons.mp hname with rfl | hname
      · exact hfresh
      · exact fun hold => hnew name hname ((hmem name).mpr (Or.inr hold))
    · exact List.Forall₂.cons (lookup_after_of_neverOverwrites hrest hown) hstored

/-- A sequence of registrations neither hijacks nor loses anything: no
`register_backend` call changes the route of a routed name, every advertised
tool ends up under a catalog name of its own, and the count is the total. -/
structure Faithful (backends : List (String × List Tool)) : Prop where
  route_kept : ∀ before backend rest, backends = before ++ backend :: rest →
    ∀ name owner, (new.registerAll before).route name = some owner →
      ((new.registerAll before).registerBackend backend.1 backend.2).route name = some owner
  stored : ∃ names : List String, names.Nodup ∧ List.Forall₂ (fun entry name =>
    (new.registerAll backends).tools.lookup name = some ({ entry.2 with name := name }, entry.1))
      (advertised backends) names
  count_eq : (new.registerAll backends).toolCount = (advertised backends).length

/-- **Catalog registration.** A sequence of registrations is faithful exactly if
none of its steps finds both the tool's own name and its prefixed name taken. -/
theorem faithful_iff_neverOverwrites (backends : List (String × List Tool)) :
    Faithful backends ↔ new.NeverOverwrites (advertised backends) := by
  have hcount := toolCount_after new (advertised backends)
  have hzero : new.toolCount = 0 := rfl
  rw [hzero, Nat.zero_add, ← registerAll_eq_after] at hcount
  constructor
  · intro h
    exact hcount.2.mp h.count_eq
  · intro h
    refine ⟨?_, ?_, hcount.2.mpr h⟩
    · intro before backend rest heq name owner hroute
      have hsplit : advertised backends = advertised before ++
          (advertised [backend] ++ advertised rest) := by
        simp [heq, advertised, List.flatMap_append]
      rw [hsplit, neverOverwrites_append, neverOverwrites_append, ← registerAll_eq_after] at h
      have hkeep : ((new.registerAll before).registerAll [backend]).tools.lookup name =
          (new.registerAll before).tools.lookup name := by
        obtain ⟨entry, hentry, _⟩ := Option.map_eq_some_iff.mp hroute
        rw [hentry, registerAll_eq_after]
        exact lookup_after_of_neverOverwrites h.2.1 hentry
      change ((new.registerAll before).registerAll [backend]).route name = some owner
      rw [route, hkeep]
      exact hroute
    · obtain ⟨hnodup, _, hstored⟩ := names_of_neverOverwrites h
      rw [← registerAll_eq_after] at hstored
      exact ⟨_, hnodup, hstored⟩

/-- A backend that advertises the prefixed form of a later collision loses that
name to the other backend, although the two backends have different names. -/
theorem not_faithful_prefix_collision :
    let backends : List (String × List Tool) :=
      [("alpha", [⟨"query", none, [], []⟩, ⟨"beta__query", none, [], []⟩]),
        ("beta", [⟨"query", none, [], []⟩])]
    (backends.map Prod.fst).Nodup ∧ ¬Faithful backends := by
  refine ⟨by decide, ?_⟩
  intro h
  exact absurd h.count_eq (by decide)

/-- Where a catalog entry comes from: the backend, the tool as that backend
advertised it, and whether its name was taken when it was registered. -/
structure Registration where
  backend : String
  tool : Tool
  collided : Bool

/-- The registration a catalog name stands for: the last one that used it. -/
def provenance (catalog : ToolCatalog) : List (String × Tool) → String → Option Registration
  | [], _ => none
  | entry :: rest, name =>
    ((catalog.registerTool entry.1 entry.2).provenance rest name).or
      (if catalog.catalogName entry.1 entry.2 = name then
        some ⟨entry.1, entry.2, decide (entry.2.name ∈ catalog.tools)⟩
      else none)

/-- The catalog holds, under each name, the tool of its registration with the
name replaced, and what was there before where no registration used the name. -/
theorem lookup_after_eq_provenance (catalog : ToolCatalog) (entries : List (String × Tool))
    (name : String) :
    (Runs.after registerStep catalog entries).tools.lookup name =
      match catalog.provenance entries name with
      | some origin => some ({ origin.tool with name := name }, origin.backend)
      | none => catalog.tools.lookup name := by
  induction entries generalizing catalog with
  | nil => rfl
  | cons entry entries ih =>
    rw [Runs.after_cons]
    change (Runs.after registerStep (catalog.registerTool entry.1 entry.2) entries).tools.lookup
      name = _
    rw [ih, provenance]
    cases (catalog.registerTool entry.1 entry.2).provenance entries name with
    | some origin => rfl
    | none =>
      rw [registerTool_eq]
      by_cases h : catalog.catalogName entry.1 entry.2 = name
      · subst h
        simp
      · simp only [if_neg h, Option.or_none]
        exact AList.lookup_insert_ne (Ne.symm h)

/-- A registered catalog holds every tool under the name in its definition. -/
theorem name_of_lookup {backends : List (String × List Tool)} {name : String}
    {entry : Tool × String} (h : (new.registerAll backends).tools.lookup name = some entry) :
    entry.1.name = name := by
  rw [registerAll_eq_after, lookup_after_eq_provenance] at h
  cases hprovenance : new.provenance (advertised backends) name with
  | none =>
    rw [hprovenance] at h
    simp [new] at h
  | some origin =>
    rw [hprovenance] at h
    rw [← Option.some.inj h]

/-- The names in the definitions of a registered catalog are its keys. -/
theorem map_name_allTools (backends : List (String × List Tool)) :
    (new.registerAll backends).allTools.map Tool.name = (new.registerAll backends).tools.keys := by
  rw [allTools, Table.values, List.map_map, List.map_map, AList.keys, List.keys]
  apply List.map_congr_left
  rintro ⟨name, entry⟩ hentry
  exact name_of_lookup (AList.mem_lookup_iff.mpr hentry)

theorem nodup_map_name_allTools (backends : List (String × List Tool)) :
    ((new.registerAll backends).allTools.map Tool.name).Nodup := by
  rw [map_name_allTools]
  exact AList.keys_nodup _

/-- A name is routed exactly if it is a key. -/
theorem route_isSome_iff (catalog : ToolCatalog) (name : String) :
    (catalog.route name).isSome ↔ name ∈ catalog.tools := by
  rw [route, Option.isSome_map, AList.lookup_isSome]

/-- The listed names are those that have a route. -/
theorem mem_map_name_allTools_iff (backends : List (String × List Tool)) (name : String) :
    name ∈ (new.registerAll backends).allTools.map Tool.name ↔
      ((new.registerAll backends).route name).isSome := by
  rw [map_name_allTools, route_isSome_iff, AList.mem_keys]

/-- A registration is stored under its prefixed name if its own name was taken,
and under its own name otherwise. -/
theorem name_of_provenance {catalog : ToolCatalog} {entries : List (String × Tool)}
    {name : String} {origin : Registration}
    (h : catalog.provenance entries name = some origin) :
    name = if origin.collided then prefixedName origin.backend origin.tool.name
      else origin.tool.name := by
  induction entries generalizing catalog with
  | nil => simp [provenance] at h
  | cons entry entries ih =>
    rw [provenance, Option.or_eq_some_iff] at h
    rcases h with h | ⟨_, h⟩
    · exact ih h
    · by_cases hname : catalog.catalogName entry.1 entry.2 = name
      · rw [if_pos hname, Option.some.injEq] at h
        subst h hname
        simp [catalogName]
      · simp [hname] at h

/-- The registration of a name is one of those that were made. -/
theorem mem_of_provenance {catalog : ToolCatalog} {entries : List (String × Tool)}
    {name : String} {origin : Registration}
    (h : catalog.provenance entries name = some origin) :
    (origin.backend, origin.tool) ∈ entries := by
  induction entries generalizing catalog with
  | nil => simp [provenance] at h
  | cons entry entries ih =>
    rw [provenance, Option.or_eq_some_iff] at h
    rcases h with h | ⟨_, h⟩
    · exact List.mem_cons_of_mem _ (ih h)
    · split_ifs at h
      rw [← Option.some.inj h]
      exact List.mem_cons_self

/-- The name of an entry is the advertised one exactly if there was no collision. -/
theorem name_eq_advertised_iff {catalog : ToolCatalog} {entries : List (String × Tool)}
    {name : String} {origin : Registration}
    (h : catalog.provenance entries name = some origin) :
    name = origin.tool.name ↔ origin.collided = false := by
  have hname := name_of_provenance h
  cases hcollided : origin.collided with
  | false => simpa [hcollided] using hname
  | true =>
    rw [hcollided, if_pos rfl] at hname
    simp only [Bool.true_eq_false, iff_false, hname]
    exact prefixedName_ne _ _

/-- Every entry is an advertised tool, stored under its own name or the prefixed one. -/
theorem exists_advertised_of_lookup {backends : List (String × List Tool)} {name backend : String}
    {tool : Tool} (h : (new.registerAll backends).tools.lookup name = some (tool, backend)) :
    ∃ tools, (backend, tools) ∈ backends ∧ ∃ x ∈ tools, tool = { x with name := name } ∧
      (name = x.name ∨ name = prefixedName backend x.name) := by
  rw [registerAll_eq_after, lookup_after_eq_provenance] at h
  cases hprovenance : new.provenance (advertised backends) name with
  | none =>
    rw [hprovenance] at h
    simp [new] at h
  | some origin =>
    rw [hprovenance] at h
    obtain ⟨rfl, rfl⟩ := Prod.mk.inj (Option.some.inj h)
    obtain ⟨source, hsource, hmem⟩ := List.mem_flatMap.mp (mem_of_provenance hprovenance)
    obtain ⟨x, hx, hentry⟩ := List.mem_map.mp hmem
    obtain ⟨hbackend, htool⟩ := Prod.mk.inj hentry
    have hname := name_of_provenance hprovenance
    refine ⟨source.2, ?_, x, hx, by rw [htool], ?_⟩
    · rw [← hbackend]
      exact hsource
    · rw [htool]
      split_ifs at hname
      · exact .inr hname
      · exact .inl hname

end ToolCatalog

end SentinelGateway
