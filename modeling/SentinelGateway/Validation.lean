import SentinelGateway.Catalog

/-!
# Argument validation

The schema cache of `validation/mod.rs`. Compiling a JSON schema and judging a
value by it belong to the schema library: a validator is any function from
arguments to errors, and compilation may fail.
-/

namespace SentinelGateway

/-- One violation reported by a validator. -/
structure ValidationError where
  message : String
  instancePath : String

/-- A compiled schema, seen through `iter_errors`. -/
abbrev Validator := Json → List ValidationError

/-- `SchemaCache`. -/
structure SchemaCache where
  validators : Table String Validator

/-- `SchemaCache::from_catalog`: tools whose schema does not compile get no
validator. -/
def SchemaCache.fromCatalog (compile : Json → Except String Validator) (catalog : ToolCatalog) :
    SchemaCache :=
  { validators := catalog.allTools.foldl (fun validators tool =>
      match compile (.object tool.inputSchema) with
      | .ok validator => validators.insert tool.name validator
      | .error _ => validators) ∅ }

/-- `SchemaCache::validate`. -/
def SchemaCache.validate (cache : SchemaCache) (toolName : String) (arguments : Json) :
    Except (List String) Unit :=
  match cache.validators.lookup toolName with
  | none => .ok ()
  | some validator =>
    let errors := (validator arguments).map fun error =>
      error.message ++ " at " ++ error.instancePath
    if errors.isEmpty then .ok () else .error errors

namespace SchemaCache

variable {compile : Json → Except String Validator}

/-- The loop body of `from_catalog`. -/
def addTool (compile : Json → Except String Validator) (validators : Table String Validator)
    (tool : Tool) : Table String Validator :=
  match compile (.object tool.inputSchema) with
  | .ok validator => validators.insert tool.name validator
  | .error _ => validators

theorem fromCatalog_validators (compile : Json → Except String Validator)
    (catalog : ToolCatalog) :
    (fromCatalog compile catalog).validators = catalog.allTools.foldl (addTool compile) ∅ := rfl

/-- A tool adds a validator under its own name at most. -/
theorem lookup_addTool_of_ne (validators : Table String Validator) (tool : Tool) (name : String)
    (h : name ≠ tool.name) :
    (addTool compile validators tool).lookup name = validators.lookup name := by
  unfold addTool
  cases compile (.object tool.inputSchema) with
  | ok validator => exact AList.lookup_insert_ne h
  | error e => rfl

/-- What a tool leaves under its own name. -/
theorem lookup_addTool_self (validators : Table String Validator) (tool : Tool) :
    (addTool compile validators tool).lookup tool.name =
      (compile (.object tool.inputSchema)).toOption.or (validators.lookup tool.name) := by
  unfold addTool
  cases compile (.object tool.inputSchema) with
  | ok validator => exact AList.lookup_insert _
  | error e => rfl

/-- A registered catalog has under each name the validator of its tool's schema, if
that compiles. -/
theorem lookup_fromCatalog_eq {backends : List (String × List Tool)} {name backendName : String}
    {tool : Tool}
    (htool : (ToolCatalog.new.registerAll backends).tools.lookup name = some (tool, backendName)) :
    (fromCatalog compile (ToolCatalog.new.registerAll backends)).validators.lookup name =
      (compile (.object tool.inputSchema)).toOption := by
  obtain rfl : tool.name = name := ToolCatalog.name_of_lookup htool
  have hmem : tool ∈ (ToolCatalog.new.registerAll backends).allTools :=
    List.mem_map.mpr ⟨_, Table.mem_values_of_lookup htool, rfl⟩
  rw [fromCatalog_validators]
  rw [Table.lookup_foldl_of_mem lookup_addTool_of_ne
    (g := fun tool old => (compile (.object tool.inputSchema)).toOption.or old)
    lookup_addTool_self (ToolCatalog.nodup_map_name_allTools backends) hmem]
  exact Option.or_none

/-- A registered catalog has a validator under each name whose schema compiles. -/
theorem lookup_fromCatalog {backends : List (String × List Tool)} {name backendName : String}
    {tool : Tool}
    (htool : (ToolCatalog.new.registerAll backends).tools.lookup name = some (tool, backendName))
    {validator : Validator} (hcompile : compile (.object tool.inputSchema) = .ok validator) :
    (fromCatalog compile (ToolCatalog.new.registerAll backends)).validators.lookup name =
      some validator := by
  rw [lookup_fromCatalog_eq htool, hcompile]
  rfl

/-- A name that no tool has gets no validator. -/
theorem lookup_fromCatalog_of_notMem {backends : List (String × List Tool)} {name : String}
    (hname : name ∉ (ToolCatalog.new.registerAll backends).allTools.map Tool.name) :
    (fromCatalog compile (ToolCatalog.new.registerAll backends)).validators.lookup name = none := by
  rw [fromCatalog_validators, Table.lookup_foldl_of_notMem lookup_addTool_of_ne hname]
  rfl

/-- With a validator, arguments pass exactly if it reports nothing. -/
theorem validate_eq_ok_iff {cache : SchemaCache} {name : String} {validator : Validator}
    (h : cache.validators.lookup name = some validator) (arguments : Json) :
    cache.validate name arguments = .ok () ↔ validator arguments = [] := by
  rw [validate, h]
  cases hreport : validator arguments with
  | nil => simp [hreport]
  | cons error errors => simp [hreport]

/-- The verdict on arguments by a schema. One that does not compile passes everything. -/
def judge (compiled : Except String Validator) (arguments : Json) : Except (List String) Unit :=
  match compiled with
  | .error _ => .ok ()
  | .ok validator =>
    let errors := (validator arguments).map fun error =>
      error.message ++ " at " ++ error.instancePath
    if errors.isEmpty then .ok () else .error errors

theorem validate_eq_judge {cache : SchemaCache} {name : String}
    {compiled : Except String Validator}
    (h : cache.validators.lookup name = compiled.toOption) (arguments : Json) :
    cache.validate name arguments = judge compiled arguments := by
  rw [validate, h]
  cases compiled with
  | error e => rfl
  | ok validator => rfl

/-- **Provenance of catalog entries.** Every entry is an advertised tool under its own
name or the prefixed one, and only the name was changed. The listed names are
pairwise different and are those that have a route. Arguments for a name are judged by
the schema of a tool that the backend of its route advertised. -/
theorem entries_advertised (compile : Json → Except String Validator)
    (backends : List (String × List Tool)) :
    let catalog := ToolCatalog.new.registerAll backends
    let cache := fromCatalog compile catalog
    (∀ name tool backend, catalog.tools.lookup name = some (tool, backend) →
      tool.name = name ∧ ∃ tools, (backend, tools) ∈ backends ∧ ∃ x ∈ tools,
        tool = { x with name := name } ∧ (name = x.name ∨ name = backend ++ "__" ++ x.name)) ∧
    (catalog.allTools.map Tool.name).Nodup ∧
    (∀ name, name ∈ catalog.allTools.map Tool.name ↔ (catalog.route name).isSome) ∧
    (∀ name backend, catalog.route name = some backend →
      ∃ tools, (backend, tools) ∈ backends ∧ ∃ x ∈ tools,
        (name = x.name ∨ name = backend ++ "__" ++ x.name) ∧
        ∀ arguments, cache.validate name arguments =
          judge (compile (.object x.inputSchema)) arguments) ∧
    (∀ name arguments, catalog.route name = none → cache.validate name arguments = .ok ()) := by
  intro catalog cache
  refine ⟨?_, ToolCatalog.nodup_map_name_allTools backends, ?_, ?_, ?_⟩
  · intro name tool backend hentry
    exact ⟨ToolCatalog.name_of_lookup hentry, ToolCatalog.exists_advertised_of_lookup hentry⟩
  · intro name
    exact ToolCatalog.mem_map_name_allTools_iff backends name
  · intro name backend hroute
    obtain ⟨⟨tool, _⟩, hentry, rfl⟩ := Option.map_eq_some_iff.mp hroute
    obtain ⟨tools, hbackend, x, hx, htool, hname⟩ := ToolCatalog.exists_advertised_of_lookup hentry
    have hschema : tool.inputSchema = x.inputSchema := by rw [htool]
    refine ⟨tools, hbackend, x, hx, hname, ?_⟩
    rw [← hschema]
    exact validate_eq_judge (lookup_fromCatalog_eq hentry)
  · intro name arguments hroute
    have hnone : name ∉ catalog.allTools.map Tool.name := by
      rw [ToolCatalog.mem_map_name_allTools_iff, hroute]
      simp
    rw [validate, lookup_fromCatalog_of_notMem hnone]

end SchemaCache

end SentinelGateway
