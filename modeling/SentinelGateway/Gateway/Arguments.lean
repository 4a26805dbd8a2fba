import SentinelGateway.Gateway.Steps

/-!
# Arguments of forwarded calls

The schema gate looks at the `arguments` member of a call. A call without that
member passes it, whatever the schema of its tool requires. So what a backend
gets to see satisfies the tool's schema exactly as long as no call that is let
through leaves the member out where the schema does not accept an empty object.
-/

namespace SentinelGateway.Gateway

variable {gw : Gateway} {st : DispatchState} {line : InboundLine} {id : JsonRpcId}
  {name : String} {params : Option Json}

/-- The arguments a call is made with: an absent member stands for no arguments. -/
def effectiveArguments (params : Option Json) : Json :=
  (params.bind (Json.get "arguments")).getD (.object [])

/-- The catalog lists a tool under the name, and its schema compiles to the validator. -/
def HasValidator (compile : Json → Except String Validator) (catalog : ToolCatalog)
    (name : String) (validator : Validator) : Prop :=
  ∃ tool backendName, catalog.tools.lookup name = some (tool, backendName) ∧
    compile (.object tool.inputSchema) = .ok validator

/-- A call that the event hands to a backend has arguments to which the validator
of its tool does not object. -/
def ForwardsValid (compile : Json → Except String Validator) (gw : Gateway) (st : DispatchState)
    (event : Event) : Prop :=
  ∀ line id name params validator, event = .line line → IsCall gw st line id name params →
    HasValidator compile gw.catalog name validator → sends (gw.step st event).2 ≠ [] →
      validator (effectiveArguments params) = []

/-- The event is an admitted call without an `arguments` member, of a tool whose
validator objects to the empty object. -/
def OmitsArguments (compile : Json → Except String Validator) (gw : Gateway) (st : DispatchState)
    (event : Event) : Prop :=
  ∃ line id name params validator, event = .line line ∧ IsCall gw st line id name params ∧
    HasValidator compile gw.catalog name validator ∧
    params.bind (Json.get "arguments") = none ∧ validator (.object []) ≠ [] ∧
    Admitted gw st event

/-- One event: the gate covers every call but those that leave the member out. -/
theorem forwardsValid_iff_step {compile : Json → Except String Validator}
    {backends : List (String × List Tool)}
    (hcatalog : gw.catalog = ToolCatalog.new.registerAll backends)
    (hcache : gw.schemaCache = SchemaCache.fromCatalog compile gw.catalog) (st : DispatchState)
    (event : Event) :
    ForwardsValid compile gw st event ↔ ¬OmitsArguments compile gw st event := by
  constructor
  · rintro hvalid ⟨line, id, name, params, validator, rfl, hcall, hvalidator, habsent, hobjects,
      hadmitted⟩
    have hsends := (sends_ne_nil_iff gw st _).mpr hadmitted
    have hempty := hvalid line id name params validator rfl hcall hvalidator hsends
    rw [effectiveArguments, habsent] at hempty
    exact hobjects hempty
  · rintro hcomplete line id name params validator rfl hcall hvalidator hsends
    have hadmitted := (sends_ne_nil_iff gw st _).mp hsends
    cases hmember : params.bind (Json.get "arguments") with
    | none =>
      by_contra hobjects
      rw [effectiveArguments, hmember] at hobjects
      exact hcomplete ⟨line, id, name, params, validator, rfl, hcall, hvalidator, hmember,
        hobjects, hadmitted⟩
    | some arguments =>
      obtain ⟨tool, backendName, htool, hcompile⟩ := hvalidator
      rw [hcatalog] at htool hcache
      have hlookup : gw.schemaCache.validators.lookup name = some validator := by
        rw [hcache]
        exact SchemaCache.lookup_fromCatalog htool hcompile
      obtain ⟨other, id', name', params', routed, backend, heq, hcall', hpolicy, -⟩ := hadmitted
      obtain rfl : line = other := by simpa using heq
      obtain ⟨rfl, rfl, rfl⟩ := hcall.unique hcall'
      have hpass := hpolicy.arguments_ok arguments hmember
      rw [effectiveArguments, hmember]
      exact (SchemaCache.validate_eq_ok_iff hlookup arguments).mp hpass

/-- **Schemas of forwarded calls.** In a session every call that is forwarded
satisfies the schema of its tool if and only if no admitted call leaves out its
`arguments` member where the schema does not accept an empty object. -/
theorem forwardsValid_iff (compile : Json → Except String Validator) (gw : Gateway)
    (backends : List (String × List Tool))
    (hcatalog : gw.catalog = ToolCatalog.new.registerAll backends)
    (hcache : gw.schemaCache = SchemaCache.fromCatalog compile gw.catalog)
    (st : DispatchState) (events : List Event) :
    (∀ before event rest, events = before ++ event :: rest →
      ForwardsValid compile gw (Runs.after gw.step st before) event) ↔
    ∀ before event rest, events = before ++ event :: rest →
      ¬OmitsArguments compile gw (Runs.after gw.step st before) event := by
  simp only [forwardsValid_iff_step hcatalog hcache]

/-- A validator that asks for the member `query`. -/
def requireQuery : Validator := fun arguments =>
  if (arguments.get "query").isSome then []
  else [{ message := "\"query\" is a required property", instancePath := "" }]

/-- A call of the search tool with the argument its schema requires. -/
def searchJson : Json :=
  .object [("jsonrpc", .string "2.0"), ("id", .number (.posInt 8)),
    ("method", .string "tools/call"), ("params", .object [("name", .string "search"),
      ("arguments", .object [("query", .string "lean")])])]

/-- A gateway in front of a search tool whose schema requires a query. -/
def searchGateway : Gateway :=
  let catalog := ToolCatalog.new.registerAll
    [("web", [{ name := "search", description := none, inputSchema := [("type", .string "object"),
      ("required", .array [.string "query"])] }])]
  { bare (.ofValues (handshakeMessages ++ [callJson 7 "search", searchJson])) with
    catalog
    backends := AList.singleton "web" (.stdio ⟨"web", 0, 60⟩)
    schemaCache := SchemaCache.fromCatalog (fun _ => .ok requireQuery) catalog }

/-- The search tool of this gateway and its validator. -/
theorem hasValidator_search :
    HasValidator (fun _ => .ok requireQuery) searchGateway.catalog "search" requireQuery :=
  ⟨_, "web", rfl, rfl⟩

/-- A session whose only call has its arguments meets the condition. -/
theorem forwardsValid_search :
    searchGateway.schemaCache =
        SchemaCache.fromCatalog (fun _ => .ok requireQuery) searchGateway.catalog ∧
      ∀ before event rest,
        handshake ++ [.line (.message searchJson)] = before ++ event :: rest →
        ForwardsValid (fun _ => .ok requireQuery) searchGateway
          (Runs.after searchGateway.step (start ⟨{}, .new {}⟩ .new ∅) before) event := by
  refine ⟨rfl, ?_⟩
  refine (forwardsValid_iff (fun _ => .ok requireQuery) searchGateway _ rfl rfl _ _).mpr ?_
  rintro before event rest heq ⟨line, id, name, params, validator, rfl, hcall, -, habsent, -⟩
  match before with
  | [] => exact absurd hcall.operational (by decide +kernel)
  | [_] =>
    simp only [handshake, List.cons_append, List.nil_append, List.cons.injEq] at heq
    obtain ⟨rfl, -⟩ := heq
    exact absurd hcall.operational (by decide +kernel)
  | [_, _] =>
    simp only [handshake, List.cons_append, List.nil_append, List.cons.injEq,
      Event.line.injEq] at heq
    obtain ⟨rfl, rfl, rfl, -⟩ := heq
    have hknown : IsCall searchGateway (Runs.after searchGateway.step (start ⟨{}, .new {}⟩ .new ∅)
        handshake) (.message searchJson) (.number 8) "search"
        (some (.object [("name", .string "search"),
          ("arguments", .object [("query", .string "lean")])])) :=
      ⟨⟨"2.0", rfl⟩, by decide +kernel, rfl⟩
    obtain ⟨-, -, rfl⟩ := hknown.unique hcall
    simp [Json.get, Json.lastMember] at habsent
  | _ :: _ :: _ :: _ => simp [handshake] at heq

/-- A call without arguments is forwarded to a tool whose schema requires one. -/
theorem not_forwardsValid_search :
    ¬∀ before event rest,
      handshake ++ [.line (.message (callJson 7 "search"))] = before ++ event :: rest →
      ForwardsValid (fun _ => .ok requireQuery) searchGateway
        (Runs.after searchGateway.step (start ⟨{}, .new {}⟩ .new ∅) before) event := by
  intro h
  have hlast := h handshake (.line (.message (callJson 7 "search"))) [] rfl
  have hcall : IsCall searchGateway (Runs.after searchGateway.step (start ⟨{}, .new {}⟩ .new ∅)
      handshake) (.message (callJson 7 "search")) (.number 7) "search"
      (some (.object [("name", .string "search")])) := ⟨⟨"2.0", rfl⟩, by decide +kernel, rfl⟩
  have hsent : (sends (searchGateway.step (Runs.after searchGateway.step
      (start ⟨{}, .new {}⟩ .new ∅) handshake)
      (.line (.message (callJson 7 "search")))).2).length = 1 := by decide +kernel
  have hvalid := hlast _ _ _ _ _ rfl hcall hasValidator_search (by
    intro hnil
    rw [hnil] at hsent
    cases hsent)
  exact absurd hvalid (by simp [effectiveArguments, requireQuery, Json.get, Json.lastMember])

end SentinelGateway.Gateway
