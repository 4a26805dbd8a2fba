import SentinelGateway.Gateway.Mediation

/-!
# Names of forwarded calls

The catalog may list a tool under a prefixed name, while a call is forwarded with
the name the client used. A backend therefore gets to see a name it advertised
itself exactly if the tool was registered without a collision.
-/

namespace SentinelGateway.Gateway

open ToolCatalog (advertised)

variable {gw : Gateway} {st : DispatchState} {line : InboundLine} {id : JsonRpcId}
  {name : String} {params : Option Json}

/-- The tool name in an outbound body. -/
def sentName (body : Json) : Option String := toolName (body.get "params")

/-- A routed name was registered, by the backend it routes to. -/
theorem exists_provenance {backends : List (String × List Tool)} {backendName : String}
    (hroute : (ToolCatalog.new.registerAll backends).route name = some backendName) :
    ∃ origin, ToolCatalog.new.provenance (advertised backends) name = some origin ∧
      (ToolCatalog.new.registerAll backends).tools.lookup name =
        some ({ origin.tool with name := name }, backendName) ∧ origin.backend = backendName := by
  have hlookup := ToolCatalog.lookup_after_eq_provenance .new (advertised backends) name
  rw [← ToolCatalog.registerAll_eq_after] at hlookup
  unfold ToolCatalog.route at hroute
  cases horigin : ToolCatalog.new.provenance (advertised backends) name with
  | none =>
    rw [hlookup, horigin] at hroute
    simp [ToolCatalog.new] at hroute
  | some origin =>
    rw [horigin] at hlookup
    rw [hlookup, Option.map_some, Option.some.injEq] at hroute
    obtain rfl : origin.backend = backendName := hroute
    exact ⟨origin, rfl, hlookup, rfl⟩

/-- **Forwarding.** With any catalog that registrations can build, a call that is
sent goes to the backend that registered its name, and carries the name that this
backend advertised for the tool exactly if the registration met no collision. -/
theorem sentName_eq_advertised_iff (backends : List (String × List Tool))
    (hcatalog : gw.catalog = ToolCatalog.new.registerAll backends)
    (hcall : IsCall gw st line id name params) {backendName : String} {backend : Backend}
    {body : Json} (hsend : (backendName, backend, body) ∈ sends (gw.step st (.line line)).2) :
    ∃ origin, ToolCatalog.new.provenance (advertised backends) name = some origin ∧
      gw.catalog.tools.lookup name = some ({ origin.tool with name := name }, backendName) ∧
      (backendName, origin.tool) ∈ advertised backends ∧
      (sentName body = some origin.tool.name ↔ origin.collided = false) := by
  rcases send_cases gw st (.line line) with ⟨hsilent, -⟩ |
    ⟨other, id', name', params', routed, served, heq, hcall', -, -, hroute, -, -, hsent⟩
  · simp [hsilent] at hsend
  obtain rfl : line = other := by simpa using heq
  obtain ⟨rfl, rfl, rfl⟩ := hcall.unique hcall'
  obtain ⟨rfl, -, rfl⟩ : backendName = routed ∧ backend = served ∧
      body = outboundRequest st.idRemapper.counter params := by simpa [hsent] using hsend
  rw [hcatalog] at hroute ⊢
  obtain ⟨origin, horigin, hlookup, hbackend⟩ := exists_provenance hroute
  refine ⟨origin, horigin, hlookup, ?_, ?_⟩
  · rw [← hbackend]
    exact ToolCatalog.mem_of_provenance horigin
  · rw [sentName, get_params_outboundRequest hcall.named, hcall.named, Option.some.injEq]
    exact ToolCatalog.name_eq_advertised_iff horigin

/-- Two backends that advertise a tool of the same name. -/
def twoQueries : List (String × List Tool) :=
  [("alpha", [⟨"query", none, [], []⟩]), ("beta", [⟨"query", none, [], []⟩])]

/-- A gateway in front of these two, as an operational session finds it. -/
def twoQueriesGateway : Gateway :=
  { bare (.ofValues (handshakeMessages ++ [queryMessage, callJson 8 "beta__query"])) with
    catalog := ToolCatalog.new.registerAll twoQueries
    backends := (AList.singleton "alpha" (.stdio ⟨"alpha", 0, 60⟩)).insert "beta"
      (.stdio ⟨"beta", 1, 60⟩) }

/-- The call of a tool that kept its name is forwarded, under that name. -/
theorem sentName_eq_advertised_first :
    let st := Runs.after twoQueriesGateway.step (start ⟨{}, .new {}⟩ .new ∅)
      handshake
    ∃ send ∈ sends (twoQueriesGateway.step st (.line (.message queryMessage))).2,
      ∃ origin, ToolCatalog.new.provenance (advertised twoQueries) "query" = some origin ∧
        sentName send.2.2 = some origin.tool.name := by
  intro st
  have hsends : (sends (twoQueriesGateway.step st (.line (.message queryMessage))).2).map
      (fun send => sentName send.2.2) = [some "query"] := by decide +kernel
  obtain ⟨send, hsend, -⟩ := List.map_eq_singleton_iff.mp hsends
  have hmem : send ∈ sends (twoQueriesGateway.step st (.line (.message queryMessage))).2 := by
    simp [hsend]
  have hcall : IsCall twoQueriesGateway st (.message queryMessage) (.number 7) "query"
      (some (.object [("name", .string "query")])) := ⟨⟨"2.0", rfl⟩, by decide +kernel, rfl⟩
  obtain ⟨origin, horigin, -, -, hname⟩ :=
    sentName_eq_advertised_iff twoQueries rfl hcall hmem
  refine ⟨send, hmem, origin, horigin, hname.mpr ?_⟩
  have hcollided : (ToolCatalog.new.provenance (advertised twoQueries) "query").map
      ToolCatalog.Registration.collided = some false := by decide
  simpa [horigin] using hcollided

/-- A call of the tool the catalog had to rename reaches its backend under a name
that this backend never advertised. -/
theorem sentName_not_advertised :
    let st := Runs.after twoQueriesGateway.step (start ⟨{}, .new {}⟩ .new ∅)
      handshake
    (sends (twoQueriesGateway.step st (.line (.message (callJson 8 "beta__query")))).2).map
        (fun send => (send.1, sentName send.2.2)) = [("beta", some "beta__query")] ∧
      ∀ tool, ("beta", tool) ∈ advertised twoQueries → tool.name ≠ "beta__query" := by
  refine ⟨by decide +kernel, ?_⟩
  simp [advertised, twoQueries]

end SentinelGateway.Gateway
