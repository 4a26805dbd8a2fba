import SentinelGateway.Gateway.Outcomes

/-!
# Listed tools and callable tools

`tools/list` filters tool definitions, `tools/call` asks gates about a string.
The two agree because a catalog holds every tool under the name in its
definition, and because whoever may execute a tool may read it.
-/

namespace SentinelGateway

/-- The right to execute includes the right to read. -/
theorem isToolAllowed_read_of_execute {role name : String} {rbac : RbacConfig}
    (h : isToolAllowed role name .execute rbac = true) :
    isToolAllowed role name .read rbac = true := by
  unfold isToolAllowed at h ⊢
  cases hrole : rbac.roles.lookup role with
  | none => simp [hrole] at h
  | some roleConfig =>
    simp only [hrole, Permission.requiredPermissionStr] at h ⊢
    split_ifs at h ⊢ <;> simp_all

/-- A role that may read a tool and not execute it has no right to execute any. -/
theorem no_execute_of_read {role name : String} {rbac : RbacConfig}
    (hread : isToolAllowed role name .read rbac = true)
    (hexecute : isToolAllowed role name .execute rbac = false) {roleConfig : RoleConfig}
    (hrole : rbac.roles.lookup role = some roleConfig) :
    "*" ∉ roleConfig.permissions ∧ "tools.execute" ∉ roleConfig.permissions := by
  unfold isToolAllowed at hread hexecute
  simp only [hrole, Permission.requiredPermissionStr] at hread hexecute
  split_ifs at hread hexecute <;> simp_all

namespace Gateway

variable {gw : Gateway} {st : DispatchState} {line : InboundLine} {id : JsonRpcId}
  {name : String} {params : Option Json}

/-- The name routes to an enabled backend, and it is enabled and readable itself. -/
structure Listable (gw : Gateway) (killSwitch : KillSwitchConfig) (name : String) : Prop where
  routed : ∃ backendName, gw.catalog.route name = some backendName ∧
    backendName ∉ killSwitch.disabledBackends
  enabled : name ∉ killSwitch.disabledTools
  readable : isToolAllowed gw.identity.role name .read gw.rbacConfig = true

/-- The names of the listed tools. -/
def listedNames (gw : Gateway) (killSwitch : KillSwitchConfig) : List String :=
  (gw.listedTools killSwitch).map Tool.name

/-- The filter of `tools/list`, as a question about a name. -/
def shows (gw : Gateway) (killSwitch : KillSwitchConfig) (name : String) : Bool :=
  if name ∈ killSwitch.disabledTools then false
  else if ∃ backend ∈ gw.catalog.route name, backend ∈ killSwitch.disabledBackends then false
  else isToolAllowed gw.identity.role name .read gw.rbacConfig

theorem shows_iff (gw : Gateway) (killSwitch : KillSwitchConfig) (name : String) :
    gw.shows killSwitch name = true ↔ name ∉ killSwitch.disabledTools ∧
      (∀ backendName, gw.catalog.route name = some backendName →
        backendName ∉ killSwitch.disabledBackends) ∧
      isToolAllowed gw.identity.role name .read gw.rbacConfig = true := by
  unfold shows
  by_cases htool : name ∈ killSwitch.disabledTools
  · simp [htool]
  · by_cases hbackend : ∃ backend ∈ gw.catalog.route name, backend ∈ killSwitch.disabledBackends
    · rw [if_neg htool, if_pos hbackend]
      obtain ⟨backend, hroute, hdisabled⟩ := hbackend
      simp only [Bool.false_eq_true, false_iff]
      intro h
      exact h.2.1 backend hroute hdisabled
    · rw [if_neg htool, if_neg hbackend]
      have henabled : ∀ backendName, gw.catalog.route name = some backendName →
          backendName ∉ killSwitch.disabledBackends :=
        fun backendName hroute hdisabled => hbackend ⟨backendName, hroute, hdisabled⟩
      exact ⟨fun hreadable => ⟨htool, henabled, hreadable⟩, fun h => h.2.2⟩

variable {backends : List (String × List Tool)}

/-- The listed names of a registered catalog are the keys that the filter shows. -/
theorem listedNames_eq (hcatalog : gw.catalog = ToolCatalog.new.registerAll backends)
    (killSwitch : KillSwitchConfig) :
    gw.listedNames killSwitch = gw.catalog.tools.keys.filter (gw.shows killSwitch) := by
  have hkeys : gw.catalog.allTools.map Tool.name = gw.catalog.tools.keys := by
    rw [hcatalog]
    exact ToolCatalog.map_name_allTools backends
  rw [← hkeys, List.filter_map]
  rfl

theorem mem_listedNames_iff (hcatalog : gw.catalog = ToolCatalog.new.registerAll backends)
    (killSwitch : KillSwitchConfig) (name : String) :
    name ∈ gw.listedNames killSwitch ↔ Listable gw killSwitch name := by
  rw [listedNames_eq hcatalog, List.mem_filter, shows_iff, ← AList.mem_keys,
    ← ToolCatalog.route_isSome_iff, Option.isSome_iff_exists]
  constructor
  · rintro ⟨⟨backendName, hroute⟩, henabled, hbackends, hreadable⟩
    exact ⟨⟨backendName, hroute, hbackends backendName hroute⟩, henabled, hreadable⟩
  · rintro ⟨⟨backendName, hroute, hbackend⟩, henabled, hreadable⟩
    refine ⟨⟨backendName, hroute⟩, henabled, ?_, hreadable⟩
    intro other hother
    obtain rfl : backendName = other := by simpa [hroute] using hother
    exact hbackend

theorem nodup_listedNames (hcatalog : gw.catalog = ToolCatalog.new.registerAll backends)
    (killSwitch : KillSwitchConfig) : (gw.listedNames killSwitch).Nodup := by
  rw [listedNames_eq hcatalog]
  exact gw.catalog.tools.keys_nodup.filter _

/-- A call that is answered without being sent gets the answer of a gate, or one
of the errors of `handle_tools_call`. -/
theorem own_answer_cases (hcall : IsCall gw st line id name params) {response : JsonRpcResponse}
    (hmem : response ∈ responses (gw.step st (.line line)).2)
    (hsilent : sends (gw.step st (.line line)).2 = []) :
    (∃ rejection, (gw.passGates st line name params).2 = some rejection ∧
        response = rejection.response id) ∨
      ∃ code message, response = .failure id code message ∧
        (code = invalidParamsCode ∨ code = internalErrorCode) := by
  rw [step_of_isCall hcall] at hmem hsilent
  rcases toolsCall_eq gw st line id params with ⟨called, rejection, hname, hpass, heq⟩ | ⟨-, heq⟩
  · obtain rfl : name = called := by simpa [hcall.named] using hname
    rw [heq, responses_reject, List.mem_singleton] at hmem
    exact Or.inl ⟨rejection, hpass, hmem⟩
  · right
    obtain ⟨-, hresponses, hsends⟩ :=
      backendDispatch_spec gw (gw.gated st line params) line id params
    rw [heq] at hmem hsilent
    rw [hsends] at hsilent
    rw [hresponses] at hmem
    rcases handleToolsCall_cases gw (gw.gated st line params) line id params with
      ⟨code, message, hhandle, hmissing⟩ |
      ⟨called, backendName, backend, other, -, -, -, -, hhandle⟩
    · rw [hhandle] at hmem
      obtain rfl : response = .failure id code message := by simpa using hmem
      have hresponse := handleToolsCall_response gw (gw.gated st line params) line id params
      rw [hhandle] at hresponse
      unfold callResponse at hresponse
      simp only [hcall.named] at hresponse
      refine ⟨code, message, rfl, ?_⟩
      cases hroute : gw.catalog.route name with
      | none =>
        simp only [hroute, JsonRpcResponse.failure, JsonRpcResponse.mk.injEq, Option.some.injEq,
          JsonRpcError.mk.injEq] at hresponse
        exact Or.inl hresponse.2.2.2.1
      | some backendName =>
        rw [hroute] at hresponse
        simp only [hmissing name backendName hcall.named hroute, JsonRpcResponse.failure,
          JsonRpcResponse.mk.injEq, Option.some.injEq, JsonRpcError.mk.injEq] at hresponse
        exact Or.inr hresponse.2.2.2.1
    · rw [hhandle] at hsilent
      simp [sends, Effect.send?] at hsilent

/-- A listed tool passes the kill switch. -/
theorem killSwitchGate_of_listable {killSwitch : KillSwitchConfig}
    (h : Listable gw killSwitch name) : gw.killSwitchGate killSwitch name = none := by
  rw [killSwitchGate_eq_none_iff]
  refine ⟨h.enabled, ?_⟩
  intro other hother
  obtain ⟨backendName, hroute, henabled⟩ := h.routed
  obtain rfl : backendName = other := by simpa [hroute] using hother
  exact henabled

/-- A routed tool that passes the kill switch and the permissions is listed. -/
theorem listable_of_gates {killSwitch : KillSwitchConfig}
    (hroute : (gw.catalog.route name).isSome) (hkill : gw.killSwitchGate killSwitch name = none)
    (hrole : gw.rbacGate name = none) : Listable gw killSwitch name := by
  obtain ⟨backendName, hbackend⟩ := Option.isSome_iff_exists.mp hroute
  obtain ⟨henabled, hbackends⟩ := (killSwitchGate_eq_none_iff killSwitch).mp hkill
  exact ⟨⟨backendName, hbackend, hbackends backendName hbackend⟩, henabled,
    isToolAllowed_read_of_execute (rbacGate_eq_none_iff.mp hrole)⟩

/-- The gateway's own answer to a call of a listed tool is not that of the kill
switch, and that of the permissions only if the role has no right to execute. -/
theorem own_answer_of_listable (hcall : IsCall gw st line id name params)
    (h : Listable gw st.hotConfig.killSwitch name) {response : JsonRpcResponse}
    (hmem : response ∈ responses (gw.step st (.line line)).2)
    (hsilent : sends (gw.step st (.line line)).2 = []) {error : JsonRpcError}
    (herror : response.error = some error) :
    error.code ≠ killSwitchErrorCode ∧ (error.code = authzErrorCode →
      ∀ roleConfig, gw.rbacConfig.roles.lookup gw.identity.role = some roleConfig →
        "*" ∉ roleConfig.permissions ∧ "tools.execute" ∉ roleConfig.permissions) := by
  rcases own_answer_cases hcall hmem hsilent with ⟨rejection, hpass, rfl⟩ |
    ⟨code, message, rfl, hcode⟩
  · have hcode : error.code = rejection.code := by
      unfold Rejection.response at herror
      split at herror
      · rw [← Option.some.inj herror]
      · rw [← Option.some.inj herror]
    rw [hcode]
    -- a code belongs to one gate, so only the gate of the permissions gives theirs
    have hother (status : CallStatus) (hreports : rejection.Reports gw name status)
        (hkilled : status.code ≠ some killSwitchErrorCode)
        (hdenied : status.code ≠ some authzErrorCode) :
        rejection.code ≠ killSwitchErrorCode ∧ (rejection.code = authzErrorCode →
          ∀ roleConfig, gw.rbacConfig.roles.lookup gw.identity.role = some roleConfig →
            "*" ∉ roleConfig.permissions ∧ "tools.execute" ∉ roleConfig.permissions) :=
      ⟨hreports.code_ne hkilled, fun hauthz => absurd hauthz (hreports.code_ne hdenied)⟩
    have hcase := passGates_cases gw st line name params
    generalize gw.passGates st line name params = result at hcase hpass
    cases hcase with
    | killed other gate =>
      rw [killSwitchGate_of_listable h] at gate
      cases gate
    | rateLimited other enabled gate =>
      exact hother _ (reports_of_rateLimitGate (gate.trans hpass)) (by decide) (by decide)
    | denied other enabled rate_ok gate =>
      refine ⟨(reports_of_rbacGate (gate.trans hpass)).code_ne (by decide), ?_⟩
      intro _ roleConfig hroleConfig
      refine no_execute_of_read h.readable ?_ hroleConfig
      cases hallowed : isToolAllowed gw.identity.role name .execute gw.rbacConfig with
      | false => rfl
      | true =>
        rw [rbacGate_eq_none_iff.mpr hallowed] at gate
        cases gate
    | invalidArgs other enabled rate_ok gate =>
      exact hother _ (reports_of_schemaGate (gate.trans hpass)) (by decide) (by decide)
    | circuit policy => exact hother _ (reports_of_circuitGate hpass) (by decide) (by decide)
  · have heq : error.code = code := by
      rw [← Option.some.inj herror]
    rw [heq]
    rcases hcode with rfl | rfl <;> exact ⟨by decide, fun hauthz => absurd hauthz (by decide)⟩

/-- **Listing and calling agree.** The answer to `tools/list` holds the tools whose
names are listable, each once. A call of a routed name that passes the kill switch
and the permissions is a call of a listed tool. A call of a listed tool gets no
answer of the kill switch from the gateway, and one of the permissions only if the
role may execute nothing. -/
theorem listing_agrees_with_calls (gw : Gateway) (backends : List (String × List Tool))
    (hcatalog : gw.catalog = ToolCatalog.new.registerAll backends) (st : DispatchState) :
    (∀ line request id, Accepts gw st line request → request.method = "tools/list" →
      request.id = some id → responses (gw.step st (.line line)).2 = [.success id
        (.object [("tools", .array ((gw.listedTools st.hotConfig.killSwitch).map toolJson))])]) ∧
    (∀ name, name ∈ (gw.listedTools st.hotConfig.killSwitch).map Tool.name ↔
      Listable gw st.hotConfig.killSwitch name) ∧
    (∀ name ∈ (gw.listedTools st.hotConfig.killSwitch).map Tool.name,
      ((gw.listedTools st.hotConfig.killSwitch).map Tool.name).count name = 1) ∧
    (∀ line id name params, IsCall gw st line id name params →
      (gw.catalog.route name).isSome →
      gw.killSwitchGate st.hotConfig.killSwitch name = none → gw.rbacGate name = none →
      name ∈ (gw.listedTools st.hotConfig.killSwitch).map Tool.name) ∧
    ∀ line id name params, IsCall gw st line id name params →
      name ∈ (gw.listedTools st.hotConfig.killSwitch).map Tool.name →
      gw.killSwitchGate st.hotConfig.killSwitch name = none ∧
      ∀ response ∈ responses (gw.step st (.line line)).2,
        sends (gw.step st (.line line)).2 = [] → ∀ error, response.error = some error →
          error.code ≠ killSwitchErrorCode ∧ (error.code = authzErrorCode →
            ∀ roleConfig, gw.rbacConfig.roles.lookup gw.identity.role = some roleConfig →
              "*" ∉ roleConfig.permissions ∧ "tools.execute" ∉ roleConfig.permissions) := by
  have hmem (name : String) := mem_listedNames_iff hcatalog st.hotConfig.killSwitch name
  refine ⟨?_, hmem, ?_, ?_, ?_⟩
  · intro line request id haccepts hmethod hid
    have hstep : gw.step st (.line line) = (st, answer request fun id =>
        .success id (gw.toolsList st.hotConfig.killSwitch)) := by
      rw [step_of_accepts haccepts, dispatch, if_neg (by simp [hmethod]),
        if_neg (by simp [hmethod]), if_pos hmethod]
    rw [hstep, responses_answer, hid]
    rfl
  · intro name hname
    exact List.count_eq_one_of_mem (nodup_listedNames hcatalog _) hname
  · intro line id name params _ hroute hkill hrole
    exact (hmem name).mpr (listable_of_gates hroute hkill hrole)
  · intro line id name params hcall hname
    have hlistable := (hmem name).mp hname
    refine ⟨killSwitchGate_of_listable hlistable, ?_⟩
    intro response hresponse hsilent error herror
    exact own_answer_of_listable hcall hlistable hresponse hsilent herror

/-- Two backends advertise the same tool. The role is denied the one that kept its
name and sees the other one. -/
theorem listing_agrees_with_calls_denied :
    let gw := { bare (.ofValues []) with
      catalog := ToolCatalog.new.registerAll
        [("alpha", [⟨"query", none, [], []⟩]), ("beta", [⟨"query", none, [], []⟩])]
      rbacConfig := ⟨AList.singleton "admin" ⟨["tools.execute"], ["query"]⟩⟩ }
    Listable gw {} "beta__query" ∧ ¬Listable gw {} "query" := by
  intro gw
  have hagree := listing_agrees_with_calls gw _ rfl (start ⟨{}, .new {}⟩ .new ∅)
  exact ⟨(hagree.2.1 "beta__query").mp (by decide),
    fun h => absurd ((hagree.2.1 "query").mpr h) (by decide)⟩

end Gateway

end SentinelGateway
