import SentinelGateway.Gateway.Responses

/-!
# Identifiers of forwarded calls

Each forwarded call uses up one gateway identifier, and the table that maps it
back is empty again when the call is over. So the gateway identifiers of a
session are 1, 2, 3 and so on, until the counter wraps around.
-/

namespace SentinelGateway.Gateway

variable {gw : Gateway}

/-- The identifier of an outbound body. -/
def bodyId (body : Json) : Option UInt64 := (body.get "id").bind Json.asU64

/-- The identifiers of the bodies among the effects. -/
def sentIds (effects : List Effect) : List (Option UInt64) :=
  (sends effects).map fun send => bodyId send.2.2

/-- The event is a line that asks for a tool to be called. -/
def isToolsCall (gw : Gateway) : Event → Bool
  | .replaceHotConfig _ => false
  | .line line =>
    match gw.parseRequest line with
    | .ok request => request.method = "tools/call"
    | .error _ => false

theorem isToolsCall_of_isCall {st : DispatchState} {line : InboundLine} {id : JsonRpcId}
    {name : String} {params : Option Json} (h : IsCall gw st line id name params) :
    gw.isToolsCall (.line line) = true := by
  obtain ⟨jsonrpc, hparsed⟩ := h.parsed
  simp [isToolsCall, hparsed]

/-- The remapper after `count` forwarded calls: nothing is pending, and the
identifiers up to `count` have been handed out. -/
def remapperAfter (count : ℕ) : IdRemapper :=
  { counter := UInt64.ofNat (count + 1), mappings := ∅ }

/-- A step either forwards nothing and leaves the remapper alone, or is a call and
uses the next identifier. -/
theorem remapper_step (gw : Gateway) {st : DispatchState} {count : ℕ}
    (h : st.idRemapper = remapperAfter count) (event : Event) :
    sentIds (gw.step st event).2 = [] ∧ (gw.step st event).1.idRemapper = remapperAfter count ∨
      gw.isToolsCall event = true ∧
        sentIds (gw.step st event).2 = [some (UInt64.ofNat (count + 1))] ∧
        (gw.step st event).1.idRemapper = remapperAfter (count + 1) := by
  rcases send_cases gw st event with ⟨hsilent, hsame⟩ |
    ⟨line, id, name, params, backendName, backend, rfl, hcall, -, -, -, -, hstate, hsend⟩
  · exact Or.inl ⟨by simp [sentIds, hsilent], hsame.trans h⟩
  · refine Or.inr ⟨isToolsCall_of_isCall hcall, ?_, ?_⟩
    · simp [sentIds, hsend, h, remapperAfter, bodyId, outboundRequest, Json.get, Json.lastMember,
        Json.asU64]
    · have hempty : UInt64.ofNat (count + 1) ∉ (∅ : Table UInt64 (JsonRpcId × String)) :=
        AList.notMem_empty _
      rw [hstate]
      simp only [afterCall, afterGates_idRemapper, h, remapperAfter, IdRemapper.mk.injEq]
      exact ⟨by simp, Table.erase_insert_self hempty _⟩

/-- In every session from a new remapper, the identifiers of the forwarded calls
are consecutive, and nothing is pending between two events. -/
theorem remapper_after (gw : Gateway) (hotConfig : HotConfig)
    (circuitBreakers : Table String CircuitBreaker) (events : List Event) :
    ∃ count ≤ events.countP gw.isToolsCall,
      (Runs.after gw.step (start hotConfig .new circuitBreakers) events).idRemapper =
        remapperAfter count ∧
      (Runs.outputs gw.step (start hotConfig .new circuitBreakers) events).flatMap sentIds =
        (List.range' 1 count).map fun i => some (UInt64.ofNat i) := by
  refine Runs.run_induction gw.step (motive := fun events st outputs =>
    ∃ count ≤ events.countP gw.isToolsCall, st.idRemapper = remapperAfter count ∧
      outputs.flatMap sentIds = (List.range' 1 count).map fun i => some (UInt64.ofNat i))
    ⟨0, Nat.zero_le _, rfl, rfl⟩ ?_ events
  rintro events event ⟨count, hle, hremapper, hids⟩
  rcases remapper_step gw hremapper event with ⟨hsilent, hsame⟩ | ⟨hcall, hsent, hnext⟩
  · refine ⟨count, ?_, hsame, ?_⟩
    · rw [List.countP_append]
      omega
    · simp [List.flatMap_append, hids, hsilent]
  · refine ⟨count + 1, ?_, hnext, ?_⟩
    · rw [List.countP_append, List.countP_singleton, if_pos hcall]
      omega
    · rw [List.flatMap_append, hids, List.range'_1_concat, List.map_append]
      simp [hsent, Nat.add_comm]

/-- Identifiers are kept: every `tools/call` with an identifier is answered once
and under it, the identifiers of the forwarded bodies increase strictly, and no
event changes the number of pending identifiers. -/
structure KeepsIds (gw : Gateway) (initial : DispatchState) (events : List Event) : Prop where
  answered : ∀ before line rest, events = before ++ .line line :: rest →
    ∀ jsonrpc id params,
      gw.parseRequest line = .ok { jsonrpc, id := some id, method := "tools/call", params } →
      ∃ response, responses (gw.step (Runs.after gw.step initial before) (.line line)).2 =
        [response] ∧ response.id = id
  increasing : ∃ ids : List UInt64, ids.Pairwise (· < ·) ∧
    (Runs.outputs gw.step initial events).flatMap sentIds = ids.map some
  pending_eq : ∀ before event rest, events = before ++ event :: rest →
    (gw.step (Runs.after gw.step initial before) event).1.idRemapper.pendingCount =
      (Runs.after gw.step initial before).idRemapper.pendingCount

/-- A line that asks for a call is answered under its identifier in every state. -/
theorem response_of_toolsCall {st : DispatchState} {line : InboundLine} {jsonrpc : String}
    {id : JsonRpcId} {params : Option Json} (hparsed : gw.parseRequest line =
      .ok { jsonrpc, id := some id, method := "tools/call", params }) :
    ∃ response, responses (gw.step st (.line line)).2 = [response] ∧ response.id = id := by
  have hids : (responses (gw.step st (.line line)).2).map JsonRpcResponse.id = [id] := by
    rw [(ids_eq_iff gw st (.line line)).mpr, expectedIds_of_parsed hparsed]
    · rfl
    · rw [misanswers_iff_of_parsed hparsed]
      simp
  obtain ⟨response, heq, hid⟩ := List.map_eq_singleton_iff.mp hids
  exact ⟨response, heq, hid⟩

/-- Consecutive identifiers increase strictly as long as they fit. -/
theorem pairwise_ofNat_range' {count : ℕ} (h : count < 2 ^ 64) :
    ((List.range' 1 count).map UInt64.ofNat).Pairwise (· < ·) := by
  rw [List.pairwise_map]
  refine (List.pairwise_lt_range' (s := 1) (n := count)).imp_of_mem ?_
  intro i j hi hj hlt
  have hbound := (List.mem_range'_1.mp hj).2
  rw [UInt64.lt_iff_toNat_lt, UInt64.toNat_ofNat', UInt64.toNat_ofNat',
    Nat.mod_eq_of_lt (by omega), Nat.mod_eq_of_lt (by omega)]
  exact hlt

/-- **Identifiers.** Every session with fewer than 2^64 calls keeps its identifiers. -/
theorem keepsIds (gw : Gateway) (hotConfig : HotConfig)
    (circuitBreakers : Table String CircuitBreaker) (events : List Event)
    (h : events.countP gw.isToolsCall < 2 ^ 64) :
    KeepsIds gw (start hotConfig .new circuitBreakers) events where
  answered := fun _ _ _ _ _ _ _ hparsed => response_of_toolsCall hparsed
  increasing := by
    obtain ⟨count, hle, -, hids⟩ := remapper_after gw hotConfig circuitBreakers events
    refine ⟨_, pairwise_ofNat_range' (lt_of_le_of_lt hle h), ?_⟩
    rw [hids, List.map_map]
    rfl
  pending_eq := by
    intro before event rest _
    obtain ⟨count, -, hremapper, -⟩ := remapper_after gw hotConfig circuitBreakers before
    rcases remapper_step gw hremapper event with ⟨-, hsame⟩ | ⟨-, -, hnext⟩
    · rw [hsame, hremapper]
    · rw [hnext, hremapper]
      rfl

/-- A session with one forwarded call, to which the backend answers under an
identifier of its own choice. -/
theorem keepsIds_foreign_response :
    let gw := { bare (.ofValues (handshakeMessages ++ [queryMessage, resultJson 99])) with
      catalog := ToolCatalog.new.registerBackend "db" [⟨"query", none, [], []⟩]
      backends := AList.singleton "db" (.stdio ⟨"db", 0, 60⟩) }
    let initial := start ⟨{}, .new {}⟩ .new ∅
    let events := handshake ++ [.line (.answered queryMessage (resultJson 99))]
    KeepsIds gw initial events ∧
      (Runs.outputs gw.step initial events).flatMap sentIds = [some 1] ∧
      ((Runs.outputs gw.step initial events).flatMap responses).map JsonRpcResponse.id =
        [.number 1, .number 7] := by
  intro gw initial events
  exact ⟨keepsIds gw ⟨{}, .new {}⟩ ∅ events (by decide +kernel), by decide +kernel,
    by decide +kernel⟩

end SentinelGateway.Gateway
