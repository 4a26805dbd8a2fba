import SentinelGateway.Gateway.Identifiers

/-!
# What a stdio child gets to read

A child first goes through `discover_stdio_tools`, whose two requests carry fixed
identifiers, and then gets the calls that the session forwards to it, whose
identifiers come from the counter of the session. The counter starts at 1 as well.
-/

namespace SentinelGateway

/-- The parameters of the `initialize` request of `discover_stdio_tools`, and the request. -/
def discoveryParams : Json :=
  .object [("protocolVersion", .string "2025-03-26"), ("capabilities", .object []),
    ("clientInfo", .object [("name", .string "sentinel-gateway"), ("version", .string "0.1.0")])]

def discoveryInitialize : Json :=
  .object [("jsonrpc", .string "2.0"), ("id", .number (.posInt 1)),
    ("method", .string "initialize"), ("params", discoveryParams)]

/-- The notification that follows it. -/
def discoveryInitialized : Json :=
  .object [("jsonrpc", .string "2.0"), ("method", .string "notifications/initialized")]

/-- The `tools/list` request of `discover_stdio_tools`. -/
def discoveryToolsList : Json :=
  .object [("jsonrpc", .string "2.0"), ("id", .number (.posInt 2)),
    ("method", .string "tools/list")]

/-- The messages of `discover_stdio_tools`, in the order they are sent. -/
def discoveryMessages : List Json :=
  [discoveryInitialize, discoveryInitialized, discoveryToolsList]

namespace Gateway

/-- A call that a session forwards: the backend, the body, and whether the body would be
queued for the child if the backend is one. -/
structure ForwardedCall where
  backend : Backend
  body : Json
  queued : Bool

/-- A call made during the event gets its body into the queue of a child:
`StdioBackend::send` says that stdin is closed exactly if it did not queue the body. -/
def queuesBody : Event → Bool
  | .line line =>
    match line.outcome with
    | .error .stdinClosed => false
    | _ => true
  | .replaceHotConfig _ => false

/-- The calls that a session forwards, in order. -/
def forwardedCalls (gw : Gateway) (initial : DispatchState) (events : List Event) :
    List ForwardedCall :=
  (events.zip (Runs.outputs gw.step initial events)).flatMap fun processed =>
    (sends processed.2).map fun send => ⟨send.2.1, send.2.2, queuesBody processed.1⟩

/-- The body of a call that is queued for the child. -/
def bodyFor (child : StdioBackend) (call : ForwardedCall) : Option Json :=
  if call.backend = .stdio child ∧ call.queued then some call.body else none

/-- The messages queued for the stdin writer of a child in its lifetime: those of its
discovery and the bodies that a session sends to it. -/
def childMessages (gw : Gateway) (initial : DispatchState) (events : List Event)
    (child : StdioBackend) : List Json :=
  discoveryMessages ++ (gw.forwardedCalls initial events).filterMap (bodyFor child)

/-- The identifiers of the requests among messages. Notifications have none. -/
def requestIds (messages : List Json) : List UInt64 := messages.filterMap bodyId

/-- The call at this place among the forwarded ones is queued for the child. -/
def QueuedAt (calls : List ForwardedCall) (child : StdioBackend) (k : ℕ) : Prop :=
  ∃ call, calls[k]? = some call ∧ call.backend = .stdio child ∧ call.queued = true

/-- Counting the forwarded calls of a session modulo 2^64, those queued for the child are
never the first or the second, and no two of them have the same number. -/
structure AvoidsReuse (calls : List ForwardedCall) (child : StdioBackend) : Prop where
  reserved : ∀ k, QueuedAt calls child k → (k + 1) % 2 ^ 64 ≠ 1 ∧ (k + 1) % 2 ^ 64 ≠ 2
  distinct : ∀ j k, j < k → QueuedAt calls child j → QueuedAt calls child k →
    (j + 1) % 2 ^ 64 ≠ (k + 1) % 2 ^ 64

/-- The identifier of a call that is queued for the child. -/
def idFor (child : StdioBackend) (call : ForwardedCall) : Option UInt64 :=
  (bodyFor child call).bind bodyId

/-- The discovery uses the identifiers 1 and 2. -/
theorem requestIds_childMessages (gw : Gateway) (initial : DispatchState) (events : List Event)
    (child : StdioBackend) :
    requestIds (gw.childMessages initial events child) = [1, 2] ++
      (gw.forwardedCalls initial events).filterMap (idFor child) := by
  rw [requestIds, childMessages, List.filterMap_append, List.filterMap_filterMap]
  rfl

theorem ofNat_eq_ofNat_iff (m n : ℕ) :
    UInt64.ofNat m = UInt64.ofNat n ↔ m % 2 ^ 64 = n % 2 ^ 64 := by
  rw [← UInt64.toNat_inj, UInt64.toNat_ofNat', UInt64.toNat_ofNat']

/-- The forwarded calls are the sends of the session. -/
theorem bodyIds_forwardedCalls (gw : Gateway) (initial : DispatchState) (events : List Event) :
    (gw.forwardedCalls initial events).map (fun call => bodyId call.body) =
      (Runs.outputs gw.step initial events).flatMap sentIds := by
  induction events generalizing initial with
  | nil => rfl
  | cons event events ih =>
    have hrest := ih (gw.step initial event).1
    rw [forwardedCalls] at hrest ⊢
    rw [Runs.outputs_cons, List.zip_cons_cons, List.flatMap_cons, List.map_append, hrest,
      List.flatMap_cons, List.map_map]
    rfl

/-- The identifiers of the forwarded calls count them. -/
theorem bodyId_of_forwarded (gw : Gateway) (hotConfig : HotConfig)
    (circuitBreakers : Table String CircuitBreaker) (events : List Event) {k : ℕ}
    {call : ForwardedCall}
    (h : (gw.forwardedCalls (start hotConfig .new circuitBreakers) events)[k]? = some call) :
    bodyId call.body = some (UInt64.ofNat (k + 1)) := by
  obtain ⟨count, -, -, hids⟩ := remapper_after gw hotConfig circuitBreakers events
  have hmap := (bodyIds_forwardedCalls gw (start hotConfig .new circuitBreakers) events).trans hids
  have hget := congrArg (fun ids => ids[k]?) hmap
  simp only [List.getElem?_map, h, Option.map_some] at hget
  obtain ⟨i, hi, hid⟩ := Option.map_eq_some_iff.mp hget.symm
  obtain ⟨hk, heq⟩ := List.getElem?_eq_some_iff.mp hi
  rw [List.getElem_range'] at heq
  rw [← hid, ← heq]
  simp [Nat.add_comm]

section Counted

variable {calls : List ForwardedCall} (child : StdioBackend)

/-- The calls queued for the child and their identifiers, by their place among the
forwarded ones. -/
theorem idFor_getElem_iff
    (hbody : ∀ k call, calls[k]? = some call → bodyId call.body = some (UInt64.ofNat (k + 1)))
    (k : ℕ) (id : UInt64) :
    calls[k]?.bind (idFor child) = some id ↔
      QueuedAt calls child k ∧ id = UInt64.ofNat (k + 1) := by
  rw [QueuedAt, Option.bind_eq_some_iff]
  constructor
  · rintro ⟨call, hcall, hid⟩
    by_cases hchild : call.backend = .stdio child ∧ call.queued = true
    · have heq : some (UInt64.ofNat (k + 1)) = some id := by
        simpa [idFor, bodyFor, hchild, hbody k call hcall] using hid
      exact ⟨⟨call, hcall, hchild⟩, (Option.some.inj heq).symm⟩
    · simp [idFor, bodyFor, hchild] at hid
  · rintro ⟨⟨call, hcall, hchild⟩, rfl⟩
    exact ⟨call, hcall, by simp [idFor, bodyFor, hchild, hbody k call hcall]⟩

/-- No identifier is used twice exactly if no two calls queued for the child have the same
number. -/
theorem nodup_ids_iff
    (hbody : ∀ k call, calls[k]? = some call → bodyId call.body = some (UInt64.ofNat (k + 1))) :
    (calls.filterMap (idFor child)).Nodup ↔
      ∀ j k, j < k → QueuedAt calls child j → QueuedAt calls child k →
        (j + 1) % 2 ^ 64 ≠ (k + 1) % 2 ^ 64 := by
  rw [List.Nodup, List.pairwise_filterMap, List.pairwise_iff_getElem]
  constructor
  · intro hnodup j k hjk hj hk
    obtain ⟨first, hfirst, hfirstId⟩ := Option.bind_eq_some_iff.mp
      ((idFor_getElem_iff child hbody j _).mpr ⟨hj, rfl⟩)
    obtain ⟨second, hsecond, hsecondId⟩ := Option.bind_eq_some_iff.mp
      ((idFor_getElem_iff child hbody k _).mpr ⟨hk, rfl⟩)
    obtain ⟨hjlt, rfl⟩ := List.getElem?_eq_some_iff.mp hfirst
    obtain ⟨hklt, rfl⟩ := List.getElem?_eq_some_iff.mp hsecond
    have hne := hnodup j k hjlt hklt hjk _ hfirstId _ hsecondId
    rwa [ne_eq, ofNat_eq_ofNat_iff] at hne
  · intro hdistinct j k hjlt hklt hjk id hid id' hid'
    obtain ⟨hj, rfl⟩ := (idFor_getElem_iff child hbody j id).mp (by simp [hjlt, hid])
    obtain ⟨hk, rfl⟩ := (idFor_getElem_iff child hbody k id').mp (by simp [hklt, hid'])
    rw [ne_eq, ofNat_eq_ofNat_iff]
    exact hdistinct j k hjk hj hk

/-- An identifier is used for the child exactly if a call queued for it has that number. -/
theorem mem_ids_iff
    (hbody : ∀ k call, calls[k]? = some call → bodyId call.body = some (UInt64.ofNat (k + 1)))
    (n : ℕ) :
    UInt64.ofNat n ∈ calls.filterMap (idFor child) ↔
      ∃ k, QueuedAt calls child k ∧ n % 2 ^ 64 = (k + 1) % 2 ^ 64 := by
  constructor
  · intro hmem
    obtain ⟨call, hcall, hid⟩ := List.mem_filterMap.mp hmem
    obtain ⟨k, hk⟩ := List.mem_iff_getElem?.mp hcall
    obtain ⟨hqueued, heq⟩ := (idFor_getElem_iff child hbody k _).mp (by rw [hk]; exact hid)
    exact ⟨k, hqueued, (ofNat_eq_ofNat_iff _ _).mp heq⟩
  · rintro ⟨k, hqueued, heq⟩
    obtain ⟨call, hcall, hid⟩ := Option.bind_eq_some_iff.mp ((idFor_getElem_iff child hbody k
      (UInt64.ofNat n)).mpr ⟨hqueued, (ofNat_eq_ofNat_iff _ _).mpr heq⟩)
    exact List.mem_filterMap.mpr ⟨call, List.mem_of_getElem? hcall, hid⟩

end Counted

/-- **Request identifiers of a child.** The requests queued for a child in its lifetime
carry distinct identifiers exactly if the calls of the session avoid reuse: none that is
queued for the child may be the first or the second to be forwarded. -/
theorem nodup_requestIds_iff (gw : Gateway) (hotConfig : HotConfig)
    (circuitBreakers : Table String CircuitBreaker) (events : List Event)
    (child : StdioBackend) :
    (requestIds (gw.childMessages (start hotConfig .new circuitBreakers) events child)).Nodup ↔
      AvoidsReuse (gw.forwardedCalls (start hotConfig .new circuitBreakers) events) child := by
  have hbody := @bodyId_of_forwarded gw hotConfig circuitBreakers events
  rw [requestIds_childMessages]
  generalize gw.forwardedCalls (start hotConfig .new circuitBreakers) events = calls at hbody ⊢
  have hused := mem_ids_iff child fun k call => @hbody k call
  have hdistinct := nodup_ids_iff child fun k call => @hbody k call
  rw [List.nodup_append]
  constructor
  · rintro ⟨-, hnodup, hdisjoint⟩
    refine ⟨?_, hdistinct.mp hnodup⟩
    intro k hk
    refine ⟨?_, ?_⟩
    · intro heq
      exact hdisjoint 1 (by simp) 1 ((hused 1).mpr ⟨k, hk, heq.symm⟩) rfl
    · intro heq
      exact hdisjoint 2 (by simp) 2 ((hused 2).mpr ⟨k, hk, heq.symm⟩) rfl
  · intro h
    refine ⟨by decide, hdistinct.mpr h.distinct, ?_⟩
    rintro reserved hreserved id hmem rfl
    have hcases : reserved = UInt64.ofNat 1 ∨ reserved = UInt64.ofNat 2 := by
      simpa using hreserved
    rcases hcases with rfl | rfl
    · obtain ⟨k, hk, heq⟩ := (hused 1).mp hmem
      exact (h.reserved k hk).1 heq.symm
    · obtain ⟨k, hk, heq⟩ := (hused 2).mp hmem
      exact (h.reserved k hk).2 heq.symm

/-- The first call of a session goes to the only child, which has seen its identifier
in its discovery, and the child answers it. -/
theorem not_nodup_requestIds_first_call :
    let gw := { bare (.ofValues (handshakeMessages ++ [queryMessage, resultJson 1])) with
      catalog := ToolCatalog.new.registerBackend "db" [⟨"query", none, [], []⟩]
      backends := AList.singleton "db" (.stdio ⟨"db", 0, 60⟩) }
    let initial := start ⟨{}, .new {}⟩ .new ∅
    let events := handshake ++ [.line (.answered queryMessage (resultJson 1))]
    ((Runs.outputs gw.step initial events).flatMap responses).map JsonRpcResponse.id =
        [.number 1, .number 7] ∧
      requestIds (gw.childMessages initial events ⟨"db", 0, 60⟩) = [1, 2, 1] ∧
      ¬(requestIds (gw.childMessages initial events ⟨"db", 0, 60⟩)).Nodup := by
  intro gw initial events
  have hids : requestIds (gw.childMessages initial events ⟨"db", 0, 60⟩) = [1, 2, 1] := by
    decide +kernel
  refine ⟨by decide +kernel, hids, ?_⟩
  rw [hids]
  decide

end Gateway

end SentinelGateway
