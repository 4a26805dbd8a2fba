import SentinelGateway.Gateway.Outbound
import SentinelGateway.Gateway.Responses

/-!
# What survives the passage through the gateway

Requests and replies are read into records and written again. The records hold an
identifier that is a string or a `u64`, and an error code that is an `i32`; what does
not fit is not read at all. Within these types the identifier of a request comes
back with its response, and a reply reaches the client with the same result, or with
the same code, message and data.
-/

namespace SentinelGateway

/-- An integer literal as `serde_json` reads it: one that fits neither `u64` nor `i64`
becomes a floating-point number. -/
def Number.ofInt (n : ℤ) : Number :=
  if 0 ≤ n ∧ n < 2 ^ 64 then .posInt (UInt64.ofNat n.toNat)
  else if -2 ^ 63 ≤ n ∧ n < 0 then .negInt n
  else .float n 0

theorem Number.ofInt_injective : Function.Injective Number.ofInt := by
  intro m n h
  unfold ofInt at h
  split_ifs at h with hm hn hn hm hn
  · have hnat := congrArg UInt64.toNat (Number.posInt.inj h)
    rw [UInt64.toNat_ofNat_of_lt' (by rw [UInt64.size]; omega),
      UInt64.toNat_ofNat_of_lt' (by rw [UInt64.size]; omega)] at hnat
    omega
  · exact Number.negInt.inj h
  · exact (Number.float.inj h).1

/-- What a JSON-RPC response conveys: a result, or an error. -/
inductive Payload where
  | result (value : Json)
  | error (code : ℤ) (message : String) (data : Option Json)

namespace Payload

/-- The members of a response object carry the payload. -/
def InMembers (members : List (String × Json)) : Payload → Prop
  | .result value =>
    Json.uniqueField "result" members = some (some value) ∧
      Json.uniqueField "error" members = some none
  | .error code message data =>
    Json.uniqueField "result" members = some none ∧
      ∃ error, Json.uniqueField "error" members = some (some (.object error)) ∧
        Json.uniqueField "code" error = some (some (.number (.ofInt code))) ∧
        Json.uniqueField "message" error = some (some (.string message)) ∧
        Json.uniqueField "data" error = some data

/-- The value is a JSON-RPC 2.0 response with the identifier and the payload. -/
def IsResponse (payload : Payload) (id v : Json) : Prop :=
  ∃ members, v = .object members ∧
    Json.uniqueField "jsonrpc" members = some (some (.string "2.0")) ∧
    Json.uniqueField "id" members = some (some id) ∧ payload.InMembers members

/-- The error code, if any, is an `i32`. -/
def CodeFits : Payload → Prop
  | .result _ => True
  | .error code _ _ => -2 ^ 31 ≤ code ∧ code < 2 ^ 31

/-- Neither the result nor the data is `null`. -/
def NotNull : Payload → Prop
  | .result value => value ≠ .null
  | .error _ _ data => data ≠ some .null

/-- The record a payload is read into. -/
def response (payload : Payload) (id : JsonRpcId) : JsonRpcResponse :=
  match payload with
  | .result value => .success id value
  | .error code message data =>
    { jsonrpc := "2.0", id, result := none, error := some { code, message, data } }

end Payload

/-- Reading an `i32` from an integer literal. -/
theorem decodeI32_ofInt (code : ℤ) :
    decodeI32 (.number (.ofInt code)) =
      if -2 ^ 31 ≤ code ∧ code < 2 ^ 31 then some code else none := by
  by_cases hpos : 0 ≤ code ∧ code < 2 ^ 64
  · have hnat : (UInt64.ofNat code.toNat).toNat = code.toNat :=
      UInt64.toNat_ofNat_of_lt' (by rw [UInt64.size]; omega)
    have hcast : ((code.toNat : ℕ) : ℤ) = code := Int.toNat_of_nonneg hpos.1
    rw [Number.ofInt, if_pos hpos, decodeI32, hnat, hcast]
    by_cases hfits : code < 2 ^ 31
    · rw [if_pos (by omega), if_pos (by omega)]
    · rw [if_neg (by omega), if_neg (by omega)]
  · rw [Number.ofInt, if_neg hpos]
    by_cases hneg : -2 ^ 63 ≤ code ∧ code < 0
    · rw [if_pos hneg, decodeI32]
      by_cases hfits : -2 ^ 31 ≤ code
      · rw [if_pos (by omega), if_pos (by omega)]
      · rw [if_neg (by omega), if_neg (by omega)]
    · rw [if_neg hneg, if_neg (by omega)]
      rfl

theorem encodeI32_eq {code : ℤ} (h : -2 ^ 31 ≤ code ∧ code < 2 ^ 31) :
    encodeI32 code = .number (.ofInt code) := by
  unfold encodeI32 Number.ofInt
  by_cases hpos : 0 ≤ code
  · rw [if_pos hpos, if_pos ⟨hpos, by omega⟩]
  · rw [if_neg hpos, if_neg (by omega), if_pos (by omega)]

theorem optional_some {α : Type} {decode : Json → Option α} {v : Json} (h : v ≠ .null) :
    Json.optional decode (some v) = (decode v).map some := by
  cases v with
  | null => exact absurd rfl h
  | bool _ | number _ | string _ | array _ | object _ => rfl

/-- An optional field of any type is read as it is, unless it is `null`. -/
theorem optional_some_eq {field : Option Json} (h : field ≠ some .null) :
    Json.optional some field = some field := by
  cases field with
  | none => rfl
  | some v => exact optional_some fun hnull => h (congrArg some hnull)

namespace Payload

variable {payload : Payload} {v : Json} {id : JsonRpcId}

/-- A response is read field by field. -/
theorem decode_object {members : List (String × Json)} {result error : Option Json}
    (hversion : Json.uniqueField "jsonrpc" members = some (some (.string "2.0")))
    (hid : Json.uniqueField "id" members = some (some id.encode))
    (hresult : Json.uniqueField "result" members = some result)
    (herror : Json.uniqueField "error" members = some error) :
    JsonRpcResponse.decode (.object members) =
      (Json.optional some result).bind fun result =>
        (Json.optional JsonRpcError.decode error).map fun error =>
          { jsonrpc := "2.0", id, result, error } := by
  have hdecode : JsonRpcId.decode id.encode = some id := by
    cases id <;> rfl
  simp only [JsonRpcResponse.decode, JsonRpcResponse.ofFields, hversion, hid, hresult, herror,
    Json.required, Json.asStr, hdecode, Option.pure_def, Option.bind_eq_bind, Option.bind_some,
    Option.map_eq_bind, Function.comp_apply]

/-- An error is read in full if its code fits and its data is not `null`, and not at
all if its code does not fit. -/
theorem decode_error {error : List (String × Json)} {code : ℤ} {message : String}
    {data : Option Json}
    (hcode : Json.uniqueField "code" error = some (some (.number (.ofInt code))))
    (hmessage : Json.uniqueField "message" error = some (some (.string message)))
    (hdata : Json.uniqueField "data" error = some data) :
    JsonRpcError.decode (.object error) =
      if -2 ^ 31 ≤ code ∧ code < 2 ^ 31 then
        (Json.optional some data).map fun data => { code, message, data }
      else none := by
  simp only [JsonRpcError.decode, JsonRpcError.ofFields, hcode, hmessage, hdata, Json.required,
    Option.bind_eq_bind, Option.bind_some, decodeI32_ofInt]
  split_ifs
  · simp [Json.asStr, Option.map_eq_bind]
  · rfl

/-- A response whose code fits and that holds no `null` is read in full. -/
theorem decode_of_isResponse (h : payload.IsResponse id.encode v) (hcode : payload.CodeFits)
    (hnull : payload.NotNull) : JsonRpcResponse.decode v = some (payload.response id) := by
  obtain ⟨members, rfl, hversion, hid, hpayload⟩ := h
  cases payload with
  | result value =>
    obtain ⟨hresult, herror⟩ := hpayload
    rw [decode_object hversion hid hresult herror, optional_some hnull]
    rfl
  | error code message data =>
    obtain ⟨hresult, error, herror, hcodeField, hmessage, hdata⟩ := hpayload
    have hfits : -2 ^ 31 ≤ code ∧ code < 2 ^ 31 := hcode
    rw [decode_object hversion hid hresult herror, optional_some (by simp),
      decode_error hcodeField hmessage hdata, if_pos hfits, optional_some_eq hnull]
    rfl

/-- A response whose code does not fit is not read. -/
theorem decode_of_not_codeFits (h : payload.IsResponse id.encode v) (hcode : ¬payload.CodeFits) :
    JsonRpcResponse.decode v = none := by
  obtain ⟨members, rfl, hversion, hid, hpayload⟩ := h
  cases payload with
  | result value => exact absurd trivial hcode
  | error code message data =>
    obtain ⟨hresult, error, herror, hcodeField, hmessage, hdata⟩ := hpayload
    have hlarge : ¬(-2 ^ 31 ≤ code ∧ code < 2 ^ 31) := hcode
    rw [decode_object hversion hid hresult herror, optional_some (by simp),
      decode_error hcodeField hmessage hdata, if_neg hlarge]
    rfl

/-- Writing the record gives a response with the same payload. -/
theorem isResponse_encode (hcode : payload.CodeFits) (id : JsonRpcId) :
    payload.IsResponse id.encode (payload.response id).encode := by
  cases payload with
  | result value => exact ⟨_, rfl, rfl, rfl, rfl, rfl⟩
  | error code message data =>
    refine ⟨_, rfl, rfl, rfl, rfl, _, rfl, ?_, ?_, ?_⟩
    · rw [← encodeI32_eq hcode]
      cases data <;> rfl
    · cases data <;> rfl
    · cases data <;> rfl

/-- A response conveys one payload. -/
theorem IsResponse.unique {other : Payload} {id v : Json} (h : payload.IsResponse id v)
    (hother : other.IsResponse id v) : payload = other := by
  obtain ⟨members, rfl, -, -, hpayload⟩ := h
  obtain ⟨_, hmembers, -, -, hother⟩ := hother
  obtain rfl := Json.object.inj hmembers
  cases payload with
  | result value =>
    cases other with
    | result value' =>
      have hsame := hpayload.1.symm.trans hother.1
      rw [Option.some.inj (Option.some.inj hsame)]
    | error => cases hpayload.1.symm.trans hother.1
  | error code message data =>
    obtain ⟨hresult, error, herror, hcode, hmessage, hdata⟩ := hpayload
    cases other with
    | result value' => cases hresult.symm.trans hother.1
    | error code' message' data' =>
      obtain ⟨-, error', herror', hcode', hmessage', hdata'⟩ := hother
      obtain rfl := Json.object.inj (Option.some.inj (Option.some.inj (herror.symm.trans herror')))
      obtain rfl := Number.ofInt_injective (Json.number.inj (Option.some.inj (Option.some.inj
        (hcode.symm.trans hcode'))))
      obtain rfl := Json.string.inj (Option.some.inj (Option.some.inj
        (hmessage.symm.trans hmessage')))
      rw [Option.some.inj (hdata.symm.trans hdata')]

end Payload

/-- An identifier that a JSON-RPC request may have: a string or a 64-bit integer. -/
inductive RequestId where
  | string (s : String)
  | integer (n : ℤ) (low : -2 ^ 63 ≤ n) (high : n < 2 ^ 63)

namespace RequestId

/-- The identifier as it stands in the request. -/
def tree : RequestId → Json
  | .string s => .string s
  | .integer n _ _ => .number (.ofInt n)

/-- The identifier is a negative integer. -/
def Negative : RequestId → Prop
  | .string _ => False
  | .integer n _ _ => n < 0

/-- The identifier is read, and written as it was, unless it is negative. -/
theorem decode_tree {id : RequestId} (h : ¬id.Negative) :
    ∃ read, JsonRpcId.decode id.tree = some read ∧ read.encode = id.tree := by
  cases id with
  | string s => exact ⟨.string s, rfl, rfl⟩
  | integer n low high =>
    have hpos : 0 ≤ n ∧ n < 2 ^ 64 := ⟨Int.not_lt.mp h, by omega⟩
    refine ⟨.number (UInt64.ofNat n.toNat), ?_, ?_⟩
    · rw [tree, Number.ofInt, if_pos hpos]
      rfl
    · rw [tree, Number.ofInt, if_pos hpos]
      rfl

theorem decode_tree_of_negative {id : RequestId} (h : id.Negative) :
    JsonRpcId.decode id.tree = none := by
  cases id with
  | string s => exact False.elim h
  | integer n low high =>
    have hneg : n < 0 := h
    rw [tree, Number.ofInt, if_neg (by omega), if_pos ⟨low, hneg⟩]
    rfl

theorem tree_ne_null (id : RequestId) : id.tree ≠ .null := by
  cases id <;> simp [tree]

end RequestId

/-- The value is a JSON-RPC 2.0 request with the identifier, method and parameters. -/
def IsRequest (id : Json) (method : String) (params : Option Json) (v : Json) : Prop :=
  ∃ members, v = .object members ∧
    Json.uniqueField "jsonrpc" members = some (some (.string "2.0")) ∧
    Json.uniqueField "id" members = some (some id) ∧
    Json.uniqueField "method" members = some (some (.string method)) ∧
    Json.uniqueField "params" members = some params

/-- A request is read if its identifier is. -/
theorem IsRequest.decode {id : RequestId} {method : String} {params : Option Json} {v : Json}
    (h : IsRequest id.tree method params v) :
    JsonRpcRequest.decode v = (JsonRpcId.decode id.tree).bind fun read =>
      (Json.optional some params).map fun params =>
        { jsonrpc := "2.0", id := some read, method, params } := by
  obtain ⟨members, rfl, hversion, hid, hmethod, hparams⟩ := h
  simp only [JsonRpcRequest.decode, JsonRpcRequest.ofFields, hversion, hid, hmethod, hparams,
    Json.required, Json.asStr, optional_some id.tree_ne_null, Option.pure_def,
    Option.bind_eq_bind, Option.bind_assoc, Option.bind_some, Option.map_eq_bind,
    Function.comp_apply]

/-- Parameters of any shape are read. -/
theorem exists_optional_some (field : Option Json) :
    ∃ params, Json.optional some field = some params := by
  by_cases h : field = some .null
  · rw [h]
    exact ⟨none, rfl⟩
  · exact ⟨field, optional_some_eq h⟩

namespace Gateway

variable {gw : Gateway} {st : DispatchState} {line : InboundLine} {id : JsonRpcId}
  {name : String} {params : Option Json}

/-- The client gets one response to the line, with its identifier and the payload. -/
def Relays (gw : Gateway) (st : DispatchState) (line : InboundLine) (id : JsonRpcId)
    (payload : Payload) : Prop :=
  ∃ response, responses (gw.step st (.line line)).2 = [response] ∧
    payload.IsResponse id.encode response.encode

section Reply

variable {backendName : String} {backend : Backend} {text : String} {v : Json} {payload : Payload}

/-- A reply under the gateway's identifier that fits the record is relayed. -/
theorem relays_of_isResponse (hcall : IsCall gw st line id name params)
    (hpolicy : PassesPolicy gw st line name params) (hcircuit : CircuitAdmits gw st line name)
    (hroute : gw.catalog.route name = some backendName)
    (hbackend : gw.backends.lookup backendName = some backend) (houtcome : line.outcome = .ok text)
    (hread : gw.serde.fromStr text = .ok v)
    (hreply : payload.IsResponse (.number (.posInt st.idRemapper.counter)) v)
    (hcode : payload.CodeFits) (hnull : payload.NotNull) : Relays gw st line id payload := by
  have hresponses := responses_of_admitted hcall hpolicy hcircuit hroute hbackend
  have hgateway : payload.IsResponse (JsonRpcId.number st.idRemapper.counter).encode v := hreply
  have hdecoded : gw.serde.read JsonRpcResponse.decode text =
      .ok (payload.response (.number st.idRemapper.counter)) := by
    rw [SerdeJson.read, hread]
    simp only [Payload.decode_of_isResponse hgateway hcode hnull]
  rw [settledResponse, houtcome] at hresponses
  simp only [hdecoded] at hresponses
  refine ⟨payload.response id, ?_, Payload.isResponse_encode hcode id⟩
  rw [hresponses]
  cases payload <;> rfl

/-- A reply whose code is no `i32` is no response to the gateway. -/
theorem responses_of_not_codeFits (hcall : IsCall gw st line id name params)
    (hpolicy : PassesPolicy gw st line name params) (hcircuit : CircuitAdmits gw st line name)
    (hroute : gw.catalog.route name = some backendName)
    (hbackend : gw.backends.lookup backendName = some backend) (houtcome : line.outcome = .ok text)
    (hread : gw.serde.fromStr text = .ok v)
    (hreply : payload.IsResponse (.number (.posInt st.idRemapper.counter)) v)
    (hcode : ¬payload.CodeFits) :
    responses (gw.step st (.line line)).2 = [.failure id internalErrorCode
      ("Invalid backend response: " ++ gw.serde.dataError text)] := by
  have hresponses := responses_of_admitted hcall hpolicy hcircuit hroute hbackend
  have hgateway : payload.IsResponse (JsonRpcId.number st.idRemapper.counter).encode v := hreply
  have hfailed : gw.serde.read JsonRpcResponse.decode text =
      .error (gw.serde.dataError text) := by
    rw [SerdeJson.read, hread]
    simp only [Payload.decode_of_not_codeFits hgateway hcode]
  rw [settledResponse, houtcome] at hresponses
  simp only [hfailed] at hresponses
  exact hresponses

/-- **Relayed replies.** When a call is forwarded and the backend replies under the
gateway's identifier, the client gets the same result, or the same code, message and
data, under its own identifier. An error whose code is no `i32` is not a response to
the gateway, and the client is told so. -/
theorem reply_relayed {backendName : String} {backend : Backend} {text : String} {v : Json}
    {payload : Payload} (hcall : IsCall gw st line id name params)
    (hpolicy : PassesPolicy gw st line name params) (hcircuit : CircuitAdmits gw st line name)
    (hroute : gw.catalog.route name = some backendName)
    (hbackend : gw.backends.lookup backendName = some backend) (houtcome : line.outcome = .ok text)
    (hread : gw.serde.fromStr text = .ok v)
    (hreply : payload.IsResponse (.number (.posInt st.idRemapper.counter)) v) :
    (payload.CodeFits → payload.NotNull → Relays gw st line id payload) ∧
    (¬payload.CodeFits → responses (gw.step st (.line line)).2 =
      [.failure id internalErrorCode
        ("Invalid backend response: " ++ gw.serde.dataError text)]) :=
  ⟨relays_of_isResponse hcall hpolicy hcircuit hroute hbackend houtcome hread hreply,
    responses_of_not_codeFits hcall hpolicy hcircuit hroute hbackend houtcome hread hreply⟩

end Reply

/-- A reply with an error. -/
def errorReply (code : ℤ) : Json :=
  .object [("jsonrpc", .string "2.0"), ("id", .number (.posInt 1)),
    ("error", .object [("code", .number (.ofInt code)), ("message", .string "locked"),
      ("data", .string "users")])]

theorem isResponse_errorReply (code : ℤ) :
    (Payload.error code "locked" (some (.string "users"))).IsResponse (.number (.posInt 1))
      (errorReply code) :=
  ⟨_, rfl, rfl, rfl, rfl, _, rfl, rfl, rfl, rfl⟩

/-- An error of a backend reaches the client. -/
theorem reply_relayed_error :
    let reply := errorReply (-32000)
    Relays (relayGateway reply reply) operationalState (.answered queryMessage reply) (.number 7)
      (.error (-32000) "locked" (some (.string "users"))) := by
  intro reply
  have hsent : (sends ((relayGateway reply reply).step operationalState
      (.line (.answered queryMessage reply))).2).isEmpty = false := by decide +kernel
  obtain ⟨other, id, name, params, backendName, backend, hline, hcall, hpolicy, hcircuit,
    hroute, hbackend⟩ := (sends_ne_nil_iff _ _ _).mp (List.isEmpty_eq_false_iff.mp hsent)
  obtain rfl := Event.line.inj hline
  obtain ⟨rfl, -, -⟩ := (isCall_relay reply reply).unique hcall
  exact (reply_relayed hcall hpolicy hcircuit hroute hbackend rfl rfl
    (isResponse_errorReply (-32000))).1 ⟨by decide, by decide⟩ (by simp [Payload.NotNull])

/-- An error whose code is one more than the largest `i32` does not. -/
theorem reply_not_relayed_large_code :
    let reply := errorReply 2147483648
    let gw := relayGateway reply reply
    let payload := Payload.error 2147483648 "locked" (some (.string "users"))
    (sends (gw.step operationalState (.line (.answered queryMessage reply))).2).isEmpty = false ∧
      gw.serde.fromStr reply.text = .ok reply ∧
      payload.IsResponse (.number (.posInt operationalState.idRemapper.counter)) reply ∧
      ¬Relays gw operationalState (.answered queryMessage reply) (.number 7) payload := by
  intro reply gw payload
  have hsent : (sends (gw.step operationalState
      (.line (.answered queryMessage reply))).2).isEmpty = false := by
    decide +kernel
  refine ⟨hsent, rfl, isResponse_errorReply 2147483648, ?_⟩
  rintro ⟨response, hresponse, members, hmembers, -, -, -, error, herror, hcode, -⟩
  have hsettled : gw.settledResponse (.answered queryMessage reply) (.number 7) =
      .failure (.number 7) internalErrorCode "Invalid backend response: invalid type" := rfl
  have hresponses := responses_of_sends (isCall_relay reply reply) hsent
  obtain rfl := List.singleton_injective (hresponse.symm.trans (hresponses.trans
    (congrArg (fun response => [response]) hsettled)))
  obtain rfl := Json.object.inj hmembers
  obtain rfl := Json.object.inj (Option.some.inj (Option.some.inj herror))
  have hsame : Number.negInt (-32603) = .ofInt 2147483648 :=
    Json.number.inj (Option.some.inj (Option.some.inj hcode))
  exact absurd hsame (by decide)

/-- The line is answered once, under the identifier. -/
def Echoes (gw : Gateway) (st : DispatchState) (line : InboundLine) (id : Json) : Prop :=
  ∃ response, responses (gw.step st (.line line)).2 = [response] ∧ response.id.encode = id

/-- A request that was read is answered under its identifier, unless it announces the
end of the handshake. -/
theorem echoes_of_parsed {request : JsonRpcRequest} (hparsed : gw.parseRequest line = .ok request)
    (hid : request.id = some id) (hmethod : request.method ≠ "notifications/initialized") :
    Echoes gw st line id.encode := by
  have hanswered : ¬Misanswers gw st (.line line) := by
    rw [misanswers_iff_of_parsed hparsed]
    rintro ⟨-, ⟨-, hnone⟩ | ⟨hinitialized, -⟩⟩
    · rw [hid] at hnone
      cases hnone
    · exact hmethod hinitialized
  have hids := (ids_eq_iff gw st (.line line)).mpr hanswered
  rw [expectedIds_of_parsed hparsed, hid] at hids
  obtain ⟨response, hresponse, rfl⟩ := List.map_eq_singleton_iff.mp hids
  exact ⟨response, hresponse, rfl⟩

/-- **Echoed identifiers.** In every state, a request whose identifier is a string or a
nonnegative integer is answered under exactly that identifier, whatever its method and
parameters. A negative identifier is none to the gateway: the line does not parse. -/
theorem id_echoed {v : Json} {method : String} (id : RequestId)
    (hread : gw.serde.fromStr line.text = .ok v) (hrequest : IsRequest id.tree method params v)
    (hmethod : method ≠ "notifications/initialized") (st : DispatchState) :
    (¬id.Negative → Echoes gw st line id.tree) ∧
    (id.Negative → responses (gw.step st (.line line)).2 =
      [.failure .null parseErrorCode ("Parse error: " ++ gw.serde.dataError line.text)]) := by
  constructor
  · intro hlegal
    obtain ⟨read, hdecode, hencode⟩ := RequestId.decode_tree hlegal
    obtain ⟨params, hparams⟩ := exists_optional_some params
    have hparsed : gw.parseRequest line =
        .ok { jsonrpc := "2.0", id := some read, method, params } := by
      rw [parseRequest, SerdeJson.read, hread]
      simp [hrequest.decode, hdecode, hparams]
    rw [← hencode]
    exact echoes_of_parsed hparsed rfl hmethod
  · intro hnegative
    have hfailed : gw.parseRequest line = .error (gw.serde.dataError line.text) := by
      rw [parseRequest, SerdeJson.read, hread]
      simp [hrequest.decode, RequestId.decode_tree_of_negative hnegative]
    exact responses_of_unparsed hfailed

/-- A request with the given identifier. -/
def pingJson (id : RequestId) : Json :=
  .object [("jsonrpc", .string "2.0"), ("id", id.tree), ("method", .string "ping")]

/-- A gateway that reads this request. -/
def pingGateway (id : RequestId) : Gateway := bare (.ofValues [pingJson id])

theorem isRequest_ping (id : RequestId) : IsRequest id.tree "ping" none (pingJson id) :=
  ⟨_, rfl, rfl, rfl, rfl, rfl⟩

/-- The largest identifier is echoed before the handshake. -/
theorem id_echoed_largest :
    let id := RequestId.integer 9223372036854775807 (by decide) (by decide)
    Echoes (pingGateway id) (start ⟨{}, .new {}⟩ .new ∅) (.message (pingJson id)) id.tree := by
  intro id
  exact (id_echoed id rfl (isRequest_ping id) (by decide) _).1 (by simp [id, RequestId.Negative])

/-- A negative identifier is not. -/
theorem negative_id_not_echoed :
    let id := RequestId.integer (-1) (by decide) (by decide)
    (pingGateway id).serde.fromStr (pingJson id).text = .ok (pingJson id) ∧
      IsRequest id.tree "ping" none (pingJson id) ∧
      ¬Echoes (pingGateway id) (start ⟨{}, .new {}⟩ .new ∅) (.message (pingJson id)) id.tree := by
  intro id
  refine ⟨rfl, isRequest_ping id, ?_⟩
  rintro ⟨response, hresponse, hid⟩
  have hnull : ([response] : List JsonRpcResponse).map JsonRpcResponse.id = [.null] := by
    rw [← hresponse]
    rfl
  have hresponseId : response.id = .null := List.singleton_injective hnull
  rw [hresponseId] at hid
  exact RequestId.tree_ne_null id hid.symm

end Gateway

end SentinelGateway
