import SentinelGateway.Protocol.Json

/-!
# JSON-RPC requests and responses

The records of `protocol/jsonrpc.rs` with the readings `serde` derives for them.
A record is read from an object, where unknown members are ignored, or from an
array that lists its fields in declaration order.
-/

namespace SentinelGateway

/-- JSON-RPC 2.0 error codes, with the gateway's own from -32000 downwards. -/
def parseErrorCode : ℤ := -32700
def methodNotFoundCode : ℤ := -32601
def invalidParamsCode : ℤ := -32602
def internalErrorCode : ℤ := -32603
def notInitializedCode : ℤ := -32002
def authzErrorCode : ℤ := -32003
def rateLimitErrorCode : ℤ := -32004
def killSwitchErrorCode : ℤ := -32005
def circuitOpenErrorCode : ℤ := -32007

/-- `JsonRpcId`, an untagged union of the shapes an identifier may have. -/
inductive JsonRpcId where
  | number (n : UInt64)
  | string (s : String)
  | null
  deriving DecidableEq

/-- The first variant whose shape fits; negative and fractional numbers fit none. -/
def JsonRpcId.decode : Json → Option JsonRpcId
  | .number (.posInt n) => some (.number n)
  | .string s => some (.string s)
  | .null => some .null
  | _ => none

/-- An identifier as it is written. -/
def JsonRpcId.encode : JsonRpcId → Json
  | .number n => .number (.posInt n)
  | .string s => .string s
  | .null => .null

/-- `JsonRpcRequest`. The version text is kept and never compared. -/
structure JsonRpcRequest where
  jsonrpc : String
  id : Option JsonRpcId
  method : String
  params : Option Json

/-- A request without an identifier is a notification. An explicit `null`
identifier is read as an absent one. -/
def JsonRpcRequest.isNotification (request : JsonRpcRequest) : Bool :=
  request.id.isNone

/-- The fields of a request, read one by one. -/
def JsonRpcRequest.ofFields (jsonrpc id method params : Option Json) :
    Option JsonRpcRequest := do
  let jsonrpc ← Json.required Json.asStr jsonrpc
  let id ← Json.optional JsonRpcId.decode id
  let method ← Json.required Json.asStr method
  let params ← Json.optional some params
  return { jsonrpc, id, method, params }

def JsonRpcRequest.decode : Json → Option JsonRpcRequest
  | .object members => do
    let jsonrpc ← Json.uniqueField "jsonrpc" members
    let id ← Json.uniqueField "id" members
    let method ← Json.uniqueField "method" members
    let params ← Json.uniqueField "params" members
    JsonRpcRequest.ofFields jsonrpc id method params
  | .array [jsonrpc, id, method, params] =>
    JsonRpcRequest.ofFields (some jsonrpc) (some id) (some method) (some params)
  | _ => none

/-- A request to call a tool. -/
def callJson (id : UInt64) (tool : String) : Json :=
  .object [("jsonrpc", .string "2.0"), ("id", .number (.posInt id)),
    ("method", .string "tools/call"), ("params", .object [("name", .string tool)])]

/-- A response with an empty result. -/
def resultJson (id : UInt64) : Json :=
  .object [("jsonrpc", .string "2.0"), ("id", .number (.posInt id)), ("result", .object [])]

/-- `JsonRpcError`. -/
structure JsonRpcError where
  code : ℤ
  message : String
  data : Option Json

/-- An `i32` is read from an integer in range and from nothing else. -/
def decodeI32 : Json → Option ℤ
  | .number (.posInt n) => if n.toNat ≤ 2147483647 then some n.toNat else none
  | .number (.negInt n) => if -2147483648 ≤ n ∧ n < 0 then some n else none
  | _ => none

def JsonRpcError.ofFields (code message data : Option Json) : Option JsonRpcError := do
  let code ← Json.required decodeI32 code
  let message ← Json.required Json.asStr message
  let data ← Json.optional some data
  return { code, message, data }

def JsonRpcError.decode : Json → Option JsonRpcError
  | .object members => do
    let code ← Json.uniqueField "code" members
    let message ← Json.uniqueField "message" members
    let data ← Json.uniqueField "data" members
    JsonRpcError.ofFields code message data
  | .array [code, message, data] =>
    JsonRpcError.ofFields (some code) (some message) (some data)
  | _ => none

/-- An `i32` as it is written. -/
def encodeI32 (n : ℤ) : Json :=
  if 0 ≤ n then .number (.posInt (UInt64.ofNat n.toNat)) else .number (.negInt n)

/-- An error as it is written, without `data` if there is none. -/
def JsonRpcError.encode (error : JsonRpcError) : Json :=
  .object ([("code", encodeI32 error.code), ("message", .string error.message)] ++
    (error.data.map fun data => ("data", data)).toList)

/-- `JsonRpcResponse`. Nothing forces one of `result` and `error` to be present. -/
structure JsonRpcResponse where
  jsonrpc : String
  id : JsonRpcId
  result : Option Json
  error : Option JsonRpcError

namespace JsonRpcResponse

/-- `JsonRpcResponse::success`. -/
def success (id : JsonRpcId) (result : Json) : JsonRpcResponse :=
  { jsonrpc := "2.0", id, result := some result, error := none }

/-- `JsonRpcResponse::error`. -/
def failure (id : JsonRpcId) (code : ℤ) (message : String) : JsonRpcResponse :=
  { jsonrpc := "2.0", id, result := none, error := some { code, message, data := none } }

/-- `JsonRpcResponse::error_with_data`. -/
def failureWithData (id : JsonRpcId) (code : ℤ) (message : String) (data : Json) :
    JsonRpcResponse :=
  { jsonrpc := "2.0", id, result := none, error := some { code, message, data := some data } }

@[simp] theorem failure_id (id : JsonRpcId) (code : ℤ) (message : String) :
    (failure id code message).id = id := rfl

def ofFields (jsonrpc id result error : Option Json) : Option JsonRpcResponse := do
  let jsonrpc ← Json.required Json.asStr jsonrpc
  let id ← Json.required JsonRpcId.decode id
  let result ← Json.optional some result
  let error ← Json.optional JsonRpcError.decode error
  return { jsonrpc, id, result, error }

def decode : Json → Option JsonRpcResponse
  | .object members => do
    let jsonrpc ← Json.uniqueField "jsonrpc" members
    let id ← Json.uniqueField "id" members
    let result ← Json.uniqueField "result" members
    let error ← Json.uniqueField "error" members
    ofFields jsonrpc id result error
  | .array [jsonrpc, id, result, error] =>
    ofFields (some jsonrpc) (some id) (some result) (some error)
  | _ => none

/-- The members a response is written with. An absent `result` or `error` is left out. -/
def members (response : JsonRpcResponse) : List (String × Json) :=
  [("jsonrpc", .string response.jsonrpc), ("id", response.id.encode)] ++
    (response.result.map fun result => ("result", result)).toList ++
    (response.error.map fun error => ("error", error.encode)).toList

/-- A response as it is written. -/
def encode (response : JsonRpcResponse) : Json := .object response.members

/-- What the specification asks of a response: its version, and one of `result` and
`error` but not both. -/
structure Standard (response : JsonRpcResponse) : Prop where
  version : response.jsonrpc = "2.0"
  exactly_one : response.result.isSome ≠ response.error.isSome

theorem standard_success (id : JsonRpcId) (result : Json) : (success id result).Standard :=
  ⟨rfl, by simp [success]⟩

theorem standard_failure (id : JsonRpcId) (code : ℤ) (message : String) :
    (failure id code message).Standard := ⟨rfl, by simp [failure]⟩

theorem standard_failureWithData (id : JsonRpcId) (code : ℤ) (message : String) (data : Json) :
    (failureWithData id code message data).Standard := ⟨rfl, by simp [failureWithData]⟩

end JsonRpcResponse

end SentinelGateway
