import SentinelGateway.Backend
import SentinelGateway.CircuitBreaker
import SentinelGateway.Protocol.IdRemapper
import SentinelGateway.Protocol.Lifecycle
import SentinelGateway.RateLimit
import SentinelGateway.Rbac
import SentinelGateway.Validation

/-!
# The dispatch loop

`run_dispatch` of `gateway.rs` as a machine. It reads inbound lines, between any
two of which the hot configuration may be replaced, and everything it does to
the outside is an effect. Clock readings, identifiers, latencies and the outcome
of a backend call are supplied with the line they are used for.
-/

namespace SentinelGateway

/-- `CallerIdentity`. -/
structure CallerIdentity where
  subject : String
  role : String
  tokenId : Option String := none

/-- `HotConfig`: the part of the configuration that SIGHUP replaces. -/
structure HotConfig where
  killSwitch : KillSwitchConfig
  rateLimiter : RateLimiter

/-- The statuses under which calls are counted and audited. -/
inductive CallStatus where
  | killed
  | rateLimited
  | denied
  | invalidArgs
  | circuitOpen
  | error
  | success
  deriving DecidableEq

/-- The label of a status in the audit log and in the metrics. -/
def CallStatus.label : CallStatus → String
  | .killed => "killed"
  | .rateLimited => "rate_limited"
  | .denied => "denied"
  | .invalidArgs => "invalid_args"
  | .circuitOpen => "circuit_open"
  | .error => "error"
  | .success => "success"

/-- `AuditEntry`. -/
structure AuditEntry where
  requestId : ℕ
  timestamp : ℤ
  clientSubject : String
  clientRole : String
  toolName : String
  backendName : String
  requestArgs : Option Json
  responseStatus : String
  errorMessage : Option String
  latencyMs : ℤ

/-- What processing a line does to the outside: responses handed to the output
channel, bodies handed to `Backend::send`, entries offered to the audit channel,
and calls of `Metrics`. -/
inductive Effect where
  | respond (response : JsonRpcResponse)
  | send (backendName : String) (backend : Backend) (body : Json)
  | audit (entry : AuditEntry)
  | recordRequest (tool : String) (status : CallStatus) (seconds : Duration)
  | recordRateLimitHit (tool : String)

/-- An inbound line with what the environment contributes while it is processed:
the clock readings of the rate limiter, of `allow_request` and of
`record_failure`, the result of `Backend::send` if it is called, and the fields
of the audit entry that are not computed. -/
structure InboundLine where
  text : String
  checkedAt : Instant
  allowedAt : Instant
  recordedAt : Instant
  outcome : Except BackendError String
  requestId : ℕ := 0
  timestamp : ℤ := 0
  latencyMs : ℤ := 0
  latencySecs : Duration := 0

/-- An event of a session. -/
inductive Event where
  | line (line : InboundLine)
  | replaceHotConfig (hotConfig : HotConfig)

/-- The arguments of `run_dispatch` that no line changes. `auditTx` and `metrics`
tell whether the audit channel and the metrics are present. -/
structure Gateway where
  serde : SerdeJson
  decodeInitialize : Json → Except String Unit
  catalog : ToolCatalog
  backends : Table String Backend
  caller : Option CallerIdentity
  rbacConfig : RbacConfig
  auditTx : Bool
  metrics : Bool
  schemaCache : SchemaCache

/-- What lines change: the lifecycle state, and the interior of the shared hot
configuration, of the id remapper and of the circuit breakers. -/
structure DispatchState where
  state : McpState
  hotConfig : HotConfig
  idRemapper : IdRemapper
  circuitBreakers : Table String CircuitBreaker

/-- The tool name of a call: the string member `name` of its parameters. -/
def toolName (params : Option Json) : Option String :=
  (params.bind (Json.get "name")).bind Json.asStr

/-- The request sent to a backend: the client's parameters under a gateway id. -/
def outboundRequest (gatewayId : UInt64) (params : Option Json) : Json :=
  .object [("jsonrpc", .string "2.0"), ("id", .number (.posInt gatewayId)),
    ("method", .string "tools/call"), ("params", params.getD .null)]

/-- A gate's decision to answer a call itself. -/
structure Rejection where
  status : CallStatus
  code : ℤ
  message : String
  data : Option Json := none
  backendName : String

/-- The response a rejected call gets. -/
def Rejection.response (rejection : Rejection) (id : JsonRpcId) : JsonRpcResponse :=
  match rejection.data with
  | none => .failure id rejection.code rejection.message
  | some data => .failureWithData id rejection.code rejection.message data

namespace Gateway

variable (gw : Gateway)

/-- The caller, which is the administrator when no identity is given. -/
def identity : CallerIdentity :=
  gw.caller.getD { subject := "admin", role := "admin", tokenId := none }

/-- The backend name an audit entry shows for a tool. -/
def auditedBackend (tool : String) : String := (gw.catalog.route tool).getD "unknown"

/-- The gate of the kill switch: the tool first, then the backend it routes to. -/
def killSwitchGate (killSwitch : KillSwitchConfig) (name : String) : Option Rejection :=
  if name ∈ killSwitch.disabledTools then
    some { status := .killed, code := killSwitchErrorCode,
           message := "Tool is disabled: " ++ name, backendName := gw.auditedBackend name }
  else
    match gw.catalog.route name with
    | some backendName =>
      if backendName ∈ killSwitch.disabledBackends then
        some { status := .killed, code := killSwitchErrorCode,
               message := "Backend is disabled: " ++ backendName, backendName }
      else none
    | none => none

/-- The gate of the rate limiter, which counts the call even if it refuses it. -/
def rateLimitGate (st : DispatchState) (name : String) (now : Instant) :
    DispatchState × Option Rejection :=
  let (limiter, answer) := st.hotConfig.rateLimiter.check gw.identity.subject name now
  ({ st with hotConfig := { st.hotConfig with rateLimiter := limiter } },
    match answer with
    | .ok () => none
    | .error retryAfter =>
      some { status := .rateLimited, code := rateLimitErrorCode,
             message := "Rate limit exceeded for tool: " ++ name,
             data := some (.object [("retryAfter",
               .number (.posInt (UInt64.ofNat (Rat.ceil retryAfter).toNat)))]),
             backendName := gw.auditedBackend name })

/-- The gate of the role's permissions. -/
def rbacGate (name : String) : Option Rejection :=
  if isToolAllowed gw.identity.role name .execute gw.rbacConfig then none
  else some { status := .denied, code := authzErrorCode,
              message := "Permission denied for tool: " ++ name,
              backendName := gw.auditedBackend name }

/-- The gate of the tool's schema, for calls that have an `arguments` member. -/
def schemaGate (name : String) (params : Option Json) : Option Rejection :=
  match params.bind (Json.get "arguments") with
  | none => none
  | some arguments =>
    match gw.schemaCache.validate name arguments with
    | .ok () => none
    | .error errors =>
      some { status := .invalidArgs, code := invalidParamsCode,
             message := "Invalid arguments for tool " ++ name ++ ": " ++ "; ".intercalate errors,
             backendName := gw.auditedBackend name }

/-- The gate of the circuit breaker of the backend the tool routes to. -/
def circuitGate (st : DispatchState) (name : String) (now : Instant) :
    DispatchState × Option Rejection :=
  match gw.catalog.route name with
  | none => (st, none)
  | some backendName =>
    match st.circuitBreakers.lookup backendName with
    | none => (st, none)
    | some cb =>
      let (cb, allowed) := cb.allowRequest now
      ({ st with circuitBreakers := st.circuitBreakers.insert backendName cb },
        if allowed then none
        else some { status := .circuitOpen, code := circuitOpenErrorCode,
                    message := "Backend circuit open: " ++ backendName, backendName })

/-- The gates of a named call, in order, up to the first one that rejects it. -/
def passGates (st : DispatchState) (line : InboundLine) (name : String) (params : Option Json) :
    DispatchState × Option Rejection :=
  match gw.killSwitchGate st.hotConfig.killSwitch name with
  | some rejection => (st, some rejection)
  | none =>
    match gw.rateLimitGate st name line.checkedAt with
    | (st, some rejection) => (st, some rejection)
    | (st, none) =>
      match gw.rbacGate name with
      | some rejection => (st, some rejection)
      | none =>
        match gw.schemaGate name params with
        | some rejection => (st, some rejection)
        | none => gw.circuitGate st name line.allowedAt

/-- The entry offered to the audit channel. -/
def auditEntry (line : InboundLine) (tool backendName : String) (params : Option Json)
    (status : CallStatus) (message : Option String) (latencyMs : ℤ) : AuditEntry :=
  { requestId := line.requestId, timestamp := line.timestamp,
    clientSubject := gw.identity.subject, clientRole := gw.identity.role, toolName := tool,
    backendName, requestArgs := params, responseStatus := status.label, errorMessage := message,
    latencyMs }

/-- What a rejected call causes: metrics, the response, then the audit entry. -/
def reject (line : InboundLine) (id : JsonRpcId) (name : String) (params : Option Json)
    (rejection : Rejection) : List Effect :=
  (if gw.metrics then
    Effect.recordRequest name rejection.status 0 ::
      (if rejection.status = .rateLimited then [Effect.recordRateLimitHit name] else [])
  else []) ++
  [.respond (rejection.response id)] ++
  (if gw.auditTx then
    [.audit (gw.auditEntry line name rejection.backendName params rejection.status
      (some rejection.message) 0)]
  else [])

/-- What follows a call of `Backend::send`: the breaker records the outcome, the
client's identifier is restored, and the response is made from the outcome. -/
def settleCall (st : DispatchState) (line : InboundLine) (backendName : String)
    (gatewayId : UInt64) : DispatchState × JsonRpcResponse :=
  match line.outcome with
  | .ok text =>
    let breakers := st.circuitBreakers.modify backendName CircuitBreaker.recordSuccess
    match gw.serde.read JsonRpcResponse.decode text with
    | .ok response =>
      let (remapper, original) := st.idRemapper.restore gatewayId
      ({ st with circuitBreakers := breakers, idRemapper := remapper },
        match original with
        | some (originalId, _) => { response with id := originalId }
        | none => response)
    | .error e =>
      let (remapper, original) := st.idRemapper.restore gatewayId
      ({ st with circuitBreakers := breakers, idRemapper := remapper },
        .failure ((original.map Prod.fst).getD .null) internalErrorCode
          ("Invalid backend response: " ++ e))
  | .error e =>
    let breakers := st.circuitBreakers.modify backendName fun cb => cb.recordFailure line.recordedAt
    let (remapper, original) := st.idRemapper.restore gatewayId
    ({ st with circuitBreakers := breakers, idRemapper := remapper },
      .failure ((original.map Prod.fst).getD .null) internalErrorCode
        ("Backend error: " ++ e.display))

/-- `handle_tools_call`: the state it leaves, the bodies it hands to
`Backend::send`, and the response. -/
def handleToolsCall (st : DispatchState) (line : InboundLine) (clientId : JsonRpcId)
    (params : Option Json) : DispatchState × List Effect × JsonRpcResponse :=
  match toolName params with
  | none => (st, [], .failure clientId invalidParamsCode "Missing tool name in params")
  | some name =>
    match gw.catalog.route name with
    | none => (st, [], .failure clientId invalidParamsCode ("Unknown tool: " ++ name))
    | some backendName =>
      match gw.backends.lookup backendName with
      | none =>
        (st, [], .failure clientId internalErrorCode ("Backend unavailable: " ++ backendName))
      | some backend =>
        let (remapper, gatewayId) := st.idRemapper.remap clientId backendName
        let (st, response) :=
          gw.settleCall { st with idRemapper := remapper } line backendName gatewayId
        (st, [.send backendName backend (outboundRequest gatewayId params)], response)

/-- The end of the `tools/call` arm: the backend is called, then metrics, audit
entry and response follow. -/
def backendDispatch (st : DispatchState) (line : InboundLine) (id : JsonRpcId)
    (params : Option Json) : DispatchState × List Effect :=
  let (st, sends, response) := gw.handleToolsCall st line id params
  let tool := (toolName params).getD "unknown"
  let status := if response.error.isSome then CallStatus.error else .success
  (st, sends ++
    (if gw.metrics then [.recordRequest tool status line.latencySecs] else []) ++
    (if gw.auditTx then
      [.audit (gw.auditEntry line tool (gw.auditedBackend tool) params status
        (response.error.map JsonRpcError.message) line.latencyMs)]
    else []) ++
    [.respond response])

/-- The `tools/call` arm for a request with an identifier. -/
def toolsCall (st : DispatchState) (line : InboundLine) (id : JsonRpcId) (params : Option Json) :
    DispatchState × List Effect :=
  match toolName params with
  | some name =>
    match gw.passGates st line name params with
    | (st, some rejection) => (st, gw.reject line id name params rejection)
    | (st, none) => gw.backendDispatch st line id params
  | none => gw.backendDispatch st line id params

/-- A tool definition as it is listed. -/
def toolJson (tool : Tool) : Json :=
  .object ([("name", .string tool.name)] ++
    (tool.description.map fun text => ("description", Json.string text)).toList ++
    [("inputSchema", .object tool.inputSchema)] ++ tool.rest)

/-- The tools a caller gets to see: neither disabled, nor of a disabled backend,
nor unreadable for its role. -/
def listedTools (killSwitch : KillSwitchConfig) : List Tool :=
  gw.catalog.allTools.filter fun tool =>
    if tool.name ∈ killSwitch.disabledTools then false
    else if ∃ backend ∈ gw.catalog.route tool.name, backend ∈ killSwitch.disabledBackends then
      false
    else isToolAllowed gw.identity.role tool.name .read gw.rbacConfig

/-- The result of `tools/list`. -/
def toolsList (killSwitch : KillSwitchConfig) : Json :=
  .object [("tools", .array ((gw.listedTools killSwitch).map toolJson))]

/-- The `initialize` arm. The state moves on whether the handler succeeds or not,
and the response is sent whether the line has an identifier or not. -/
def initializeArm (st : DispatchState) (request : JsonRpcRequest) : DispatchState × List Effect :=
  let id := request.id.getD .null
  let response := match handleInitialize gw.decodeInitialize (request.params.getD (.object [])) with
    | .ok result => JsonRpcResponse.success id result
    | .error (code, message) => .failure id code message
  ({ st with state := .initializing }, [.respond response])

/-- An answer that is given to requests and not to notifications. -/
def answer (request : JsonRpcRequest) (response : JsonRpcId → JsonRpcResponse) : List Effect :=
  if request.isNotification then [] else [.respond (response (request.id.getD .null))]

/-- The dispatch of a request its state admits. -/
def dispatch (st : DispatchState) (line : InboundLine) (request : JsonRpcRequest) :
    DispatchState × List Effect :=
  if request.method = "initialize" then gw.initializeArm st request
  else if request.method = "notifications/initialized" then
    ({ st with state := .operational }, [])
  else if request.method = "tools/list" then
    (st, answer request fun id => .success id (gw.toolsList st.hotConfig.killSwitch))
  else if request.method = "tools/call" then
    if request.isNotification then (st, [])
    else gw.toolsCall st line (request.id.getD .null) request.params
  else if request.method = "ping" then
    (st, answer request fun id => .success id (.object []))
  else
    (st, answer request fun id =>
      .failure id methodNotFoundCode ("Method not found: " ++ request.method))

/-- The request on a line, or the parser's complaint. -/
def parseRequest (line : InboundLine) : Except String JsonRpcRequest :=
  gw.serde.read JsonRpcRequest.decode line.text

/-- One iteration of the loop of `run_dispatch`. -/
def processLine (st : DispatchState) (line : InboundLine) : DispatchState × List Effect :=
  match gw.parseRequest line with
  | .error e => (st, [.respond (.failure .null parseErrorCode ("Parse error: " ++ e))])
  | .ok request =>
    if st.state.canAcceptMethod request.method then gw.dispatch st line request
    else (st, answer request fun id => .failure id notInitializedCode "Server not initialized")

/-- One event of a session. A replacement of the hot configuration waits for the
read lock, so it falls between two lines. -/
def step (st : DispatchState) : Event → DispatchState × List Effect
  | .line line => gw.processLine st line
  | .replaceHotConfig hotConfig => ({ st with hotConfig }, [])

/-- The state in which `run_dispatch` starts its loop. -/
def start (hotConfig : HotConfig) (idRemapper : IdRemapper)
    (circuitBreakers : Table String CircuitBreaker) : DispatchState :=
  { state := .created, hotConfig, idRemapper, circuitBreakers }

/-- A gateway with no backend behind it, whose callers may do everything. Its
`initialize` wants a protocol version. -/
def bare (serde : SerdeJson) : Gateway where
  serde
  decodeInitialize params := match params.get "protocolVersion" with
    | some (.string _) => .ok ()
    | _ => .error "missing field protocolVersion"
  catalog := .new
  backends := ∅
  caller := none
  rbacConfig := { roles := AList.singleton "admin" { permissions := ["*"] } }
  auditTx := false
  metrics := false
  schemaCache := { validators := ∅ }

end Gateway

/-- The messages of a handshake, as a client sends them. -/
def initializeMessage : Json :=
  .object [("jsonrpc", .string "2.0"), ("id", .number (.posInt 1)),
    ("method", .string "initialize"),
    ("params", .object [("protocolVersion", .string "2025-03-26")])]

def initializedMessage : Json :=
  .object [("jsonrpc", .string "2.0"), ("method", .string "notifications/initialized")]

def handshakeMessages : List Json := [initializeMessage, initializedMessage]

/-- A call of a tool that a client may make. -/
def queryMessage : Json := callJson 7 "query"

/-- A line that is read at time zero and whose backend call times out, if it comes to
one. -/
def InboundLine.plain (text : String) : InboundLine :=
  { text, checkedAt := 0, allowedAt := 0, recordedAt := 0,
    outcome := .error (.invalidResponse "request timed out") }

/-- The line of a message. -/
def InboundLine.message (message : Json) : InboundLine := .plain message.text

/-- The handshake of a client. -/
def handshake : List Event :=
  [.line (.message initializeMessage), .line (.message initializedMessage)]

/-- The line of a call that a backend answers. -/
def InboundLine.answered (message reply : Json) : InboundLine :=
  { InboundLine.message message with outcome := .ok reply.text }

end SentinelGateway
