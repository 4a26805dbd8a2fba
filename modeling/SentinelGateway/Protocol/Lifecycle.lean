import SentinelGateway.Protocol.JsonRpc

/-!
# The session lifecycle

The states of `protocol/mcp.rs`, the methods each of them admits, and the
`initialize` handler. Whether the parameters of an `initialize` decode is up to
the protocol library, so the decoder is a parameter that accepts or rejects.
-/

namespace SentinelGateway

/-- `McpState`. -/
inductive McpState where
  | created
  | initializing
  | operational
  | closed
  deriving DecidableEq

/-- `McpState::can_accept_method`. -/
def McpState.canAcceptMethod : McpState → String → Bool
  | .created, method => method = "initialize" || method = "ping"
  | .initializing, method => method = "notifications/initialized" || method = "ping"
  | .operational, _ => true
  | .closed, _ => false

/-- The result of a successful `initialize`: protocol version, capabilities,
server name and version, and instructions. -/
def initializeResult : Json :=
  .object [
    ("protocolVersion", .string "2025-03-26"),
    ("capabilities", .object [("tools", .object [])]),
    ("serverInfo", .object [("name", .string "sentinel-gateway"), ("version", .string "0.1.0")]),
    ("instructions", .string "Sentinel Gateway - governed MCP tool access")]

/-- `handle_initialize`. The decoder stands for `InitializeRequestParams`; the
client's name and version are only logged. -/
def handleInitialize (decodeParams : Json → Except String Unit) (params : Json) :
    Except (ℤ × String) Json :=
  match decodeParams params with
  | .error e => .error (invalidParamsCode, "Invalid initialize params: " ++ e)
  | .ok () => .ok initializeResult

end SentinelGateway
