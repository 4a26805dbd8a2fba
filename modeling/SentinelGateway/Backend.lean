import Mathlib.Data.List.DropRight
import SentinelGateway.Config

/-!
# Backends and their errors

The handles through which the gateway reaches its backends, and the errors of
`backend/error.rs` with the texts the client gets to see.
-/

namespace SentinelGateway

/-- What `reqwest::Error` is asked for. -/
structure RequestError where
  message : String
  isTimeout : Bool
  isConnect : Bool
  deriving DecidableEq

/-- `BackendError`. -/
inductive BackendError where
  | request (e : RequestError)
  | httpStatus (code : UInt16) (body : String)
  | stream (e : RequestError)
  | noDataInSse
  | invalidResponse (message : String)
  | processExited (message : String)
  | stdinClosed
  deriving DecidableEq

/-- The `Display` text of an error. -/
def BackendError.display : BackendError → String
  | .request e => "request error: " ++ e.message
  | .httpStatus code body => "HTTP " ++ toString code.toNat ++ ": " ++ body
  | .stream e => "stream error: " ++ e.message
  | .noDataInSse => "no data line found in SSE response"
  | .invalidResponse message => "invalid response: " ++ message
  | .processExited message => "child process exited: " ++ message
  | .stdinClosed => "stdin channel to child process is closed"

/-- `HttpBackend`. -/
structure HttpBackend where
  url : String
  timeout : Duration
  maxRetries : ℕ
  authSecret : Option String
  deriving DecidableEq

/-- `HttpBackend::new`: the path `/mcp` is appended to the URL unless it is there. -/
def HttpBackend.new (config : BackendConfig) (authSecret : Option String) : HttpBackend :=
  let base := String.ofList
    ((config.url.getD "http://localhost:3000").toList.rdropWhile (· = '/'))
  { url := if base.endsWith "/mcp" then base else base ++ "/mcp"
    timeout := config.timeoutSecs
    maxRetries := config.retries
    authSecret }

/-- `StdioBackend`. Its stdin channel, pending map and process id all belong to
one spawned child, which the handle names. -/
structure StdioBackend where
  name : String
  child : ℕ
  timeout : Duration
  deriving DecidableEq

/-- `Backend`. -/
inductive Backend where
  | http (backend : HttpBackend)
  | stdio (backend : StdioBackend)
  deriving DecidableEq

end SentinelGateway
