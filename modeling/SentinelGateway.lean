import SentinelGateway.Audit
import SentinelGateway.Auth
import SentinelGateway.Backoff
import SentinelGateway.Discovery
import SentinelGateway.EndToEnd
import SentinelGateway.Framing
import SentinelGateway.Gateway.Accounting
import SentinelGateway.Gateway.Arguments
import SentinelGateway.Gateway.Breaking
import SentinelGateway.Gateway.Fidelity
import SentinelGateway.Gateway.Footprint
import SentinelGateway.Gateway.Forwarding
import SentinelGateway.Gateway.Frames
import SentinelGateway.Gateway.Identifiers
import SentinelGateway.Gateway.Isolation
import SentinelGateway.Gateway.Listing
import SentinelGateway.Gateway.Locking
import SentinelGateway.Gateway.Mediation
import SentinelGateway.Gateway.Monitor
import SentinelGateway.Gateway.Outbound
import SentinelGateway.Gateway.Progress
import SentinelGateway.Gateway.Reloading
import SentinelGateway.Gateway.Responses
import SentinelGateway.Gateway.RetryAfter
import SentinelGateway.Gateway.Revocation
import SentinelGateway.HealthServer
import SentinelGateway.HealthViews
import SentinelGateway.Http
import SentinelGateway.Latency
import SentinelGateway.Library.Channel
import SentinelGateway.Library.RwLock
import SentinelGateway.Protocol.SharedRemapper
import SentinelGateway.Shutdown
import SentinelGateway.Stdio.Blocking
import SentinelGateway.Stdio.Draining
import SentinelGateway.Stdio.Orphans
import SentinelGateway.Stdio.RestartRate
import SentinelGateway.Stdio.Restarts
import SentinelGateway.Stdio.Traffic
import SentinelGateway.Streams
import SentinelGateway.Telemetry
import SentinelGateway.ToolDiscovery
import SentinelGateway.Transport
import SentinelGateway.Wiring
import SentinelGateway.ChildCalls
