import Fpd.Async.Machine
import Fpd.Async.Channel
import Fpd.Async.Watch
import Fpd.Async.Slots
import Fpd.WebSocket.Message
import Fpd.WebSocket.KeepAlive
import Fpd.WebSocket.Reconnecting
import Fpd.WebSocket.Steps
import Fpd.WebSocket.Frames
import Fpd.WebSocket.Orphans
import Fpd.WebSocket.Ending
import Fpd.Async.Traffic
import Fpd.Arith.Overflow
import Fpd.WebSocket.Backoff
import Fpd.WebSocket.Attempts
import Fpd.Http.HeaderMap
import Fpd.WebSocket.CloneRequest
import Fpd.WebSocket.Chain
import Fpd.WebSocket.HalfOpen
import Fpd.WebSocket.Incoming
import Fpd.WebSocket.IsConnected
import Fpd.WebSocket.Outgoing
import Fpd.WebSocket.Order
import Fpd.WebSocket.Finality
import Fpd.WebSocket.Flush
import Fpd.WebSocket.Receiving
import Fpd.WebSocket.Succession
import Fpd.Async.Broadcast
import Fpd.Service.Bindings
import Fpd.Service.Connect
import Fpd.Service.Reconnection
import Fpd.Service.Lookups
import Fpd.Service.Notification
import Fpd.Service.RetryChains
import Fpd.Service.RetryPlan
import Fpd.Service.Isolation
import Fpd.Service.ProviderStatus
import Fpd.Service.Release
import Fpd.Providers.Extract
import Fpd.Providers.Containment
import Fpd.Arith.Numeral
import Fpd.Cli.Interval
import Fpd.Cli.StatusCheckInterval
import Fpd.Service.Overlap
import Fpd.WebSocket.Sessions
import Fpd.WebSocket.Draining
import Fpd.WebSocket.Renewal
import Fpd.Service.Usage
import Fpd.Service.Delivery
import Fpd.Service.Answering
import Fpd.Service.HealthCheck
import Fpd.Service.ConnectionId
import Fpd.Service.Endpoint
import Fpd.Providers.Build
import Fpd.Cli.Launch
