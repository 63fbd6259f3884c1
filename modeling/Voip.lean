import Voip.Async.AllButOne
import Voip.Async.Interleave
import Voip.Async.Log
import Voip.Async.Outcome
import Voip.Async.Pending
import Voip.Async.RelyGuarantee
import Voip.Async.Routine
import Voip.Async.Settles
import Voip.Async.Task
import Voip.Async.Tickets
import Voip.Async.Trace
import Voip.Async.Unwinding
import Voip.Client.Attempts
import Voip.Client.Bridge
import Voip.Client.BridgeDelivery
import Voip.Client.Capsule
import Voip.Client.CapsuleCodec
import Voip.Client.CapsuleRoundTrip
import Voip.Client.CapsuleSafety
import Voip.Client.Connection
import Voip.Client.DirectPath
import Voip.Client.FallbackChain
import Voip.Client.FallbackStages
import Voip.Client.JitterBuffer
import Voip.Client.JitterConservation
import Voip.Client.JitterRelease
import Voip.Client.MediaPath
import Voip.Client.Moq
import Voip.Client.MoqChunks
import Voip.Client.MoqControl
import Voip.Client.MoqDatagram
import Voip.Client.MoqHandshake
import Voip.Client.MoqSetup
import Voip.Client.MoqSetupSafety
import Voip.Client.MoqVarint
import Voip.Client.NatCache
import Voip.Client.NatClassify
import Voip.Client.NatProbe
import Voip.Client.Pipeline
import Voip.Client.PortRange
import Voip.Client.ProbeAgreement
import Voip.Client.ProbePorts
import Voip.Client.ProbeSafety
import Voip.Client.ProxyCodec
import Voip.Client.ProxyToken
import Voip.Client.ProxyUrl
import Voip.Client.PushRetry
import Voip.Client.QualityReports
import Voip.Client.QuickRefresh
import Voip.Client.ReadsSelf
import Voip.Client.Recovery
import Voip.Client.RelayLimits
import Voip.Client.RelayWindows
import Voip.Client.RetryScheduler
import Voip.Client.SelectLoop
import Voip.Client.SequentialPorts
import Voip.Client.SessionCalls
import Voip.Client.SessionClosing
import Voip.Client.SessionStore
import Voip.Client.SignalingHttp
import Voip.Client.Subscribe
import Voip.Client.TicketFreshness
import Voip.Client.TicketHistory
import Voip.Client.TicketLoss
import Voip.Client.TokenAgreement
import Voip.Client.TokenBinding
import Voip.Client.TokenCodec
import Voip.Core.CallState
import Voip.Core.Config
import Voip.Core.Crypto
import Voip.Core.PeerId
import Voip.Core.RecordFields
import Voip.Core.RecordProto
import Voip.Core.RecordText
import Voip.Core.Retry
import Voip.Core.Types
import Voip.Dht.Authenticity
import Voip.Dht.Conversion
import Voip.Dht.CrateAgreement
import Voip.Dht.Discovery
import Voip.Dht.EventLoop
import Voip.Dht.Expiry
import Voip.Dht.QueryReplies
import Voip.Dht.Record
import Voip.Dht.RecordKeys
import Voip.Dht.Refresh
import Voip.Dht.Replies
import Voip.Dht.Selection
import Voip.Dht.Separation
import Voip.Dht.SignalingClient
import Voip.Dht.Standalone
import Voip.Dht.Verifiers
import Voip.Fallback.Chain
import Voip.Float.Vanishing
import Voip.Lru.Cache
import Voip.Machine.Checked
import Voip.Machine.Counted
import Voip.Machine.History
import Voip.Order.FirstLeast
import Voip.Queue.Ascending
import Voip.Queue.Mailbox
import Voip.Queue.Stamped
import Voip.Queue.Window
import Voip.Result.Except
import Voip.Scripts.UdpTcpBridge
import Voip.Signaling.ActingAs
import Voip.Signaling.Action
import Voip.Signaling.Admission
import Voip.Signaling.AppState
import Voip.Signaling.Auth
import Voip.Signaling.Base64Url
import Voip.Signaling.Blocking
import Voip.Signaling.Buckets
import Voip.Signaling.CallAuthority
import Voip.Signaling.CallChecks
import Voip.Signaling.CallLifecycle
import Voip.Signaling.CallRoles
import Voip.Signaling.CallRouting
import Voip.Signaling.CallSettling
import Voip.Signaling.Changes
import Voip.Signaling.Cleanup
import Voip.Signaling.Concealment
import Voip.Signaling.Continuation
import Voip.Signaling.Deadlock
import Voip.Signaling.Delivery
import Voip.Signaling.Discipline
import Voip.Signaling.Effects
import Voip.Signaling.Error
import Voip.Signaling.Exec
import Voip.Signaling.Filling
import Voip.Signaling.Footprint
import Voip.Signaling.Handlers
import Voip.Signaling.Handling
import Voip.Signaling.Http
import Voip.Signaling.Identity
import Voip.Signaling.InName
import Voip.Signaling.InOrder
import Voip.Signaling.Isolation
import Voip.Signaling.Jwt
import Voip.Signaling.JwtCorrectness
import Voip.Signaling.JwtFormat
import Voip.Signaling.Likeness
import Voip.Signaling.Message
import Voip.Signaling.Move
import Voip.Signaling.Pacing
import Voip.Signaling.PeerAuthority
import Voip.Signaling.PeerIdentity
import Voip.Signaling.PeerUpdate
import Voip.Signaling.PushRetry
import Voip.Signaling.QuicProbe
import Voip.Signaling.RateBound
import Voip.Signaling.RateLimit
import Voip.Signaling.Reference
import Voip.Signaling.Registered
import Voip.Signaling.Registration
import Voip.Signaling.Relay
import Voip.Signaling.RelayAtomicity
import Voip.Signaling.RequestTrace
import Voip.Signaling.Retention
import Voip.Signaling.RetryBound
import Voip.Signaling.RetryLog
import Voip.Signaling.RetryTasks
import Voip.Signaling.Router
import Voip.Signaling.Routing
import Voip.Signaling.Sequential
import Voip.Signaling.Server
import Voip.Signaling.Session
import Voip.Signaling.Signing
import Voip.Signaling.Snapshot
import Voip.Signaling.Staleness
import Voip.Signaling.State
import Voip.Signaling.Steady
import Voip.Signaling.Subject
import Voip.Signaling.TaskSlots
import Voip.Signaling.Teardown
import Voip.Signaling.Transition
import Voip.Signaling.Unnoticed
import Voip.Text.Separators
import Voip.TokenBucket.Budget
import Voip.Wire.Base64
import Voip.Wire.Bytes
import Voip.Wire.Canonical
import Voip.Wire.Decode
import Voip.Wire.Fields
import Voip.Wire.Json
import Voip.Wire.Leb128
import Voip.Wire.Proto
import Voip.Wire.QuicVarint
import Voip.Wire.Spelling
import Voip.Wire.Stream
import Voip.Wire.Tagged
import Voip.Wire.Text
