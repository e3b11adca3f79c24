import EchoSync.Foundations.TransitionSystem
import EchoSync.Foundations.TaskPool
import EchoSync.Foundations.Ledger
import EchoSync.Foundations.OrderedMap
import EchoSync.Foundations.PriorityQueue
import EchoSync.Foundations.GuardedChannel
import EchoSync.Foundations.Approach
import EchoSync.Foundations.LineFit
import EchoSync.Runtime.Duration
import EchoSync.Buffer.PacketWindow
import EchoSync.Buffer.BufferManager
import EchoSync.Buffer.AdaptiveDelay
import EchoSync.Buffer.Draining
import EchoSync.Sync.Rejection
import EchoSync.Sync.Resync
import EchoSync.Sync.Sessions
import EchoSync.Sync.LeastSquares
import EchoSync.Sync.HostTime
import EchoSync.Scheduler.Restarts
import EchoSync.Scheduler.StreamOrder
import EchoSync.Scheduler.Sections
import EchoSync.Scheduler.QueueRefinement
import EchoSync.Scheduler.Snapshots
import EchoSync.Scheduler.Deadlines
import EchoSync.Scheduler.Refusals
import EchoSync.Streaming.PayloadLimit
import EchoSync.Streaming.StuckClear
import EchoSync.Streaming.OutboundOrder
import EchoSync.Streaming.Lifecycle
import EchoSync.Streaming.LiveWorkers
import EchoSync.Streaming.PausedDelivery
import EchoSync.Streaming.LengthCount
import EchoSync.Streaming.Delivery
import EchoSync.Api.Rooms
import EchoSync.Api.LookupAnswers
import EchoSync.Api.StringLiterals
import EchoSync.Api.Framing
import EchoSync.Backend.Membership
