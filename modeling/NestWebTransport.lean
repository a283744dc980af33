import NestWebTransport.Core.BoundedQueue
import NestWebTransport.Core.Lifecycle
import NestWebTransport.Execution.BoundedTaskScheduler
import NestWebTransport.Execution.ExecutionPipeline
import NestWebTransport.Foundation.Directory
import NestWebTransport.Foundation.Enumeration
import NestWebTransport.Foundation.Machine
import NestWebTransport.Foundation.Tally
import NestWebTransport.Module.Options
import NestWebTransport.Routing.GatewayRegistry
import NestWebTransport.Server.DataPlane
import NestWebTransport.Server.DatagramLedger
import NestWebTransport.Server.DatagramOrder
import NestWebTransport.Server.HandlerBudget
import NestWebTransport.Server.IpRecords
import NestWebTransport.Server.PlaneEvolution
import NestWebTransport.Server.RuntimeFrame
import NestWebTransport.Server.RuntimePumps
import NestWebTransport.Server.RuntimeLedgers
import NestWebTransport.Server.RuntimeState
import NestWebTransport.Server.RuntimeWork
import NestWebTransport.Server.SessionAdmission
import NestWebTransport.Server.SessionClosure
import NestWebTransport.Server.SessionIntake
import NestWebTransport.Server.SessionValidation
import NestWebTransport.Server.WebTransportRuntime
import NestWebTransport.Server.WorkBudget
import NestWebTransport.Server.WorkOrder
import NestWebTransport.Server.WorkPlacement
import NestWebTransport.Server.Workload
import NestWebTransport.Server.RuntimeTurns
import NestWebTransport.Server.RuntimeBudget
import NestWebTransport.Server.RuntimeSessions
import NestWebTransport.Server.SessionSlots
import NestWebTransport.Server.AdmissionGate
import NestWebTransport.Server.GuardDenial
import NestWebTransport.Server.RuntimeControl
import NestWebTransport.Server.RuntimeLifecycle
import NestWebTransport.Server.RuntimeIntake
import NestWebTransport.Server.RuntimeStanding
import NestWebTransport.Server.DrainLoop
import NestWebTransport.Server.StreamCapacity
import NestWebTransport.Server.StreamLedger
import NestWebTransport.Server.StreamTracking
import NestWebTransport.Server.IntakeEnd
import NestWebTransport.Server.PumpFailure
import NestWebTransport.Driver.RWebTransportDriver
import NestWebTransport.Driver.CommandMoves
import NestWebTransport.Core.QueueRefinement
import NestWebTransport.Foundation.OrderedMap
import NestWebTransport.Routing.RegistryIndexes
import NestWebTransport.Server.HandlerPermits
import NestWebTransport.Execution.SchedulerState
import NestWebTransport.Execution.SchedulerTasks
import NestWebTransport.Execution.SchedulerBounds
import NestWebTransport.Execution.SchedulerWaiters
import NestWebTransport.Foundation.SlidingWindow
import NestWebTransport.Server.IpRate
import NestWebTransport.Server.IpInterference
import NestWebTransport.Execution.PipelineInvocation
import NestWebTransport.Execution.PipelineOrder
import NestWebTransport.Server.IdleSupervision
import NestWebTransport.Driver.SessionDispatch
import NestWebTransport.Driver.CommandOrder
import NestWebTransport.Driver.NativeServers
import NestWebTransport.Driver.LastCommand
import NestWebTransport.Driver.IncomingStreams
import NestWebTransport.Driver.IncomingReads
import NestWebTransport.Core.FixedWindowRateLimiter
import NestWebTransport.Core.RateGrants
import NestWebTransport.Server.DatagramRate
import NestWebTransport.Driver.HeldSessions
import NestWebTransport.Driver.SessionAccounting
import NestWebTransport.Driver.ConnectionStats
import NestWebTransport.Driver.StatsConsistency
import NestWebTransport.Driver.IncomingHistory
import NestWebTransport.Driver.StreamFlow
import NestWebTransport.Foundation.DepthFirst
import NestWebTransport.Execution.ProviderVisibility
import NestWebTransport.Driver.ErrorMapper
import NestWebTransport.Driver.AbortContext
import NestWebTransport.Driver.SessionAdapter
import NestWebTransport.Driver.SessionEnd
import NestWebTransport.Driver.StreamAdapters
import NestWebTransport.Driver.StreamStanding
import NestWebTransport.Driver.StreamBridges
import NestWebTransport.Driver.StreamMetrics
import NestWebTransport.Driver.StreamHalves
import NestWebTransport.Driver.StreamIndependence
import NestWebTransport.Foundation.UrlPath
import NestWebTransport.Foundation.UrlReference
import NestWebTransport.Routing.GatewayPaths
import NestWebTransport.Server.LogCallbacks
import NestWebTransport.Foundation.Conveyor
import NestWebTransport.Testing.BoundedValueQueue
import NestWebTransport.Testing.QueueConservation
import NestWebTransport.Driver.NativeStreamQueue
import NestWebTransport.Driver.NativeStreamDelivery
import NestWebTransport.Testing.MockDatagram
import NestWebTransport.Testing.DatagramRefusal
import NestWebTransport.Testing.MockStream
import NestWebTransport.Testing.MockSession
import NestWebTransport.Testing.SessionStreams
import NestWebTransport.Testing.SessionCloseInfo
import NestWebTransport.Testing.VirtualDriver
import NestWebTransport.Testing.VirtualBalance
import NestWebTransport.Server.StreamDispatch
import NestWebTransport.Server.StreamOwnership
import NestWebTransport.Foundation.PullLoop
import NestWebTransport.Foundation.Delivery
import NestWebTransport.Foundation.WritableStream
import NestWebTransport.Foundation.Quiescence
import NestWebTransport.Testing.BytePipe
import NestWebTransport.Testing.BytePipeDelivery
import NestWebTransport.Testing.BytePipeWakeups
import NestWebTransport.Testing.BytePipeDraining
import NestWebTransport.Driver.DatagramAdapter
import NestWebTransport.Driver.DatagramDelivery
import NestWebTransport.Driver.DatagramProgress
import NestWebTransport.Server.RetiredSessions
import NestWebTransport.Server.SessionRefusals
import NestWebTransport.Server.SessionAccounts
import NestWebTransport.Foundation.RequestTable
import NestWebTransport.Driver.SessionCore
import NestWebTransport.Driver.SessionRequests
import NestWebTransport.Driver.SessionSinks
import NestWebTransport.Driver.ReceiveStream
import NestWebTransport.Driver.ReceiveFlow
import NestWebTransport.Foundation.Relay
import NestWebTransport.Foundation.RelayDelivery
import NestWebTransport.Foundation.RelayProgress
import NestWebTransport.Foundation.Simulation
import NestWebTransport.Driver.ReceiveBridge
import NestWebTransport.Driver.ReceiveRelay
import NestWebTransport.Driver.ReceiveRest
