import GoOdin.Interaction.Run
import GoOdin.Interaction.Program
import GoOdin.Interaction.Pool
import GoOdin.Cqrs.Envelope
import GoOdin.Loyalty.Domain
import GoOdin.Loyalty.Store
import GoOdin.Loyalty.CreditHandler
import GoOdin.Loyalty.CreditRun
import GoOdin.Loyalty.Ledger
import GoOdin.Loyalty.OrderCompleted
import GoOdin.Loyalty.CreditStages
import GoOdin.Loyalty.AtMostOnce
import GoOdin.Loyalty.LostUpdate
import GoOdin.Saga.Handler
import GoOdin.Saga.Sequential
import GoOdin.Saga.Retries
import GoOdin.Saga.Stages
import GoOdin.Saga.Concurrent
import GoOdin.Cqrs.Codec
import GoOdin.Watermill.EventBus
import GoOdin.Loyalty.OrderAcknowledged
import GoOdin.Choreography
import GoOdin.Watermill.Transports
import GoOdin.Loyalty.BalanceQuery
import GoOdin.Interaction.Loop
import GoOdin.Operation.Message
import GoOdin.Text.Lines
import GoOdin.Interaction.MapRange
import GoOdin.Workers.Client
import GoOdin.Workers.Registry
import GoOdin.Operation.Control
import GoOdin.Workers.Registration
import GoOdin.Workers.Lifecycle
import GoOdin.Workers.Receive
import GoOdin.Workers.Traffic
import GoOdin.Logs.LogHandler
import GoOdin.Logs.Batching
import GoOdin.Logs.Derived
import GoOdin.Hooks.Hook
import GoOdin.Drivers.Manager
import GoOdin.Drivers.Replacement
import GoOdin.App.Shutdown
import GoOdin.Adapters.SqlAdapters
import GoOdin.Memory.Table
import GoOdin.Orders.OrderRepository
import GoOdin.Orders.OrderService
import GoOdin.Hooks.Execution
import GoOdin.Loyalty.Aggregate
import GoOdin.Text.Numbered
import GoOdin.Watermill.HandlerNames
import GoOdin.Workers.RegistryMap
import GoOdin.Gorm.Paginate
import GoOdin.Logs.Attr
import GoOdin.Logs.Entry
import GoOdin.Logs.Composition
import GoOdin.Logs.Placement
import GoOdin.Logs.Nested
import GoOdin.Tools.Lifo
import GoOdin.Core.Query
import GoOdin.Sql.Clause
import GoOdin.Gorm.Search
import GoOdin.Monitoring.Traceparent
import GoOdin.Http.RequestBinder
import GoOdin.Http.ErrorHandler
import GoOdin.Text.JsonInverse
import GoOdin.Text.JsonDecode
import GoOdin.Operation.Wire
import GoOdin.Workers.Delivery
import GoOdin.Interaction.CircuitBreaker
import GoOdin.Loyalty.OrderDetailRequest
import GoOdin.Interaction.Rely
import GoOdin.Choreography.Sound
import GoOdin.Loyalty.OverlappingCredits
import GoOdin.Http.LoyaltyApi
import GoOdin.Workers.Fleet
import GoOdin.Workers.Streams
import GoOdin.Workers.Views
import GoOdin.App.Config
import GoOdin.Monitoring.Otel
import GoOdin.Monitoring.Providers
import GoOdin.Adapters.Connect
import GoOdin.App.Bootstrap
import GoOdin.App.All
import GoOdin.Interaction.OneAtATime
import GoOdin.Loyalty.OrderLedger
import GoOdin.Choreography.Settled
import GoOdin.Gorm.Statement
