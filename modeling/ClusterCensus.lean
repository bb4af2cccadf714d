import ClusterCensus.Agent.Api
import ClusterCensus.Agent.Basic
import ClusterCensus.Agent.Config
import ClusterCensus.Agent.Environment
import ClusterCensus.Agent.History
import ClusterCensus.Agent.Program
import ClusterCensus.Collector.Basic
import ClusterCensus.Collector.FanOut
import ClusterCensus.Collector.Handling
import ClusterCensus.Collector.Outcome
import ClusterCensus.Collector.Runner
import ClusterCensus.Collector.RunnerScenario
import ClusterCensus.Collector.Scenario
import ClusterCensus.Collector.Scenario.Basic
import ClusterCensus.Collector.Scenario.Run
import ClusterCensus.Collector.Scenario.Stop
import ClusterCensus.Collector.Starting
import ClusterCensus.Collector.Timing
import ClusterCensus.Collector.Wait
import ClusterCensus.Collector.Waiting
import ClusterCensus.Health.Basic
import ClusterCensus.Health.Probe
import ClusterCensus.Health.Registry
import ClusterCensus.Json.Decode
import ClusterCensus.Json.Printer
import ClusterCensus.Json.Reader
import ClusterCensus.Json.Value
import ClusterCensus.Kind
import ClusterCensus.Lifecycle.Guard
import ClusterCensus.Lifecycle.Machine
import ClusterCensus.Lifecycle.State
import ClusterCensus.Lifecycle.Supervisor
import ClusterCensus.Log
import ClusterCensus.Log.Filter
import ClusterCensus.Log.Journal
import ClusterCensus.Log.Pattern
import ClusterCensus.Log.Pattern.Basic
import ClusterCensus.Log.Pattern.Brackets
import ClusterCensus.Main
import ClusterCensus.Metrics.Basic
import ClusterCensus.Metrics.Exposition
import ClusterCensus.Metrics.Histogram
import ClusterCensus.Number.Binary64
import ClusterCensus.Ownership.Chain
import ClusterCensus.Ownership.Enrich
import ClusterCensus.Record.Basic
import ClusterCensus.Record.Codec
import ClusterCensus.Record.Entry
import ClusterCensus.Shipping.Loop
import ClusterCensus.Shipping.Round
import ClusterCensus.Shipping.Scenario
import ClusterCensus.Shipping.Sink
import ClusterCensus.Shipping.Tick
import ClusterCensus.Shipping.Ticker
import ClusterCensus.Snapshot
import ClusterCensus.SortedMap
import ClusterCensus.Store.Basic
import ClusterCensus.Store.Table
import ClusterCensus.Text.Basic
import ClusterCensus.Text.Extending
import ClusterCensus.Text.Invisible
import ClusterCensus.Text.Letter
import ClusterCensus.Text.Numeral
import ClusterCensus.Text.Quoted
import ClusterCensus.Time.Agenda
import ClusterCensus.Time.Clock
import ClusterCensus.Time.Instant
import ClusterCensus.Time.Moment
import ClusterCensus.Time.Span
import ClusterCensus.Proofs.Agent.Ages
import ClusterCensus.Proofs.Agent.Config
import ClusterCensus.Proofs.Agent.Probes
import ClusterCensus.Proofs.Agent.Settings
import ClusterCensus.Proofs.Agent.Views
import ClusterCensus.Proofs.Collector.Acts
import ClusterCensus.Proofs.Collector.Calls
import ClusterCensus.Proofs.Collector.FirstEvent
import ClusterCensus.Proofs.Collector.FirstFailure
import ClusterCensus.Proofs.Collector.Handling
import ClusterCensus.Proofs.Collector.Latency
import ClusterCensus.Proofs.Collector.Order
import ClusterCensus.Proofs.Collector.Outcome
import ClusterCensus.Proofs.Collector.Quiet
import ClusterCensus.Proofs.Collector.Reports
import ClusterCensus.Proofs.Collector.Run
import ClusterCensus.Proofs.Collector.Scenario
import ClusterCensus.Proofs.Collector.Sound
import ClusterCensus.Proofs.Collector.StartAccounting
import ClusterCensus.Proofs.Collector.StartAll
import ClusterCensus.Proofs.Collector.Starting
import ClusterCensus.Proofs.Collector.StopAccounting
import ClusterCensus.Proofs.Collector.Stopping
import ClusterCensus.Proofs.Collector.TimedStart
import ClusterCensus.Proofs.Collector.TimedStop
import ClusterCensus.Proofs.Collector.Upcoming
import ClusterCensus.Proofs.Collector.Wait
import ClusterCensus.Proofs.Collector.WaitAll
import ClusterCensus.Proofs.Collector.WaitEnd
import ClusterCensus.Proofs.Collector.Waiting
import ClusterCensus.Proofs.Health.Naming
import ClusterCensus.Proofs.Health.Overall
import ClusterCensus.Proofs.Health.Staleness
import ClusterCensus.Proofs.Json.Fields
import ClusterCensus.Proofs.Json.RoundTrip
import ClusterCensus.Proofs.Lifecycle.Backoff
import ClusterCensus.Proofs.Lifecycle.Callback
import ClusterCensus.Proofs.Lifecycle.Deadlines
import ClusterCensus.Proofs.Lifecycle.History
import ClusterCensus.Proofs.Lifecycle.Readers
import ClusterCensus.Proofs.Metrics.Exposition
import ClusterCensus.Proofs.Number.Binary64
import ClusterCensus.Proofs.Ownership.Again
import ClusterCensus.Proofs.Ownership.Budget
import ClusterCensus.Proofs.Ownership.Chain
import ClusterCensus.Proofs.Ownership.Cycles
import ClusterCensus.Proofs.Ownership.Enrich
import ClusterCensus.Proofs.Ownership.Namespaces
import ClusterCensus.Proofs.Ownership.Order
import ClusterCensus.Proofs.Record.Faithful
import ClusterCensus.Proofs.Record.RoundTrip
import ClusterCensus.Proofs.Shipping.Accounts
import ClusterCensus.Proofs.Shipping.Backoff
import ClusterCensus.Proofs.Shipping.Effects
import ClusterCensus.Proofs.Shipping.Loop
import ClusterCensus.Proofs.Shipping.Pace
import ClusterCensus.Proofs.Shipping.Round
import ClusterCensus.Proofs.Shipping.Shutdown
import ClusterCensus.Proofs.Shipping.Terminal
import ClusterCensus.Proofs.Shipping.Transitions
import ClusterCensus.Proofs.Snapshot
import ClusterCensus.Proofs.SortedMap
import ClusterCensus.Proofs.Store.Objects
import ClusterCensus.Proofs.Store.Reference
import ClusterCensus.Proofs.Time.Agenda
import ClusterCensus.Proofs.Time.Instant
import ClusterCensus.Proofs.Time.Moment
