import Ingest.Address.Basic
import Ingest.Address.DomainName
import Ingest.Address.Ip
import Ingest.Address.NameTables
import Ingest.Address.Offline
import Ingest.Address.Punycode
import Ingest.Address.Reading
import Ingest.Aggregation.Fields
import Ingest.Aggregation.GroupBy
import Ingest.Aggregation.Grouping
import Ingest.Aggregation.RecencyCache
import Ingest.Aggregation.Streaming
import Ingest.Checkpoint
import Ingest.CheckpointStore
import Ingest.Command.Arguments
import Ingest.Command.Failure
import Ingest.Command.Run
import Ingest.Decimal.Layout
import Ingest.Decimal.Reading
import Ingest.Decimal.Shortest
import Ingest.Error
import Ingest.Extraction
import Ingest.FanOut
import Ingest.LoadResult
import Ingest.Loading
import Ingest.Main
import Ingest.Orchestrator
import Ingest.OrderedMap
import Ingest.Pattern.Basic
import Ingest.Pattern.Reading
import Ingest.Pattern.Support
import Ingest.Pipeline
import Ingest.PipelineResult
import Ingest.Report.Results
import Ingest.Report.Table
import Ingest.Row
import Ingest.RunReport
import Ingest.Settings.Basic
import Ingest.Settings.Connection
import Ingest.Settings.Directive
import Ingest.Settings.Error
import Ingest.Settings.File
import Ingest.Settings.Logging
import Ingest.Settings.Pipelines
import Ingest.Sql.CheckpointTable
import Ingest.Sql.Identifier
import Ingest.Sql.Parameters
import Ingest.Sql.Session
import Ingest.Sql.Sink
import Ingest.Sql.Source
import Ingest.Staged
import Ingest.Status
import Ingest.Text.Alphanumeric
import Ingest.Text.Blank
import Ingest.Text.Composition
import Ingest.Text.CompositionTables
import Ingest.Text.Graphic
import Ingest.Text.Marks
import Ingest.Text.Numeral
import Ingest.Text.Percent
import Ingest.Text.Quoted
import Ingest.Text.Utf8
import Ingest.Text.Width
import Ingest.Ticker
import Ingest.Time.Calendar
import Ingest.Time.Instant
import Ingest.Time.Reading
import Ingest.Time.Stamp
import Ingest.Toml.Document
import Ingest.Toml.Reading
import Ingest.Toml.Scalar
import Ingest.Value.Basic
import Ingest.Value.Indented
import Ingest.Value.Reading
import Ingest.Value.Record
import Ingest.Value.Text
import Ingest.Window
import Ingest.Proofs.TimeOrder
import Ingest.Proofs.Pagination
import Ingest.Proofs.Loading
import Ingest.Proofs.Loading.Course
import Ingest.Proofs.Loading.Batches
import Ingest.Proofs.Loading.Reach
import Ingest.Proofs.Aggregation.Clock
import Ingest.Proofs.Aggregation.Held
import Ingest.Proofs.Aggregation.Streaming
import Ingest.Proofs.Aggregation.Runs
import Ingest.Proofs.Aggregation.Course
import Ingest.Proofs.Aggregation.Segments
import Ingest.Proofs.World.Plan
import Ingest.Proofs.World.Execution
import Ingest.Proofs.CheckpointSafety
import Ingest.Proofs.ExactlyOnce
import Ingest.Proofs.Aggregation.Grouping
import Ingest.Proofs.Simulation
import Ingest.Proofs.Aggregation.Ascending
import Ingest.Proofs.Aggregation.Traced
import Ingest.Proofs.Aggregation.Bounds
import Ingest.Proofs.Aggregation.Cuts
import Ingest.Proofs.Aggregation.Agreement
import Ingest.Proofs.Recording
import Ingest.Proofs.GroupingSafety
import Ingest.Proofs.World.Calm
import Ingest.Proofs.FanOut.Keeping
import Ingest.Proofs.FanOut.Traffic
import Ingest.Proofs.FanOut.Delivery
import Ingest.Proofs.FanOut.Bounds
import Ingest.Proofs.GrowingTable
import Ingest.Proofs.Concurrent.Assembly
import Ingest.Proofs.Concurrent.Stopping
import Ingest.Proofs.FanOut.Flow
import Ingest.Proofs.Concurrent.Progress
import Ingest.Proofs.Concurrent.Schedules
import Ingest.Proofs.World.Estate
import Ingest.Proofs.Advancing
import Ingest.Proofs.Isolation
import Ingest.Proofs.Aggregation.Reaching
import Ingest.Proofs.Resuming
import Ingest.Proofs.Reporting
import Ingest.Proofs.Ordering
import Ingest.Proofs.Concurrent.Supplying
import Ingest.Proofs.Concurrent.Gathering
import Ingest.Proofs.Concurrent.Sharing
import Ingest.Proofs.OverlappingRuns
import Ingest.Proofs.Loading.Ties
import Ingest.Proofs.DrainOrder
import Ingest.Proofs.Aggregation.Intake
import Ingest.Proofs.Failing
import Ingest.Proofs.HandOff
import Ingest.Proofs.Value.Items
import Ingest.Proofs.Value.Rounding
import Ingest.Proofs.Value.NumberOrder
import Ingest.Proofs.Aggregation.FieldWise
import Ingest.Proofs.Aggregation.Maxima
import Ingest.Proofs.Aggregation.Merging
import Ingest.Proofs.Totals
import Ingest.Proofs.Greatest
import Ingest.Proofs.Associativity
import Ingest.Proofs.Keys
import Ingest.Proofs.Watching
import Ingest.Proofs.Cursors
import Ingest.Proofs.PageEvents
import Ingest.Proofs.Loading.Events
import Ingest.Proofs.World.Watched
import Ingest.Proofs.Accounts
import Ingest.Proofs.Sql.Binding
import Ingest.Proofs.Bracketing
import Ingest.Proofs.Sql.Rebinding
import Ingest.Proofs.Aggregation.Lifetimes
import Ingest.Proofs.Stored
