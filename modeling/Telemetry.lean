import Telemetry.Alert.Aggregate
import Telemetry.Alert.Evaluator
import Telemetry.Alert.Ranking
import Telemetry.Alert.Window
import Telemetry.Command.Arguments
import Telemetry.Command.Run
import Telemetry.Command.Serving
import Telemetry.Datum
import Telemetry.Failure
import Telemetry.Json.Reader
import Telemetry.Json.Writer
import Telemetry.Log.Basic
import Telemetry.Log.Line
import Telemetry.Main
import Telemetry.Metric.Amount
import Telemetry.Metric.Exposition
import Telemetry.Metric.Label
import Telemetry.Metric.Name
import Telemetry.Metric.Sink
import Telemetry.Metric.Store
import Telemetry.Monitor.Basic
import Telemetry.Monitor.Exposition
import Telemetry.Monitor.Health
import Telemetry.Number.Basic
import Telemetry.Number.Decimal
import Telemetry.Number.Numeral
import Telemetry.Number.Whole
import Telemetry.Package.Loader
import Telemetry.Package.Logger
import Telemetry.Package.Pattern.Basic
import Telemetry.Package.Pattern.Reader
import Telemetry.Probe
import Telemetry.Request.Identity
import Telemetry.Request.Profile
import Telemetry.Request.Scope
import Telemetry.Service
import Telemetry.Settings.Basic
import Telemetry.Settings.Layers
import Telemetry.Settings.Reader
import Telemetry.Settings.Start
import Telemetry.Shutdown
import Telemetry.Table
import Telemetry.Text.Blank
import Telemetry.Text.Case
import Telemetry.Text.Combining
import Telemetry.Text.Composition
import Telemetry.Text.Direction
import Telemetry.Text.Joining
import Telemetry.Text.Octets
import Telemetry.Text.Percent
import Telemetry.Text.Punycode
import Telemetry.Text.Span
import Telemetry.Text.Split
import Telemetry.Text.Units
import Telemetry.Web.Domain.Character
import Telemetry.Web.Domain.Label
import Telemetry.Web.Endpoint
import Telemetry.Web.Exchange
import Telemetry.Web.Header
import Telemetry.Web.Host
import Telemetry.Web.Inline
import Telemetry.Web.Route
import Telemetry.Web.Server
import Telemetry.Web.Traffic
import Telemetry.Web.Url
import Telemetry.Proofs.Number.Order
import Telemetry.Proofs.Number.Rounding
import Telemetry.Proofs.Number.Arithmetic
import Telemetry.Proofs.Number.Whole
import Telemetry.Proofs.Settings.Bounds
import Telemetry.Proofs.Monitor.Run
import Telemetry.Proofs.Monitor.Window
import Telemetry.Proofs.Table
import Telemetry.Proofs.Metric.History
import Telemetry.Proofs.Number.Numeral
import Telemetry.Proofs.Number.Shortest
import Telemetry.Proofs.Number.RoundTrip
import Telemetry.Proofs.Metric.Amount
import Telemetry.Proofs.Metric.ValueText
import Telemetry.Proofs.Monitor.Accounting
import Telemetry.Proofs.Metric.Buckets
import Telemetry.Proofs.Metric.Order
import Telemetry.Proofs.Metric.Scrape
import Telemetry.Proofs.Metric.Rows
import Telemetry.Proofs.Metric.Families
import Telemetry.Proofs.Metric.Growth
import Telemetry.Proofs.Monitor.Exposition
import Telemetry.Proofs.Monitor.Growth
import Telemetry.Proofs.Alert.Announcements
import Telemetry.Proofs.Alert.Cooldown
import Telemetry.Proofs.Metric.Wire
import Telemetry.Proofs.Monitor.Exports
import Telemetry.Proofs.Web.Recording
import Telemetry.Proofs.Web.Traffic
import Telemetry.Proofs.Web.Sequence
import Telemetry.Proofs.Web.Moves
import Telemetry.Proofs.Metric.Permutation
import Telemetry.Proofs.Monitor.Independence
import Telemetry.Proofs.Monitor.Permutation
import Telemetry.Proofs.Web.Status
import Telemetry.Proofs.Web.Endpoints
import Telemetry.Proofs.Web.Target
import Telemetry.Proofs.Monitor.Snapshot
import Telemetry.Proofs.Json.RoundTrip
import Telemetry.Proofs.Web.Verdict
import Telemetry.Proofs.Shutdown.Registry
import Telemetry.Proofs.Shutdown.Run
import Telemetry.Proofs.Shutdown.Withdrawal
import Telemetry.Proofs.Text.Trim
import Telemetry.Proofs.Settings.Resolution
import Telemetry.Proofs.Settings.Delivery
import Telemetry.Proofs.Metric.Sockets
import Telemetry.Proofs.Metric.Warnings
import Telemetry.Proofs.Request.Scope
import Telemetry.Proofs.Metric.Counters
import Telemetry.Proofs.Alert.Window
import Telemetry.Proofs.Alert.Percentile
import Telemetry.Proofs.Metric.Line
import Telemetry.Proofs.Metric.Label
import Telemetry.Proofs.Web.Ownership
import Telemetry.Proofs.Metric.FixedText
import Telemetry.Proofs.Web.Route
import Telemetry.Proofs.Web.Progress
import Telemetry.Proofs.Web.Abort
import Telemetry.Proofs.Command.Arguments
import Telemetry.Proofs.Command.Run
import Telemetry.Proofs.Request.Identity
import Telemetry.Proofs.Web.Identity
import Telemetry.Proofs.Web.Host
import Telemetry.Proofs.Probe
import Telemetry.Proofs.Metric.LabelText
