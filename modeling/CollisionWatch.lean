import CollisionWatch.Bus.Basic
import CollisionWatch.Bus.Channel
import CollisionWatch.Bus.Observer
import CollisionWatch.Calendar
import CollisionWatch.CommandLine.Help
import CollisionWatch.CommandLine.Paint
import CollisionWatch.CommandLine.Program
import CollisionWatch.CommandLine.Request
import CollisionWatch.CommandLine.Transcript
import CollisionWatch.CommandLine.Wording
import CollisionWatch.Crash
import CollisionWatch.Decimal.Binary
import CollisionWatch.Decimal.Numeral
import CollisionWatch.Decimal.Places
import CollisionWatch.Decimal.Precision
import CollisionWatch.Decimal.Reading
import CollisionWatch.Decimal.Shortest
import CollisionWatch.Decimal.Style
import CollisionWatch.Duration
import CollisionWatch.Event
import CollisionWatch.Fault
import CollisionWatch.Files.Basic
import CollisionWatch.Files.Disk
import CollisionWatch.Files.Machine
import CollisionWatch.Files.Path
import CollisionWatch.FrameTree.Basic
import CollisionWatch.FrameTree.History
import CollisionWatch.FrameTree.Lookup
import CollisionWatch.FrameTree.Resolve
import CollisionWatch.FrameTree.Sample
import CollisionWatch.Geometry.Pose
import CollisionWatch.Geometry.Quaternion
import CollisionWatch.Geometry.Vector3
import CollisionWatch.Json.Number
import CollisionWatch.Json.Printer
import CollisionWatch.Json.Reader
import CollisionWatch.Json.Record
import CollisionWatch.Json.Value
import CollisionWatch.LogFormat
import CollisionWatch.Main
import CollisionWatch.Monitor.Brake
import CollisionWatch.Monitor.Schedule
import CollisionWatch.NameMap
import CollisionWatch.Notice
import CollisionWatch.Proofs.Bus.Observatory
import CollisionWatch.Proofs.Bus.Observing
import CollisionWatch.Proofs.Bus.Topics
import CollisionWatch.Proofs.Difference
import CollisionWatch.Proofs.Double
import CollisionWatch.Proofs.Exactness
import CollisionWatch.Proofs.Feed.Accounts
import CollisionWatch.Proofs.Feed.Intake
import CollisionWatch.Proofs.Feed.Ledger
import CollisionWatch.Proofs.Feed.Line
import CollisionWatch.Proofs.Feed.Segments
import CollisionWatch.Proofs.FrameTree.Alike
import CollisionWatch.Proofs.FrameTree.Chain
import CollisionWatch.Proofs.FrameTree.Growth
import CollisionWatch.Proofs.FrameTree.Order
import CollisionWatch.Proofs.FrameTree.Reference
import CollisionWatch.Proofs.FrameTree.Resending
import CollisionWatch.Proofs.FrameTree.Retention
import CollisionWatch.Proofs.FrameTree.Sampling
import CollisionWatch.Proofs.FrameTree.Search
import CollisionWatch.Proofs.FrameTree.Shortest
import CollisionWatch.Proofs.Monitor.Rounds
import CollisionWatch.Proofs.NameMap
import CollisionWatch.Proofs.Runs
import CollisionWatch.Proofs.Sentinel.Marks
import CollisionWatch.Proofs.Sentinel.Tally
import CollisionWatch.Proofs.Sentinel.Verdicts
import CollisionWatch.Proofs.Watch.Braking
import CollisionWatch.Proofs.Watch.Deeds
import CollisionWatch.Proofs.Watch.Informed
import CollisionWatch.Proofs.Watch.Sound
import CollisionWatch.Replay.Forward
import CollisionWatch.Replay.FrameLog
import CollisionWatch.Replay.Session
import CollisionWatch.Risk.Streak
import CollisionWatch.Risk.Thresholds
import CollisionWatch.Risk.Zone
import CollisionWatch.Sentinel.Basic
import CollisionWatch.Sentinel.Feed
import CollisionWatch.Settings.Basic
import CollisionWatch.Settings.Document
import CollisionWatch.Settings.Environment
import CollisionWatch.Settings.Outline
import CollisionWatch.Settings.Schema
import CollisionWatch.Settings.Storage
import CollisionWatch.Status.Basic
import CollisionWatch.Status.Board
import CollisionWatch.Text.Blank
import CollisionWatch.Text.Hidden
import CollisionWatch.Text.Lines
import CollisionWatch.Text.Outline
import CollisionWatch.Text.Quoted
import CollisionWatch.Toml.Number
import CollisionWatch.Toml.Printer
import CollisionWatch.Toml.Reader
import CollisionWatch.Toml.Table
import CollisionWatch.Toml.Text
import CollisionWatch.Toml.Value
import CollisionWatch.Wire.Event
import CollisionWatch.Wire.Fault
import CollisionWatch.Wire.Identifier
import CollisionWatch.Wire.Instant
import CollisionWatch.Wire.Status
import CollisionWatch.Wire.Thresholds
import CollisionWatch.Proofs.FrameTree.Disorder
import CollisionWatch.Proofs.Geometry.Rigid
import CollisionWatch.Proofs.FrameTree.Bearing
import CollisionWatch.Proofs.FrameTree.Consistency
import CollisionWatch.Proofs.FrameTree.Reachability
import CollisionWatch.Proofs.FrameTree.RigidLinks
import CollisionWatch.Proofs.Monitor.Vigil
import CollisionWatch.Proofs.Risk.Sensitivity
import CollisionWatch.Proofs.Sentinel.Sensitivity
import CollisionWatch.Proofs.Decimal.Binary
import CollisionWatch.Proofs.Decimal.Digits
import CollisionWatch.Proofs.Duration
import CollisionWatch.Proofs.Settings.Timing
import CollisionWatch.Proofs.Calendar
import CollisionWatch.Proofs.Json.Token
import CollisionWatch.Proofs.Json.Text
import CollisionWatch.Proofs.Json.Trailing
import CollisionWatch.Proofs.Json.Record
import CollisionWatch.Proofs.Wire.Identifier
import CollisionWatch.Proofs.Wire.Instant
import CollisionWatch.Proofs.Wire.RoundTrip
import CollisionWatch.Proofs.Replay.Recording
import CollisionWatch.Proofs.Replay.Lines
import CollisionWatch.Proofs.Decimal.Precision
import CollisionWatch.Proofs.Toml.Number
import CollisionWatch.Proofs.Toml.Quoted
import CollisionWatch.Proofs.Toml.Document
import CollisionWatch.Proofs.Toml.Table
import CollisionWatch.Proofs.Settings.Document
import CollisionWatch.Proofs.Files.Disk
import CollisionWatch.Proofs.Settings.Storage
import CollisionWatch.Proofs.Risk.Region
import CollisionWatch.Proofs.Monitor.Newest
import CollisionWatch.Proofs.Monitor.Timetable
import CollisionWatch.Proofs.Monitor.Cadence
import CollisionWatch.Proofs.Bus.Waiting
import CollisionWatch.Proofs.Sentinel.Accounts
import CollisionWatch.Proofs.Sentinel.Alarms
import CollisionWatch.Proofs.Risk.Sides
import CollisionWatch.Proofs.Monitor.Setback
import CollisionWatch.Proofs.Settings.Mounts
import CollisionWatch.Proofs.Decimal.Rounding
import CollisionWatch.Proofs.Magnitude
import CollisionWatch.Proofs.Geometry.Norm
import CollisionWatch.Proofs.Settings.Turns
import CollisionWatch.Proofs.Geometry.Blend
import CollisionWatch.Proofs.Sentinel.Trail
import CollisionWatch.Proofs.Bus.Receiving
import CollisionWatch.Proofs.Replay.Relay
