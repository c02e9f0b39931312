import QueueDepth.Ascending
import QueueDepth.Balanced
import QueueDepth.Calendar
import QueueDepth.Command
import QueueDepth.Command.Arguments
import QueueDepth.Command.Run
import QueueDepth.Csv
import QueueDepth.Depth
import QueueDepth.Environment
import QueueDepth.Event
import QueueDepth.Event.Key
import QueueDepth.Event.Kind
import QueueDepth.EventCounts
import QueueDepth.Files
import QueueDepth.Json
import QueueDepth.Logging
import QueueDepth.Main
import QueueDepth.Number.Binary64
import QueueDepth.Number.Unsigned
import QueueDepth.Pattern
import QueueDepth.Pattern.Anchor
import QueueDepth.Pattern.Brackets
import QueueDepth.Pattern.Escape
import QueueDepth.Pattern.Fault
import QueueDepth.Pattern.Meaning
import QueueDepth.Pattern.Nesting
import QueueDepth.Pattern.Reading
import QueueDepth.Pattern.Search
import QueueDepth.Pattern.Size
import QueueDepth.Pattern.Tree
import QueueDepth.Proofs.Arrangement
import QueueDepth.Proofs.Ascending
import QueueDepth.Proofs.Calendar.Gregorian
import QueueDepth.Proofs.Calendar.WallClock
import QueueDepth.Proofs.Command.Arguments
import QueueDepth.Proofs.Command.Output
import QueueDepth.Proofs.Command.Run
import QueueDepth.Proofs.Command.Settings
import QueueDepth.Proofs.Command.Status
import QueueDepth.Proofs.Csv.Layout
import QueueDepth.Proofs.Csv.Reader
import QueueDepth.Proofs.Csv.Reading
import QueueDepth.Proofs.Depth.Balance
import QueueDepth.Proofs.Depth.Checked
import QueueDepth.Proofs.Depth.Chronicle
import QueueDepth.Proofs.Depth.Curve
import QueueDepth.Proofs.Depth.Epoch
import QueueDepth.Proofs.Depth.Exact
import QueueDepth.Proofs.Depth.Instants
import QueueDepth.Proofs.Depth.Peak
import QueueDepth.Proofs.Depth.Rows
import QueueDepth.Proofs.Depth.Strays
import QueueDepth.Proofs.Depth.Totals
import QueueDepth.Proofs.Depth.Truncation
import QueueDepth.Proofs.Event.Order
import QueueDepth.Proofs.EventCounts
import QueueDepth.Proofs.Json
import QueueDepth.Proofs.Number.Decimal
import QueueDepth.Proofs.Report.Accounting
import QueueDepth.Proofs.Report.Conservation
import QueueDepth.Proofs.Report.Depths
import QueueDepth.Proofs.Report.Epoch
import QueueDepth.Proofs.Report.Extent
import QueueDepth.Proofs.Report.Findings
import QueueDepth.Proofs.Report.Idle
import QueueDepth.Proofs.Report.Isolation
import QueueDepth.Proofs.Report.Json
import QueueDepth.Proofs.Report.JsonText
import QueueDepth.Proofs.Report.Labels
import QueueDepth.Proofs.Report.Lines
import QueueDepth.Proofs.Report.Markers
import QueueDepth.Proofs.Report.Outcomes
import QueueDepth.Proofs.Report.Overdrawn
import QueueDepth.Proofs.Report.Peak
import QueueDepth.Proofs.Report.Points
import QueueDepth.Proofs.Report.Sections
import QueueDepth.Proofs.Report.Selections
import QueueDepth.Proofs.Report.Significance
import QueueDepth.Proofs.Report.Table
import QueueDepth.Proofs.Report.Tabulation
import QueueDepth.Proofs.Report.Text
import QueueDepth.Proofs.Report.Truncation
import QueueDepth.Proofs.Settings.Layout
import QueueDepth.Proofs.Terminal.Plain
import QueueDepth.Proofs.Terminal.Stripped
import QueueDepth.Proofs.Text.Ascii
import QueueDepth.Proofs.Text.ByteOrder
import QueueDepth.Proofs.Text.Figures
import QueueDepth.Proofs.Text.Pieces
import QueueDepth.Proofs.Text.Quoted
import QueueDepth.Proofs.Text.Trim
import QueueDepth.Proofs.Text.Within
import QueueDepth.Proofs.Timeline.Arrival
import QueueDepth.Proofs.Timeline.Epoch
import QueueDepth.Proofs.Timeline.Extent
import QueueDepth.Proofs.Timeline.Lookup
import QueueDepth.Proofs.Timeline.Markers
import QueueDepth.Proofs.Timeline.Points
import QueueDepth.Proofs.Toml.Layout
import QueueDepth.Proofs.Toml.Numbers
import QueueDepth.Proofs.Toml.Reading
import QueueDepth.Proofs.Toml.Roots
import QueueDepth.Proofs.Toml.Strings
import QueueDepth.Proofs.Trace.Canonical
import QueueDepth.Proofs.Trace.Faults
import QueueDepth.Proofs.Trace.Fields
import QueueDepth.Proofs.Trace.Grouping
import QueueDepth.Proofs.Trace.Layout
import QueueDepth.Proofs.Trace.Loaded
import QueueDepth.Proofs.Trace.Messages
import QueueDepth.Proofs.Trace.Order
import QueueDepth.Proofs.Trace.Rejection
import QueueDepth.Proofs.Trace.Rows
import QueueDepth.Proofs.Trace.Views
import QueueDepth.Report
import QueueDepth.Report.Json
import QueueDepth.Report.Text
import QueueDepth.Settings
import QueueDepth.Settings.Location
import QueueDepth.Settings.Opening
import QueueDepth.Settings.Reading
import QueueDepth.Terminal.Colour
import QueueDepth.Terminal.Plain
import QueueDepth.Terminal.Style
import QueueDepth.Text.Alphabetic
import QueueDepth.Text.Blank
import QueueDepth.Text.ByteRanges
import QueueDepth.Text.CharSet
import QueueDepth.Text.CodePoint
import QueueDepth.Text.Extending
import QueueDepth.Text.Hidden
import QueueDepth.Text.Numeral
import QueueDepth.Text.Padding
import QueueDepth.Text.Pieces
import QueueDepth.Text.Place
import QueueDepth.Text.Quoted
import QueueDepth.Text.Utf8
import QueueDepth.Timeline
import QueueDepth.Toml.Document
import QueueDepth.Toml.Excerpt
import QueueDepth.Toml.Layout
import QueueDepth.Toml.Scalar
import QueueDepth.Toml.Table
import QueueDepth.Toml.Text
import QueueDepth.Toml.Value
import QueueDepth.Trace
import QueueDepth.Trace.Grouping
import QueueDepth.Trace.Opening
import QueueDepth.Trace.Reading
