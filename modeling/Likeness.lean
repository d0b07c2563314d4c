import Likeness.Batch.Artefacts
import Likeness.Batch.Pair
import Likeness.Batch.Record
import Likeness.Batch.Run
import Likeness.Batch.Summary
import Likeness.CharSet.Basic
import Likeness.CharSet.Filter
import Likeness.CharSet.Range
import Likeness.Command.Arguments
import Likeness.Command.Misuse
import Likeness.Command.Program
import Likeness.Command.Request
import Likeness.Command.Scoring
import Likeness.Command.Shown
import Likeness.Command.Usage
import Likeness.Decimal.Binary
import Likeness.Decimal.Exact
import Likeness.Decimal.Layout
import Likeness.Decimal.Numeral
import Likeness.Decimal.Shortest
import Likeness.Edit.Band
import Likeness.Edit.Distance
import Likeness.Edit.Lookup
import Likeness.Fault
import Likeness.HashCode.Append
import Likeness.HashCode.Fields
import Likeness.HashCode.Word
import Likeness.Json.Document
import Likeness.Json.Problem
import Likeness.Json.Quoted
import Likeness.Json.Reader
import Likeness.Json.Writer
import Likeness.Main
import Likeness.Match.Jaro
import Likeness.Match.Subsequence
import Likeness.Match.Winkler
import Likeness.Matrix
import Likeness.Metric.Basic
import Likeness.Metric.Comparison
import Likeness.Metric.Positional
import Likeness.Metric.Registry
import Likeness.Parameter
import Likeness.Power
import Likeness.Prefix
import Likeness.Proofs.Batch.Run
import Likeness.Proofs.Edit.Band
import Likeness.Proofs.Edit.Table
import Likeness.Proofs.HashCode.Codes
import Likeness.Proofs.HashCode.Polynomial
import Likeness.Proofs.HashCode.Reordering
import Likeness.Proofs.Match.Greedy
import Likeness.Proofs.Matrix
import Likeness.Proofs.Metric.Builtin
import Likeness.Proofs.Metric.Distance
import Likeness.Proofs.Ranking
import Likeness.Proofs.Results
import Likeness.Proofs.Session.Work
import Likeness.Ranking
import Likeness.Scalar
import Likeness.Schema.Complaint
import Likeness.Schema.Reading
import Likeness.Session.Instant
import Likeness.Session.Level
import Likeness.Session.Work
import Likeness.Settings.Basic
import Likeness.Settings.File
import Likeness.Settings.MetricChoice
import Likeness.Statistics.Mean
import Likeness.Statistics.Merge
import Likeness.Statistics.Order
import Likeness.Statistics.Run
import Likeness.Store.Basic
import Likeness.Store.Path
import Likeness.Table.Row
import Likeness.Table.Writer
import Likeness.Terminal.Color
import Likeness.Terminal.Handler
import Likeness.Terminal.Layout
import Likeness.Terminal.Literal
import Likeness.Terminal.Markup
import Likeness.Terminal.Pictograph
import Likeness.Terminal.Problem
import Likeness.Terminal.ShortCode
import Likeness.Terminal.Style
import Likeness.Text.Base64
import Likeness.Text.Blank
import Likeness.Text.Capital
import Likeness.Text.DecimalDigit
import Likeness.Text.Draft
import Likeness.Text.Folding
import Likeness.Text.Lines
import Likeness.Text.Pieces
import Likeness.Text.Printable
import Likeness.Text.Quoted
import Likeness.Text.Ranges
import Likeness.Text.Small
import Likeness.Text.Split
import Likeness.Text.Utf8
import Likeness.Value.Basic
import Likeness.Value.Declaration
import Likeness.Value.Equality
import Likeness.Value.Hashable
import Likeness.Value.Places
import Likeness.Value.Slots
import Likeness.Value.Written
import Likeness.Yaml.Arrangement
import Likeness.Yaml.Block
import Likeness.Yaml.Cursor
import Likeness.Yaml.Document
import Likeness.Yaml.Form
import Likeness.Yaml.Inclusion
import Likeness.Yaml.Making
import Likeness.Yaml.Node
import Likeness.Yaml.Numeral
import Likeness.Yaml.Plain
import Likeness.Yaml.Problem
import Likeness.Yaml.Quoted
import Likeness.Yaml.Refusal
import Likeness.Yaml.Scalar
import Likeness.Yaml.Stream
import Likeness.Yaml.Tag
import Likeness.Yaml.Timestamp
import Likeness.Yaml.Token
import Likeness.Proofs.Batch.Threshold
import Likeness.Proofs.Match.Subsequence
import Likeness.Proofs.Scalar.Double
import Likeness.Proofs.Command.Scoring
import Likeness.Proofs.Batch.ScoreTable
import Likeness.Proofs.Text.Lines
import Likeness.Proofs.Json.Quoted
import Likeness.Proofs.Json.Scalars
import Likeness.Proofs.Json.RoundTrip
import Likeness.Proofs.Batch.Summary
import Likeness.Proofs.Json.Files
import Likeness.Proofs.Batch.Trace
import Likeness.Proofs.Decimal.Doubles
import Likeness.Proofs.Decimal.Notation
import Likeness.Proofs.Json.Doubles
import Likeness.Proofs.Batch.Failures
import Likeness.Proofs.Scalar.Rounding
import Likeness.Proofs.Scalar.Values
import Likeness.Proofs.Scalar.Arithmetic
import Likeness.Proofs.Scalar.Doubles
import Likeness.Proofs.Scalar.DoubleRounds
import Likeness.Proofs.Match.Similarity
import Likeness.Proofs.Match.Boost
import Likeness.Proofs.Metric.Optimum
import Likeness.Proofs.Scalar.Extended
import Likeness.Proofs.Settings.Range
import Likeness.Proofs.Session.Ends
import Likeness.Proofs.Statistics.Mean
import Likeness.Proofs.Terminal.Escape
import Likeness.Proofs.Command.Accepted
import Likeness.Proofs.Batch.Writing
import Likeness.Proofs.Command.Printing
import Likeness.Proofs.Command.Outcome
import Likeness.Proofs.Edit.Script
import Likeness.Proofs.Match.Maximum
import Likeness.Proofs.Metric.Sequences
import Likeness.Proofs.Value.Numbers
import Likeness.Proofs.Value.Equality
import Likeness.Proofs.Value.Equated
import Likeness.Proofs.HashCode.Sums
import Likeness.Proofs.HashCode.Equality
import Likeness.Proofs.Edit.Triangle
import Likeness.Proofs.Prefix
import Likeness.Proofs.Match.Rearrangement
import Likeness.Proofs.Match.Fraction
import Likeness.Proofs.HashCode.Leaves
import Likeness.Proofs.CharSet.Definition
import Likeness.Proofs.Metric.Order
import Likeness.Proofs.Match.Embedding
import Likeness.Proofs.CharSet.Filter
import Likeness.Proofs.CharSet.Slices
import Likeness.Proofs.CharSet.Runs
import Likeness.Proofs.Batch.Pairs
import Likeness.Proofs.Batch.Reports
import Likeness.Proofs.Value.Points
import Likeness.Proofs.Metric.Prefixes
import Likeness.Proofs.HashCode.Selection
import Likeness.Proofs.HashCode.Slots
import Likeness.Proofs.Edit.Reads
