import DocTables.Calendar
import DocTables.Catalog
import DocTables.Catalog.Error
import DocTables.Catalog.Split
import DocTables.Catalog.TableInfo
import DocTables.Chain
import DocTables.Chain.Sample
import DocTables.Coercion
import DocTables.Coercion.Integral
import DocTables.Column
import DocTables.Column.Json
import DocTables.CommandLine
import DocTables.CommandLine.Arguments
import DocTables.CommandLine.Error
import DocTables.CommandLine.LinePrinter
import DocTables.Config
import DocTables.Config.Json
import DocTables.Config.Toml
import DocTables.Connections
import DocTables.Connections.Redaction
import DocTables.Decimal.Binary
import DocTables.Decimal.Layout
import DocTables.Decimal.Shortest
import DocTables.Dictionary
import DocTables.Fields
import DocTables.Files
import DocTables.Inference.Sample
import DocTables.Inference.Shape
import DocTables.Instant
import DocTables.Json.Basic
import DocTables.Json.Draft
import DocTables.Json.Number
import DocTables.Json.Printer
import DocTables.Json.Quoted
import DocTables.Json.Record
import DocTables.Json.Token
import DocTables.Main
import DocTables.ObjectId
import DocTables.Pattern
import DocTables.Pattern.Set
import DocTables.Regex
import DocTables.Regex.Bracket
import DocTables.Regex.CharSet
import DocTables.Regex.ClassName
import DocTables.Regex.Escape
import DocTables.Regex.Expr
import DocTables.Regex.Flags
import DocTables.Regex.Footprint
import DocTables.Regex.Outline
import DocTables.Regex.Program
import DocTables.Regex.Reader
import DocTables.Regex.Search
import DocTables.Scan
import DocTables.Scan.Sink
import DocTables.Schema
import DocTables.Schema.Json
import DocTables.Store
import DocTables.Store.Error
import DocTables.Store.JsonLines
import DocTables.Store.Memory
import DocTables.Store.Query
import DocTables.Store.Rows
import DocTables.Text.Age
import DocTables.Text.Ascii
import DocTables.Text.Blank
import DocTables.Text.Boundary
import DocTables.Text.ByteForm
import DocTables.Text.Category
import DocTables.Text.Category.Ranges
import DocTables.Text.Cut
import DocTables.Text.Folding
import DocTables.Text.Hex
import DocTables.Text.Letters
import DocTables.Text.Numeral
import DocTables.Text.Property
import DocTables.Text.Property.Ranges
import DocTables.Text.Ranges
import DocTables.Text.Script
import DocTables.Text.Script.Shared
import DocTables.Toml.Basic
import DocTables.Toml.Entries
import DocTables.Toml.Moment
import DocTables.Toml.Number
import DocTables.Toml.Printer
import DocTables.Toml.Quoted
import DocTables.Toml.Reader
import DocTables.Toml.Space
import DocTables.Value
import DocTables.Value.Display
import DocTables.Value.Json
import DocTables.Proofs.Chain.Moves
import DocTables.Proofs.Chain.Stream
import DocTables.Proofs.Chain.Custody
import DocTables.Proofs.Fields
import DocTables.Proofs.Inference.Merge
import DocTables.Proofs.Inference.Cover
import DocTables.Proofs.Inference.Order
import DocTables.Proofs.Chain.Findings
import DocTables.Proofs.Scan.Account
import DocTables.Proofs.Scan.OwnFields
import DocTables.Proofs.Catalog.Tables
import DocTables.Proofs.Scan.Placeholders
import DocTables.Proofs.Catalog.Listing
import DocTables.Proofs.Inference.Declared
import DocTables.Proofs.ObjectId
import DocTables.Proofs.Value.RoundTrip
import DocTables.Proofs.Chain.Progress
import DocTables.Proofs.Chain.Sampling
import DocTables.Proofs.Catalog.Sample
import DocTables.Proofs.Scan.Release
import DocTables.Proofs.Store.Lines
import DocTables.Proofs.Files
import DocTables.Proofs.Store.Names
import DocTables.Proofs.Store.Agreement
import DocTables.Proofs.Scan.Printed
import DocTables.Proofs.CommandLine.Limit
import DocTables.Proofs.Coercion.DecimalText
import DocTables.Proofs.Coercion.Integral
import DocTables.Proofs.Scan.Polls
import DocTables.Proofs.Scan.Projection
import DocTables.Proofs.Regex.Machine
import DocTables.Proofs.Regex.Matches
import DocTables.Proofs.Regex.Reading
import DocTables.Proofs.Regex.Anchored
import DocTables.Proofs.Pattern.Whole
import DocTables.Proofs.Regex.Preference
import DocTables.Proofs.Text.Variants
import DocTables.Proofs.Pattern.PlainSource
import DocTables.Proofs.Pattern.Plain
import DocTables.Proofs.ObjectId.Texts
import DocTables.Proofs.Store.Numbering
import DocTables.Proofs.Inference.Columns
import DocTables.Proofs.Scan.Residual
import DocTables.Proofs.Json.Quoted
import DocTables.Proofs.Json.Reading
import DocTables.Proofs.Column.Json
import DocTables.Proofs.Catalog.Texts
import DocTables.Proofs.Connections
import DocTables.Proofs.Connections.Redaction
import DocTables.Proofs.Store.Projected
import DocTables.Proofs.Inference.Semilattice
import DocTables.Proofs.Pattern.Exact
import DocTables.Proofs.Regex.Case
import DocTables.Proofs.Regex.Forward
import DocTables.Proofs.Regex.Switches
import DocTables.Proofs.Pattern.Case
import DocTables.Proofs.Toml.Quoted
import DocTables.Proofs.Toml.Reading
import DocTables.Proofs.Config.Toml
import DocTables.Proofs.Fields.History
