import EntityBase.Binary64
import EntityBase.Bitfield
import EntityBase.Bitfield.Packed
import EntityBase.Building
import EntityBase.ChangeSet
import EntityBase.CharSet
import EntityBase.Component
import EntityBase.Database
import EntityBase.Decimal
import EntityBase.Digest
import EntityBase.Export
import EntityBase.Failure
import EntityBase.Ids
import EntityBase.Instant
import EntityBase.Instant.Reader
import EntityBase.Json
import EntityBase.Json.Pointer
import EntityBase.Json.Reader
import EntityBase.Machine.Arena.Basic
import EntityBase.Machine.Arena.Evaluation
import EntityBase.Machine.Arena.Program
import EntityBase.Machine.Basic
import EntityBase.Machine.Dictionary
import EntityBase.Machine.Evaluation
import EntityBase.Machine.Program
import EntityBase.Machine.Session
import EntityBase.Machine.Word
import EntityBase.Machine.Words.Collection
import EntityBase.Machine.Words.Control
import EntityBase.Machine.Words.Logic
import EntityBase.Machine.Words.Select
import EntityBase.Machine.Words.Shuffle
import EntityBase.Machine.Words.Store
import EntityBase.Pattern
import EntityBase.Pattern.ByteRanges
import EntityBase.Pattern.Class
import EntityBase.Pattern.Footprint
import EntityBase.Pattern.Node
import EntityBase.Pattern.Reader
import EntityBase.Pattern.Search
import EntityBase.Registry
import EntityBase.Schema
import EntityBase.Selection
import EntityBase.Settings
import EntityBase.Span
import EntityBase.Store.Add
import EntityBase.Store.Basic
import EntityBase.Store.Remove
import EntityBase.Store.Report
import EntityBase.StoreError
import EntityBase.Table
import EntityBase.Text.Age
import EntityBase.Text.Blank
import EntityBase.Text.Boundary
import EntityBase.Text.Casing
import EntityBase.Text.Category
import EntityBase.Text.Property
import EntityBase.Text.Quoted
import EntityBase.Text.Run
import EntityBase.Text.Script
import EntityBase.Token
import EntityBase.Token.Lexer
import EntityBase.Update
import EntityBase.Value.Arithmetic
import EntityBase.Value.Basic
import EntityBase.Value.Collection
import EntityBase.Value.Data
import EntityBase.Value.Filter
import EntityBase.Value.Order
import EntityBase.Value.Scalar
import EntityBase.Value.Text
import EntityBase.Yaml.Cursor
import EntityBase.Yaml.Node
import EntityBase.Yaml.Piece
import EntityBase.Yaml.Scalar
import EntityBase.Yaml.Tag
import EntityBase.Proofs.Registry
import EntityBase.Proofs.Store.InPlace
import EntityBase.Proofs.Store.Call
import EntityBase.Proofs.Store.Rows
import EntityBase.Proofs.Store.Plan
import EntityBase.Proofs.Store.Consistent
import EntityBase.Proofs.ChangeSet
import EntityBase.Proofs.Store.WellFormed
import EntityBase.Proofs.Store.Marks
import EntityBase.Proofs.Store.NetChange
import EntityBase.Proofs.Store.Placement
import EntityBase.Proofs.Store.Refusal
import EntityBase.Proofs.Store.AddedRows
import EntityBase.Proofs.Machine.Plain
import EntityBase.Proofs.Machine.PlainWords
import EntityBase.Proofs.Machine.Steady
import EntityBase.Proofs.Machine.SteadyWords
import EntityBase.Proofs.Machine.Tokens
import EntityBase.Proofs.Machine.Spread
import EntityBase.Proofs.Machine.Sequence
import EntityBase.Proofs.Machine.AllOrNothing
import EntityBase.Proofs.Machine.Arena.View
import EntityBase.Proofs.Machine.Arena.Follows
import EntityBase.Proofs.Machine.Arena.Evaluation
import EntityBase.Proofs.Machine.Arena.Program
import EntityBase.Proofs.Machine.Isolation
import EntityBase.Proofs.Machine.History
import EntityBase.Proofs.Token.Lexemes
import EntityBase.Proofs.Token.Number
import EntityBase.Proofs.Export.Literal
import EntityBase.Proofs.Export.Record
import EntityBase.Proofs.Store.Copy
import EntityBase.Proofs.Export.Program
import EntityBase.Proofs.Machine.Building
import EntityBase.Proofs.Export.RoundTrip
import EntityBase.Proofs.Export.Readback
import EntityBase.Proofs.Selection.Filter
import EntityBase.Proofs.Selection.Rows
import EntityBase.Proofs.Machine.Reading
import EntityBase.Proofs.Machine.Stepwise.Basic
import EntityBase.Proofs.Machine.Stepwise.Chains
import EntityBase.Proofs.Machine.Stepwise.Agreement
import EntityBase.Proofs.Machine.Stepwise.Moves
import EntityBase.Proofs.Machine.Stepwise.Invariants
import EntityBase.Proofs.Machine.Stepwise.Loops
import EntityBase.Proofs.Machine.Ceilings
import EntityBase.Proofs.Registry.Merge
import EntityBase.Proofs.Store.Merge
import EntityBase.Proofs.Export.Merge
import EntityBase.Proofs.Registry.History
import EntityBase.Proofs.Store.Definitions
import EntityBase.Proofs.Decimal.Interval
import EntityBase.Proofs.Decimal.Text
import EntityBase.Proofs.Json.Text
import EntityBase.Proofs.Registry.Content
import EntityBase.Proofs.Store.Groups
import EntityBase.Proofs.Store.FreshIds
import EntityBase.Proofs.Token.Sequel
import EntityBase.Proofs.Machine.Sequel
import EntityBase.Proofs.Machine.Relaxation
import EntityBase.Proofs.Selection.Pointwise
import EntityBase.Proofs.Machine.Printed
import EntityBase.Proofs.Binary64.Nearest
import EntityBase.Proofs.Binary64.OfInt
import EntityBase.Proofs.Value.Integers
import EntityBase.Proofs.Machine.Integers
import EntityBase.Proofs.Bitfield.Packed
import EntityBase.Proofs.Binary64.Order
import EntityBase.Proofs.Selection.Sorting
import EntityBase.Proofs.Selection.Stages
import EntityBase.Proofs.Machine.Questions
import EntityBase.Proofs.Machine.Counting
import EntityBase.Proofs.Machine.Paging
import EntityBase.Proofs.Machine.Staging
import EntityBase.Proofs.Token.Alone
import EntityBase.Proofs.Token.Coverage
import EntityBase.Proofs.Json.Content
import EntityBase.Proofs.Store.Replacement
import EntityBase.Proofs.Bitfield.Sentinel
import EntityBase.Proofs.Machine.Sentinel
import EntityBase.Proofs.Json.Pointer
import EntityBase.Proofs.Component.Pointer
import EntityBase.Proofs.Machine.Arithmetic
import EntityBase.Proofs.Value.Equality
import EntityBase.Proofs.Value.Algebra
import EntityBase.Proofs.Machine.Algebra
import EntityBase.Proofs.Component.Fields
import EntityBase.Proofs.Value.Keyed
import EntityBase.Proofs.Machine.Keyed
import EntityBase.Proofs.Machine.Segments
import EntityBase.Proofs.Instant.Text
import EntityBase.Proofs.Span
import EntityBase.Proofs.Machine.Dates
