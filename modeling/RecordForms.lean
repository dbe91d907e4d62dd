import RecordForms.Catalogue
import RecordForms.Config
import RecordForms.Config.Toml
import RecordForms.Conversion
import RecordForms.Default.Canonical
import RecordForms.Default.Slot
import RecordForms.Definition.Basic
import RecordForms.Definition.Building
import RecordForms.Definition.Reading
import RecordForms.Definition.Source
import RecordForms.Definition.Tree
import RecordForms.Error
import RecordForms.Framework
import RecordForms.Json.Basic
import RecordForms.Json.Numeral
import RecordForms.Json.Parser
import RecordForms.Json.Printer
import RecordForms.NameMap
import RecordForms.NameSet
import RecordForms.Namespace
import RecordForms.Number.Digits
import RecordForms.Number.Double
import RecordForms.Number.Rounding
import RecordForms.Number.Shortest
import RecordForms.Proofs.Catalogue
import RecordForms.Proofs.Conversion
import RecordForms.Proofs.Definition.Accepted
import RecordForms.Proofs.Definition.Alignment
import RecordForms.Proofs.Definition.Imports
import RecordForms.Proofs.Definition.Lines
import RecordForms.Proofs.Definition.Passage
import RecordForms.Proofs.Definition.Readable
import RecordForms.Proofs.Definition.Refused
import RecordForms.Proofs.Definition.Slots
import RecordForms.Proofs.Definition.Statement
import RecordForms.Proofs.Except
import RecordForms.Proofs.Json.Numeral
import RecordForms.Proofs.Json.Parts
import RecordForms.Proofs.Json.Quoted
import RecordForms.Proofs.Json.RoundTrip
import RecordForms.Proofs.Namespace
import RecordForms.Proofs.Namespace.Flat
import RecordForms.Proofs.Namespace.Substitution
import RecordForms.Proofs.Namespace.Vocabulary
import RecordForms.Proofs.Number.Digits
import RecordForms.Proofs.Number.Double
import RecordForms.Proofs.Number.Shortest
import RecordForms.Proofs.Number.Spelling
import RecordForms.Proofs.Reader.Integer
import RecordForms.Proofs.Reader.Number
import RecordForms.Proofs.Scan.Arguments
import RecordForms.Proofs.Scan.Bindings
import RecordForms.Proofs.Scan.Configuration
import RecordForms.Proofs.Scan.Declarations
import RecordForms.Proofs.Scan.Defaults
import RecordForms.Proofs.Scan.Fields
import RecordForms.Proofs.Scan.Flat
import RecordForms.Proofs.Scan.Functional
import RecordForms.Proofs.Scan.Markers
import RecordForms.Proofs.Scan.Quoted
import RecordForms.Proofs.Scan.Rearranged
import RecordForms.Proofs.Scan.Rebuilding
import RecordForms.Proofs.Scan.Recognized
import RecordForms.Proofs.Scan.Records
import RecordForms.Proofs.Scan.Required
import RecordForms.Proofs.Scan.Resolving
import RecordForms.Proofs.Scan.Surroundings
import RecordForms.Proofs.Scan.Types
import RecordForms.Proofs.Scan.Unit
import RecordForms.Proofs.Schema.Decoding
import RecordForms.Proofs.Schema.Distinct
import RecordForms.Proofs.Schema.Json
import RecordForms.Proofs.Schema.Lookup
import RecordForms.Proofs.Schema.Order
import RecordForms.Proofs.Schema.Places
import RecordForms.Proofs.Source.Imports
import RecordForms.Proofs.Source.Lines
import RecordForms.Proofs.Store
import RecordForms.Proofs.Text.Identifiers
import RecordForms.Proofs.Text.Lines
import RecordForms.Proofs.Text.Names
import RecordForms.Proofs.Tree.Literal
import RecordForms.Proofs.TypeExpr.Escapes
import RecordForms.Proofs.TypeExpr.Flat
import RecordForms.Proofs.TypeExpr.Places
import RecordForms.Proofs.TypeExpr.Regular
import RecordForms.Proofs.TypeExpr.RoundTrip
import RecordForms.Proofs.TypeExpr.Taken
import RecordForms.Proofs.TypeExpr.Tokens
import RecordForms.Proofs.TypeExpr.Walk
import RecordForms.Proofs.Value.Integers
import RecordForms.Proofs.Value.Json
import RecordForms.Proofs.Value.Lines
import RecordForms.Proofs.Value.Numbers
import RecordForms.Proofs.Value.Quoted
import RecordForms.Proofs.Value.StringLiteral
import RecordForms.Proofs.Value.Text
import RecordForms.Reader.Bracket
import RecordForms.Reader.CasePattern
import RecordForms.Reader.Compound
import RecordForms.Reader.Cursor
import RecordForms.Reader.Expression
import RecordForms.Reader.Grammar
import RecordForms.Reader.Number
import RecordForms.Reader.Operand
import RecordForms.Reader.Parameter
import RecordForms.Reader.Quoted
import RecordForms.Reader.Rules
import RecordForms.Reader.Sequence
import RecordForms.Reader.Simple
import RecordForms.Reader.Target
import RecordForms.Reader.TypeAnnotation
import RecordForms.Scan.Error
import RecordForms.Scan.Field
import RecordForms.Scan.Markers
import RecordForms.Scan.Record
import RecordForms.Scan.Unit
import RecordForms.Schema.Basic
import RecordForms.Schema.Json
import RecordForms.Source.Document
import RecordForms.Source.Layout
import RecordForms.Source.Tree
import RecordForms.Store
import RecordForms.Text.Alphabetic
import RecordForms.Text.CharClass
import RecordForms.Text.IdentifierContinue
import RecordForms.Text.IdentifierStart
import RecordForms.Text.Numeric
import RecordForms.Text.Pieces
import RecordForms.Text.Slice
import RecordForms.Toml.Basic
import RecordForms.Toml.Parser
import RecordForms.Tree.Basic
import RecordForms.Tree.Literal
import RecordForms.Tree.Printer
import RecordForms.TypeExpr.Basic
import RecordForms.TypeExpr.Parser
import RecordForms.TypeExpr.Walk
import RecordForms.Value.Basic
import RecordForms.Value.Printer
import RecordForms.Value.Reader
