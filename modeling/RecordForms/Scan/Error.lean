import RecordForms.Error
import RecordForms.Tree.Printer

/-!
# Why a source file cannot be scanned

The constructions that a scan does not read, and their wording.

## Main definitions

* `ScanFault`: what is wrong with a node
* `ScanError`: an error of a scan, with `ScanError.message`
-/

namespace RecordForms

/-- What is wrong with a node. -/
inductive ScanFault where
  | targetNotName
  | keyWithDefault
  | mutableDefault
  | notTypeName
  | subscriptNotName
  | literalArgument
  | notType
  | notConstant
  | extraPositional
  | argumentTable
  | repeatedDefault
  | factoryForm
  | factoryNotName
  | secondMarker
  | positionalOption
  | unknownBase
  | bodyStatement
  | functionalTarget
  | functionalForm
  | entryForm
  | notEntry
  | optionTable
  | totalNotBool
  deriving DecidableEq, Repr

/-- The fault in words. -/
def ScanFault.message : ScanFault → String
  | targetNotName => "field target must be a simple name"
  | keyWithDefault => "TypedDict keys cannot have defaults"
  | mutableDefault => "dataclasses rejects mutable defaults; use default_factory"
  | notTypeName => "not a type name"
  | subscriptNotName => "subscripted type must be a name"
  | literalArgument => "Literal arguments must be constants"
  | notType => "not a type expression"
  | notConstant => "default must be a constant or a simple name"
  | extraPositional => "unexpected positional argument"
  | argumentTable => "`**` arguments cannot be read statically"
  | repeatedDefault => "default given more than once"
  | factoryForm => "expected `Factory(<callable>)`"
  | factoryNotName => "factory must be a name"
  | secondMarker => "second record marker"
  | positionalOption => "record decorators take keyword configuration only"
  | unknownBase => "base class may contribute fields"
  | bodyStatement => "only annotated fields are read from a record body"
  | functionalTarget => "make_dataclass result must be bound to one name"
  | functionalForm => "expected a literal name and a literal field list"
  | entryForm => "expected `(name, type)` or `(name, type, default)`"
  | notEntry => "expected a field entry"
  | optionTable => "`**` configuration cannot be read statically"
  | totalNotBool => "total must be a literal boolean"

/-- An error of a scan. -/
inductive ScanError where
  /-- An expression of the statement at `span` that is not read. -/
  | expr (e : Expr) (span : Span) (fault : ScanFault)
  /-- A statement that is not read. -/
  | stmt (s : Stmt) (fault : ScanFault)
  /-- A text that is no source file. -/
  | notSource
  /-- A record that has no schema. -/
  | record (e : RecordError)

/-- The message for a node of this kind and text. -/
def ScanError.nodeMessage (span : Span) (kind text : String) (fault : ScanFault) : String :=
  span.text ++ s!": unsupported {kind} `{text}`: " ++ fault.message

/-- The error in words. -/
def ScanError.message : ScanError → String
  | expr e span fault => nodeMessage span e.kind e.text fault
  | stmt s fault => nodeMessage s.span s.kind s.text fault
  | notSource => "syntax error"
  | record e => e.message

end RecordForms
