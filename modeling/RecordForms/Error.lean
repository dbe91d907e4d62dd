import RecordForms.Default.Slot
import RecordForms.Namespace

/-!
# Why a record cannot be read or built

The reasons for which a definition has no schema, or a schema no definition, and their wording.

## Main definitions

* `MemberFault`: why a member of a record is no field
* `DefaultFault`: why a default cannot be given
* `RecordError`: the reasons, with `RecordError.message`
-/

namespace RecordForms

/-- Why a member of a record is not a field with a name, a type and a default. -/
inductive MemberFault where
  | attributeWithoutInit
  | fieldWithoutInit
  | computed
  | optionalKey
  /-- A token for "no default" that belongs to another framework. -/
  | foreignToken (framework : Framework) (token : AbsenceToken)
  /-- A factory whose value is not known without calling it. -/
  | unknownFactory (path : String)
  deriving DecidableEq, Repr

/-- The fault in words. -/
def MemberFault.message : MemberFault → String
  | attributeWithoutInit => "attribute is excluded from __init__"
  | fieldWithoutInit => "field is excluded from __init__"
  | computed => "computed fields are derived, not stored"
  | optionalKey => "key is not required"
  | foreignToken framework token =>
    framework.name ++ " metadata carries foreign sentinel " ++ token.text
  | unknownFactory path => s!"default is computed by factory `{path}`"

/-- Why a framework cannot give a field its default. -/
inductive DefaultFault where
  | requiredMarker
  | mutableByValue
  | mutableNotEmpty
  | keyWithDefault
  deriving DecidableEq, Repr

/-- The fault in words. -/
def DefaultFault.message : DefaultFault → String
  | requiredMarker => "pydantic reads `...` as a required marker"
  | mutableByValue => "mutable defaults must be produced by a default_factory"
  | mutableNotEmpty => "only empty mutable defaults are copied per instance"
  | keyWithDefault => "TypedDict keys cannot have defaults"

/-- Why a definition has no schema, or a schema no definition. -/
inductive RecordError where
  /-- A member is not a field with a name, a type and a default. -/
  | unsupportedMember (record field : String) (reason : MemberFault)
  /-- The type of a field cannot be resolved. -/
  | typeResolution (record field reference : String) (reason : Namespace.Unresolved)
  /-- A required field follows a default and instances are built by position. -/
  | fieldOrder (record field after : String) (framework : Framework)
  /-- The framework cannot give a field its default. -/
  | unsupportedDefault (record field : String) (framework : Framework) (value : Value)
      (reason : DefaultFault)
  /-- Two fields have one name. -/
  | duplicateField (record field : String)
  /-- The record belongs to another framework. -/
  | frameworkMismatch (expected found : Framework) (record : String)
  deriving DecidableEq, Repr

/-- The reason in words. -/
def RecordError.message : RecordError → String
  | unsupportedMember record field reason =>
    s!"{record}.{field}: unsupported member: " ++ reason.message
  | typeResolution record field reference reason =>
    s!"{record}.{field}: cannot resolve type `{reference}`: " ++ reason.message
  | fieldOrder record field after framework =>
    s!"{record}: required field `{field}` follows defaulted field `{after}` and " ++
      framework.name ++ " construction is positional"
  | unsupportedDefault record field framework value reason =>
    s!"{record}.{field}: default `" ++ value.text ++ "` cannot be represented in " ++
      framework.name ++ ": " ++ reason.message
  | duplicateField record field => s!"{record}: duplicate field `{field}`"
  | frameworkMismatch expected found record =>
    "expected a " ++ expected.name ++ " record, got " ++ found.name ++ s!" record `{record}`"

end RecordForms
