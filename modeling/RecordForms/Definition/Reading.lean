import RecordForms.Default.Canonical
import RecordForms.Definition.Basic

/-!
# From a definition to its schema

A definition declares members.  Each member is asked, in order of declaration, whether it can be a
field, then for its type and then for its default; the schema exists if all of them answer.

## Main definitions

* `Member`: a member as any framework declares it
* `Definition.members`: the members of a definition
* `Definition.readMember`: the field that a member is
* `Definition.schema?`: the schema of a definition
* `Framework.read`: the same for a framework that is told which definitions to expect
-/

namespace RecordForms

/-- A member of a definition. -/
structure Member where
  name : String
  /-- Why the member cannot be a field, if it cannot. -/
  fault : Option MemberFault
  annotation : Option Annotation
  default : DefaultSlot

namespace Definition

/-- The members of a definition, in order of declaration. -/
def members : Definition → List Member
  | attrs c => c.attributes.map fun a =>
    ⟨a.name, if a.init then none else some .attributeWithoutInit, a.type, a.default⟩
  | dataclass c => c.fields.map fun f =>
    ⟨f.name, if f.init then none else some .fieldWithoutInit, some f.type, f.default⟩
  | struct c => c.fields.map fun f => ⟨f.name, none, some f.type, f.default⟩
  | namedTuple c => c.fields.map fun name =>
    ⟨name, none, c.annotations.get? name,
      match c.defaults.get? name with
      | some v => .value v
      | none => .token .notPresent⟩
  | pydantic c => c.fields.entries.map fun (name, f) => ⟨name, none, f.annotation, f.default⟩
  | typedDict c => c.annotations.entries.map fun (name, annotation) =>
    ⟨name, if c.optional.contains name then some .optionalKey else none, some annotation,
      .token .notPresent⟩

/-- The fields of a definition that are computed from others. -/
def computed : Definition → List String
  | pydantic c => c.computed
  | _ => []

/-- The type that an annotation denotes where the record is defined. -/
def readType (d : Definition) (field : String) :
    Option Annotation → Except RecordError (Option TypeExpr)
  | none => .ok none
  | some annotation =>
    match d.scope.resolveAnnotation annotation with
    | .ok t => .ok (some t)
    | .error e => .error (.typeResolution d.name field annotation.reference e)

/-- The field that a member is: first it has to be one, then its type is read, then its default. -/
def readMember (d : Definition) (m : Member) : Except RecordError Field :=
  match m.fault with
  | some fault => .error (.unsupportedMember d.name m.name fault)
  | none => do
    let type ← d.readType m.name m.annotation
    let default ← d.framework.readDefault d.name m.name m.default
    .ok ⟨m.name, type, default⟩

/-- The schema of a definition.  A computed field stands against it whatever the others are. -/
def schema? (d : Definition) : Except RecordError Schema :=
  match d.computed with
  | field :: _ => .error (.unsupportedMember d.name field .computed)
  | [] => do
    let fields ← d.members.mapM d.readMember
    Schema.ofFields? d.name fields

end Definition

/-- The schema of a definition of this framework. -/
def Framework.read (f : Framework) (d : Definition) : Except RecordError Schema :=
  if d.framework = f then d.schema? else .error (.frameworkMismatch f d.framework d.name)

end RecordForms
