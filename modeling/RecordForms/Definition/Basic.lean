import RecordForms.Default.Slot
import RecordForms.Namespace

/-!
# Definitions

A record as one framework describes it: what the framework reports about a class that has been
defined in it.

## Main definitions

* `AttrsClass`, `Dataclass`, `StructClass`, `NamedTuple`, `PydanticModel`, `TypedDict`: the
  descriptions, one for each kind of class
* `Definition`: a description of any kind
* `Definition.framework`, `Definition.name`, `Definition.scope`: what all of them have
* `Definition.equals`: equality, maps without their order and floats by value
-/

namespace RecordForms

/-- An attribute of an attrs class. -/
structure AttrsAttribute where
  name : String
  /-- Attributes can be declared without a type. -/
  type : Option Annotation
  default : DefaultSlot
  kwOnly : Bool := false
  /-- Whether it is a parameter of the constructor. -/
  init : Bool := true
  deriving DecidableEq, Repr

/-- An attrs class. -/
structure AttrsClass where
  name : String
  scope : Namespace
  attributes : List AttrsAttribute
  kwOnly : Bool

/-- A field of a dataclass. -/
structure DataclassField where
  name : String
  type : Annotation
  default : DefaultSlot
  kwOnly : Bool := false
  /-- Whether it is a parameter of the constructor. -/
  init : Bool := true
  deriving DecidableEq, Repr

/-- A dataclass. -/
structure Dataclass where
  name : String
  scope : Namespace
  fields : List DataclassField
  kwOnly : Bool

/-- A field of a struct. -/
structure StructField where
  name : String
  /-- The name of the field in messages. -/
  encodeName : String
  type : Annotation
  default : DefaultSlot
  deriving DecidableEq, Repr

/-- A struct of msgspec. -/
structure StructClass where
  name : String
  scope : Namespace
  fields : List StructField
  kwOnly : Bool

/-- A named tuple. -/
structure NamedTuple where
  name : String
  scope : Namespace
  fields : List String
  /-- The types of the fields that have one. -/
  annotations : NameMap Annotation
  /-- The defaults of the fields that have one. -/
  defaults : NameMap Value

/-- The two shapes in which pydantic describes a model. -/
inductive PydanticVersion where
  | v1
  | v2
  deriving DecidableEq, Repr, Inhabited

/-- The framework of a version. -/
def PydanticVersion.framework : PydanticVersion → Framework
  | v1 => .pydanticV1
  | v2 => .pydanticV2

/-- A field of a pydantic model. -/
structure PydanticField where
  annotation : Option Annotation
  default : DefaultSlot
  deriving DecidableEq, Repr

/-- A pydantic model. -/
structure PydanticModel where
  name : String
  scope : Namespace
  version : PydanticVersion
  fields : NameMap PydanticField
  /-- The fields that are computed from others. -/
  computed : List String

/-- A typed dict. -/
structure TypedDict where
  name : String
  scope : Namespace
  annotations : NameMap Annotation
  required : NameSet
  optional : NameSet

/-- A record as one framework describes it. -/
inductive Definition where
  | attrs (c : AttrsClass)
  | dataclass (c : Dataclass)
  | struct (c : StructClass)
  | namedTuple (c : NamedTuple)
  | pydantic (c : PydanticModel)
  | typedDict (c : TypedDict)

namespace Definition

/-- The framework that the record is defined in. -/
def framework : Definition → Framework
  | attrs _ => .attrs
  | dataclass _ => .dataclasses
  | struct _ => .msgspec
  | namedTuple _ => .namedTuple
  | pydantic c => c.version.framework
  | typedDict _ => .typedDict

/-- The name of the record. -/
def name : Definition → String
  | attrs c => c.name
  | dataclass c => c.name
  | struct c => c.name
  | namedTuple c => c.name
  | pydantic c => c.name
  | typedDict c => c.name

/-- The namespace that the record is defined in. -/
def scope : Definition → Namespace
  | attrs c => c.scope
  | dataclass c => c.scope
  | struct c => c.scope
  | namedTuple c => c.scope
  | pydantic c => c.scope
  | typedDict c => c.scope

end Definition

/-- Equality of optional things by a given equality. -/
def sameOption {α : Type} (same : α → α → Bool) : Option α → Option α → Bool
  | none, none => true
  | some a, some b => same a b
  | _, _ => false

/-- Equality of lists, item by item, by a given equality. -/
def sameList {α : Type} (same : α → α → Bool) : List α → List α → Bool
  | [], [] => true
  | a :: as, b :: bs => same a b && sameList same as bs
  | _, _ => false

/-- Equality of attributes, floats by value. -/
def AttrsAttribute.equals (a b : AttrsAttribute) : Bool :=
  a.name == b.name && sameOption Annotation.equals a.type b.type && a.default.equals b.default &&
    a.kwOnly == b.kwOnly && a.init == b.init

/-- Equality of fields, floats by value. -/
def DataclassField.equals (a b : DataclassField) : Bool :=
  a.name == b.name && a.type.equals b.type && a.default.equals b.default &&
    a.kwOnly == b.kwOnly && a.init == b.init

/-- Equality of fields, floats by value. -/
def StructField.equals (a b : StructField) : Bool :=
  a.name == b.name && a.encodeName == b.encodeName && a.type.equals b.type &&
    a.default.equals b.default

/-- Equality of fields, floats by value. -/
def PydanticField.equals (a b : PydanticField) : Bool :=
  sameOption Annotation.equals a.annotation b.annotation && a.default.equals b.default

/-- Equality of definitions: maps without their order, floats by value. -/
def Definition.equals : Definition → Definition → Bool
  | attrs a, attrs b =>
    a.name == b.name && a.scope.equals b.scope && a.kwOnly == b.kwOnly &&
      sameList AttrsAttribute.equals a.attributes b.attributes
  | dataclass a, dataclass b =>
    a.name == b.name && a.scope.equals b.scope && a.kwOnly == b.kwOnly &&
      sameList DataclassField.equals a.fields b.fields
  | struct a, struct b =>
    a.name == b.name && a.scope.equals b.scope && a.kwOnly == b.kwOnly &&
      sameList StructField.equals a.fields b.fields
  | namedTuple a, namedTuple b =>
    a.name == b.name && a.scope.equals b.scope && a.fields == b.fields &&
      a.annotations.sameEntries Annotation.equals b.annotations &&
      a.defaults.sameEntries Value.equals b.defaults
  | pydantic a, pydantic b =>
    a.name == b.name && a.scope.equals b.scope && a.version == b.version &&
      a.fields.sameEntries PydanticField.equals b.fields && a.computed == b.computed
  | typedDict a, typedDict b =>
    a.name == b.name && a.scope.equals b.scope &&
      a.annotations.sameEntries Annotation.equals b.annotations && a.required == b.required &&
      a.optional == b.optional
  | _, _ => false

end RecordForms
