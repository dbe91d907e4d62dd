import RecordForms.Framework

/-!
# Markers

The spellings that mark a record in a source file.  They are compared as they stand; what is not in
these tables is no marker.

## Main definitions

* `Marker.decorator?`, `Marker.base?`: decorators and bases that make a class a record
* `Marker.isNeutralBase`: bases that may stand beside them
* `Marker.isSpecifier`, `Marker.isAttrsFactory`, `Marker.isMakeDataclass`: calls that are read
* `Marker.isNonField`, `Marker.isNotRequired`, `Marker.isRequired`: qualifiers of annotations
-/

namespace RecordForms.Marker

/-- The decorators that make a class a record. -/
def decorators : List (String × Framework) :=
  [("dataclass", .dataclasses), ("dataclasses.dataclass", .dataclasses),
    ("define", .attrs), ("frozen", .attrs), ("mutable", .attrs),
    ("attrs.define", .attrs), ("attrs.frozen", .attrs), ("attrs.mutable", .attrs),
    ("attr.define", .attrs), ("attr.frozen", .attrs), ("attr.mutable", .attrs)]

/-- The bases that make a class a record. -/
def bases : List (String × Framework) :=
  [("BaseModel", .pydanticV2), ("pydantic.BaseModel", .pydanticV2),
    ("Struct", .msgspec), ("msgspec.Struct", .msgspec),
    ("NamedTuple", .namedTuple), ("typing.NamedTuple", .namedTuple),
    ("TypedDict", .typedDict), ("typing.TypedDict", .typedDict),
    ("typing_extensions.TypedDict", .typedDict)]

/-- The bases without fields. -/
def neutralBases : List String :=
  ["object", "Generic", "typing.Generic", "ABC", "abc.ABC"]

/-- The calls that describe a field. -/
def specifiers : List (String × Framework) :=
  [("field", .dataclasses), ("dataclasses.field", .dataclasses),
    ("field", .attrs), ("attrs.field", .attrs), ("attr.field", .attrs), ("attr.ib", .attrs),
    ("field", .msgspec), ("msgspec.field", .msgspec),
    ("Field", .pydanticV2), ("pydantic.Field", .pydanticV2)]

/-- The framework of a name in a table. -/
def find? (table : List (String × Framework)) (name : String) : Option Framework :=
  (table.find? fun p => p.1 == name).map Prod.snd

/-- The framework of a decorator. -/
def decorator? (name : String) : Option Framework :=
  find? decorators name

/-- The framework of a base. -/
def base? (name : String) : Option Framework :=
  find? bases name

/-- Whether a base has no fields and may stand beside a marker. -/
def isNeutralBase (name : String) : Bool :=
  neutralBases.contains name

/-- Whether a call describes a field of the framework. -/
def isSpecifier (f : Framework) (name : String) : Bool :=
  specifiers.contains (name, f)

/-- Whether a call wraps a factory of an attrs class. -/
def isAttrsFactory (name : String) : Bool :=
  ["Factory", "attrs.Factory", "attr.Factory"].contains name

/-- Whether a call makes a dataclass. -/
def isMakeDataclass (name : String) : Bool :=
  ["make_dataclass", "dataclasses.make_dataclass"].contains name

/-- Whether an annotation with this head declares no field. -/
def isNonField (name : String) : Bool :=
  ["ClassVar", "typing.ClassVar", "InitVar", "dataclasses.InitVar", "KW_ONLY",
    "dataclasses.KW_ONLY"].contains name

/-- Whether an annotation with this head makes a key optional. -/
def isNotRequired (name : String) : Bool :=
  ["NotRequired", "typing.NotRequired", "typing_extensions.NotRequired"].contains name

/-- Whether an annotation with this head makes a key required. -/
def isRequired (name : String) : Bool :=
  ["Required", "typing.Required", "typing_extensions.Required"].contains name

end RecordForms.Marker
