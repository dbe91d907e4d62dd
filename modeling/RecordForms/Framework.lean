/-!
# Frameworks

The libraries in which a record can be defined, and how each of them treats a required field that
follows a field with a default.

## Main definitions

* `Framework`: the frameworks, listed by `Framework.all`
* `Framework.name`, `Framework.ofName?`: their names
* `OrderingRule`, `Framework.ordering`: their treatment of required fields after defaults
-/

namespace RecordForms

/-- A library in which records are defined. -/
inductive Framework where
  | attrs
  | dataclasses
  | msgspec
  | namedTuple
  | pydanticV1
  | pydanticV2
  | typedDict
  deriving DecidableEq, Repr, Inhabited

/-- How a framework treats a required field after a field with a default. -/
inductive OrderingRule where
  /-- Instances are built by keyword, so order never matters. -/
  | unconstrained
  /-- Instances are built by position, but a class can ask for keywords. -/
  | keywordOnlyFallback
  /-- Instances are built by position. -/
  | positional
  deriving DecidableEq, Repr, Inhabited

namespace Framework

/-- All frameworks, in their listing order. -/
def all : List Framework :=
  [attrs, dataclasses, msgspec, namedTuple, pydanticV1, pydanticV2, typedDict]

theorem mem_all (f : Framework) : f ∈ all := by
  cases f <;> decide

/-- The name of a framework. -/
def name : Framework → String
  | attrs => "attrs"
  | dataclasses => "dataclasses"
  | msgspec => "msgspec"
  | namedTuple => "namedtuple"
  | pydanticV1 => "pydantic-v1"
  | pydanticV2 => "pydantic-v2"
  | typedDict => "typeddict"

/-- The framework with a name. -/
def ofName? (name : String) : Option Framework :=
  all.find? fun f => f.name == name

theorem ofName?_name (f : Framework) : ofName? f.name = some f := by
  cases f <;> decide

/-- How the framework treats a required field after a default. -/
def ordering : Framework → OrderingRule
  | attrs | dataclasses | msgspec => .keywordOnlyFallback
  | namedTuple => .positional
  | pydanticV1 | pydanticV2 | typedDict => .unconstrained

end Framework

end RecordForms
