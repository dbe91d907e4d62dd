import RecordForms.Config
import RecordForms.Default.Canonical
import RecordForms.Definition.Basic

/-!
# From a schema to a definition

A framework builds a definition in three steps: it decides whether instances have to be built by
keyword, it puts every default into a slot that it accepts, and it describes the class.

## Main definitions

* `Framework.keywordOnly?`: whether the class asks for keywords
* `Framework.slot?`: the slot for the default of a field
* `Framework.describe`: the definition with these fields and slots
* `Framework.build`: the definition of a schema
-/

namespace RecordForms.Framework

/-- Whether a class has to ask for keywords because a required field follows a default. -/
def keywordOnly? (f : Framework) (config : Config) (s : Schema) : Except RecordError Bool :=
  match s.orderViolation? with
  | none => .ok false
  | some (field, after) =>
    match f.ordering, config.ordering with
    | .unconstrained, _ => .ok false
    | .keywordOnlyFallback, .keywordOnly => .ok true
    | .keywordOnlyFallback, .strict | .positional, _ =>
      .error (.fieldOrder s.name field.name after.name f)

/-- The factory that stands for an empty container where the configuration asks for one. -/
def emptyFactory? (config : Config) (v : Value) : Option String :=
  if v.isMutable && config.mutableDefaults = .factory then factoryOfEmpty? v else none

/-- Why the framework cannot give a field this default by value, if it cannot. -/
def refusal? (f : Framework) (v : Value) : Option DefaultFault :=
  match f with
  | attrs | namedTuple => none
  | dataclasses => if v.isMutable then some .mutableByValue else none
  | msgspec => if v.isMutable && !v.isEmptyContainer then some .mutableNotEmpty else none
  | pydanticV1 | pydanticV2 => if v = .ellipsis then some .requiredMarker else none
  | typedDict => some .keyWithDefault

/-- Whether the framework makes empty containers by a factory. -/
def usesFactories : Framework → Bool
  | attrs | dataclasses => true
  | _ => false

/-- The slot for the default of a field: its own token, a factory for an empty container, or the
value. -/
def slot? (f : Framework) (config : Config) (record : String) (field : Field) :
    Except RecordError DefaultSlot :=
  match f.writeDefault field.default with
  | .value v =>
    match if f.usesFactories then emptyFactory? config v else none with
    | some path => .ok (.factory path)
    | none =>
      match f.refusal? v with
      | some fault => .error (.unsupportedDefault record field.name f v fault)
      | none => .ok (.value v)
  | slot => .ok slot

/-- The type to declare where one is required. -/
def declaredType (field : Field) : TypeExpr :=
  field.type.getD (.name "typing.Any")

/-- The definition of a class with these fields and the slots of their defaults. -/
def describe (f : Framework) (name : String) (scope : Namespace) (kwOnly : Bool)
    (fields : List (Field × DefaultSlot)) : Definition :=
  match f with
  | attrs => .attrs ⟨name, scope, fields.map fun (field, slot) =>
      { name := field.name, type := field.type.map .resolved, default := slot }, kwOnly⟩
  | dataclasses => .dataclass ⟨name, scope, fields.map fun (field, slot) =>
      { name := field.name, type := .resolved (declaredType field), default := slot }, kwOnly⟩
  | msgspec => .struct ⟨name, scope, fields.map fun (field, slot) =>
      ⟨field.name, field.name, .resolved (declaredType field), slot⟩, kwOnly⟩
  | namedTuple => .namedTuple ⟨name, scope, fields.map fun (field, _) => field.name,
      .ofList (fields.filterMap fun (field, _) =>
        field.type.map fun t => (field.name, .resolved t)),
      .ofList (fields.filterMap fun (field, slot) =>
        match slot with
        | .value v => some (field.name, v)
        | _ => none)⟩
  | pydanticV1 => .pydantic ⟨name, scope, .v1, pydanticFields fields, []⟩
  | pydanticV2 => .pydantic ⟨name, scope, .v2, pydanticFields fields, []⟩
  | typedDict => .typedDict ⟨name, scope,
      .ofList (fields.map fun (field, _) => (field.name, .resolved (declaredType field))),
      .ofList (fields.map fun (field, _) => field.name), .empty⟩
where
  pydanticFields (fields : List (Field × DefaultSlot)) : NameMap PydanticField :=
    .ofList (fields.map fun (field, slot) =>
      (field.name, ⟨some (.resolved (declaredType field)), slot⟩))

/-- The definition of a schema, or why there is none: the order of the fields is looked at before
any default. -/
def build (f : Framework) (config : Config) (s : Schema) : Except RecordError Definition := do
  let kwOnly ← f.keywordOnly? config s
  let slots ← s.fields.mapM (f.slot? config s.name)
  .ok (f.describe s.name (config.target s.name) kwOnly (s.fields.zip slots))

end RecordForms.Framework
