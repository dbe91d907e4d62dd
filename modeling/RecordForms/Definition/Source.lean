import RecordForms.Source.Layout

/-!
# The source of a definition

Every kind of definition laid out as source.

## Main definitions

* `Definition.layout`: the layout of a definition
* `Definition.source`: its source
* `Framework.write`: the source that a framework gives for a definition
-/

namespace RecordForms

open Source

/-- The flag `name`, if it is set to `whenSet`. -/
def flagIf (set : Bool) (name : String) (b : Bool) : List (String × Bool) :=
  if set then [(name, b)] else []

/-- The arguments for a field that asks for a keyword or is no parameter of the constructor. -/
def parameterFlags (kwOnly init : Bool) : List (String × Argument) :=
  (flagIf kwOnly "kw_only" true ++ flagIf (!init) "init" false).map fun (name, b) => (name, .flag b)

/-- The default of a slot, a factory given by its name. -/
def slotGiven : DefaultSlot → Option (Given Argument)
  | .token _ => none
  | .value v => some (.value (.value v))
  | .factory path => some (.factory (.name path))

/-- The default of a slot, a factory wrapped into a value. -/
def slotWrapped : DefaultSlot → Option Argument
  | .token _ => none
  | .value v => some (.value v)
  | .factory path => some (.factory path)

/-- The line of an attribute in a class whose attributes all have types. -/
def AttrsAttribute.annotatedEntry (a : AttrsAttribute) : Entry :=
  .annotated a.name (match a.type with | some t => .stored t | none => .any)
    (initializer "attrs.field" (parameterFlags a.kwOnly a.init)
      ((slotWrapped a.default).map .value))

/-- The line of an attribute in a class where some attribute has no type. -/
def AttrsAttribute.assignedEntry (a : AttrsAttribute) : Entry :=
  .assigned a.name (.call "attrs.field"
    ((a.type.map fun t => ("type", Argument.type t)).toList ++ parameterFlags a.kwOnly a.init ++
      ((slotWrapped a.default).map fun d => ("default", d)).toList))

/-- An attrs class.  Annotated and bare attributes do not mix, so one attribute without a type makes
all of them explicit. -/
def AttrsClass.layout (c : AttrsClass) : ClassLayout :=
  let isExplicit := c.attributes.any fun a => a.type.isNone
  { home := "attrs"
    decorator := some ("attrs.define",
      flagIf c.kwOnly "kw_only" true ++ flagIf isExplicit "auto_attribs" false)
    name := c.name
    base := none
    keywords := []
    body := c.attributes.map
      (if isExplicit then AttrsAttribute.assignedEntry else AttrsAttribute.annotatedEntry) }

/-- A dataclass. -/
def Dataclass.layout (c : Dataclass) : ClassLayout where
  home := "dataclasses"
  decorator := some ("dataclasses.dataclass", flagIf c.kwOnly "kw_only" true)
  name := c.name
  base := none
  keywords := []
  body := c.fields.map fun f =>
    .annotated f.name (.stored f.type)
      (initializer "dataclasses.field" (parameterFlags f.kwOnly f.init) (slotGiven f.default))

/-- A struct. -/
def StructClass.layout (c : StructClass) : ClassLayout where
  home := "msgspec"
  decorator := none
  name := c.name
  base := some "msgspec.Struct"
  keywords := flagIf c.kwOnly "kw_only" true
  body := c.fields.map fun f =>
    .annotated f.name (.stored f.type)
      (initializer "msgspec.field"
        (if f.encodeName = f.name then [] else [("name", .quoted f.encodeName)])
        (slotGiven f.default))

/-- A named tuple: a call if it has fields and none of them has a type. -/
def NamedTuple.layout (c : NamedTuple) : Layout :=
  if c.annotations.isEmpty && !c.fields.isEmpty then
    .tupleForm c.name c.fields (c.fields.filterMap c.defaults.get?)
  else
    .classForm
      { home := "typing"
        decorator := none
        name := c.name
        base := some "typing.NamedTuple"
        keywords := []
        body := c.fields.map fun name =>
          .annotated name
            (match c.annotations.get? name with | some a => .stored a | none => .any)
            ((c.defaults.get? name).map fun v => .value (.value v)) }

/-- A pydantic model. -/
def PydanticModel.layout (c : PydanticModel) : ClassLayout where
  home := "pydantic"
  decorator := none
  name := c.name
  base := some "pydantic.BaseModel"
  keywords := []
  body := c.fields.entries.map fun (name, f) =>
    .annotated name (match f.annotation with | some a => .stored a | none => .any)
      (initializer "pydantic.Field" [] (slotGiven f.default))

/-- A typed dict. -/
def TypedDict.layout (c : TypedDict) : ClassLayout where
  home := "typing"
  decorator := none
  name := c.name
  base := some "typing.TypedDict"
  keywords := []
  body := c.annotations.entries.map fun (name, a) =>
    .annotated name (if c.optional.contains name then .notRequired a else .stored a) none

namespace Definition

/-- A definition laid out as source. -/
def layout : Definition → Layout
  | attrs c => .classForm c.layout
  | dataclass c => .classForm c.layout
  | struct c => .classForm c.layout
  | namedTuple c => c.layout
  | pydantic c => .classForm c.layout
  | typedDict c => .classForm c.layout

/-- The source of a definition. -/
def source (d : Definition) : String :=
  d.layout.document.text

end Definition

/-- Whether a framework can write a definition: both versions of pydantic write both shapes. -/
def Framework.canWrite (f : Framework) (d : Definition) : Bool :=
  match d with
  | .pydantic _ => f = .pydanticV1 || f = .pydanticV2
  | d => f = d.framework

/-- The source that a framework gives for a definition; for one it cannot write it is empty. -/
def Framework.write (f : Framework) (d : Definition) : String :=
  if f.canWrite d then d.source else ""

end RecordForms
