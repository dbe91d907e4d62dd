import RecordForms.Definition.Basic
import RecordForms.Source.Document

/-!
# Layouts

A definition laid out as source, before it is written: the parts of a class statement, or of a call
that makes a named tuple.  The text of a layout is written part by part.

## Main definitions

* `Source.FieldType`, `Source.Argument`: what stands for a type and for an argument
* `Source.Entry`: a line of the body of a class
* `Source.ClassLayout`, `Source.Layout`: the layouts
* `Source.Layout.document`: the file of a layout
-/

namespace RecordForms.Source

/-- What stands for the type of a field. -/
inductive FieldType where
  | stored (a : Annotation)
  /-- The type of a field that declares none. -/
  | any
  /-- The type of a key that may be missing. -/
  | notRequired (a : Annotation)
  deriving DecidableEq, Repr

/-- The type of a field as it is written. -/
def FieldType.text : FieldType → String
  | stored a => annotationText a
  | any => anyType
  | notRequired a => "typing.NotRequired[" ++ annotationText a ++ "]"

/-- The modules that the type of a field needs. -/
def FieldType.modules : FieldType → List String
  | stored a => annotationModules a
  | any => ["typing"]
  | notRequired a => annotationModules a

/-- An argument of a call in the body of a class. -/
inductive Argument where
  | flag (b : Bool)
  | quoted (s : String)
  | type (a : Annotation)
  | value (v : Value)
  | name (path : String)
  /-- A default that a factory makes. -/
  | factory (path : String)
  deriving DecidableEq, Repr

/-- An argument as it is written. -/
def Argument.text : Argument → String
  | flag b => (Value.bool b).text
  | quoted s => (Value.str s).text
  | type a => annotationText a
  | value v => v.text
  | name path => path
  | factory path => "attrs.Factory(" ++ path ++ ")"

/-- The modules that an argument needs because it is a type. -/
def Argument.modules : Argument → List String
  | type a => annotationModules a
  | _ => []

/-- A line of the body of a class. -/
inductive Entry where
  /-- A name with a type. -/
  | annotated (name : String) (type : FieldType) (init : Option (Initializer Argument))
  /-- A name without a type. -/
  | assigned (name : String) (init : Initializer Argument)

/-- The line as it is written. -/
def Entry.text : Entry → String
  | annotated name type init => fieldLine name type.text (init.map (·.map Argument.text))
  | assigned name init => name ++ " = " ++ (init.map Argument.text).text

/-- The modules that the line needs because of a type. -/
def Entry.modules : Entry → List String
  | annotated _ type _ => type.modules
  | assigned _ (.call _ args) => args.flatMap fun (_, a) => a.modules
  | assigned _ (.value a) => a.modules

/-- The parts of a class statement. -/
structure ClassLayout where
  /-- The module of the framework. -/
  home : String
  /-- A decorator and its arguments, if it takes any. -/
  decorator : Option (String × List (String × Bool))
  name : String
  base : Option String
  /-- The arguments of the class statement. -/
  keywords : List (String × Bool)
  body : List Entry

/-- A definition laid out as source. -/
inductive Layout where
  | classForm (c : ClassLayout)
  /-- A named tuple without types: its name, its fields and the defaults of the last fields. -/
  | tupleForm (name : String) (fields : List String) (defaults : List Value)

/-- Flags given by name. -/
def flagText (flags : List (String × Bool)) : String :=
  keywordText (flags.map fun (name, b) => (name, (Value.bool b).text))

/-- A decorator as it is written: a call if it takes arguments. -/
def decoratorText : String × List (String × Bool) → String
  | (callee, []) => callee
  | (callee, flags) => callee ++ "(" ++ flagText flags ++ ")"

/-- The header of a class statement, without its colon. -/
def ClassLayout.header (c : ClassLayout) : String :=
  "class " ++ c.name ++
    match c.base with
    | none => ""
    | some base =>
      "(" ++ base ++ (if c.keywords.isEmpty then "" else ", " ++ flagText c.keywords) ++ ")"

/-- Texts in brackets. -/
def listText (texts : List String) : String :=
  "[" ++ String.intercalate ", " texts ++ "]"

/-- The call that makes a named tuple without types. -/
def tupleText (name : String) (fields : List String) (defaults : List Value) : String :=
  name ++ " = collections.namedtuple(" ++ (Value.str name).text ++ ", " ++
    listText (fields.map fun f => (Value.str f).text) ++
    (if defaults.isEmpty then "" else ", defaults=" ++ listText (defaults.map Value.text)) ++ ")"

/-- The file of a layout. -/
def Layout.document : Layout → Document
  | classForm c =>
    (({} : Document).requireAll (c.home :: c.body.flatMap Entry.modules)).classBlock
      (c.decorator.map decoratorText).toList c.header (c.body.map Entry.text)
  | tupleForm name fields defaults =>
    (({} : Document).require "collections").line (tupleText name fields defaults)

end RecordForms.Source
