import RecordForms.Default.Slot
import RecordForms.NameSet
import RecordForms.TypeExpr.Basic

/-!
# Source documents

A source file in the making: the modules it needs and its lines.

## Main definitions

* `Source.Document`: the documents; `Document.text` is the finished file
* `Document.line`, `Document.classBlock`: adding lines
* `Source.modules`: the modules that a type needs
* `Source.keywordText`: arguments given by name
* `Source.Initializer`, `Source.initializer`: what stands right of `=` in the body of a class
* `Source.fieldLine`: a line that declares a field
-/

namespace RecordForms.Source

/-- The modules that a type needs: what stands before the first dot of each of its names.  The names
among the values of a literal type do not count. -/
def modules (t : TypeExpr) : List String :=
  match t with
  | .name path => moduleOf path
  | .generic origin args => moduleOf origin ++ itemModules args
  | .union members => itemModules members
  | .noneType => []
  | .literal origin _ => moduleOf origin
where
  moduleOf (path : String) : List String :=
    match Text.cut '.' path.toList with
    | some (head, _) => [String.ofList head]
    | none => []
  itemModules : List TypeExpr → List String
    | [] => []
    | t :: ts => modules t ++ itemModules ts

/-- A source file in the making. -/
structure Document where
  /-- The modules to import. -/
  imports : NameSet := .empty
  /-- The lines after the imports, without their ends. -/
  lines : List String := []
  deriving DecidableEq, Inhabited

namespace Document

/-- The document that also imports `module`. -/
def require (d : Document) (module : String) : Document :=
  { d with imports := d.imports.insert module }

/-- The document that also imports all of `modules`. -/
def requireAll (d : Document) (modules : List String) : Document :=
  modules.foldl require d

/-- The document with one more line. -/
def line (d : Document) (text : String) : Document :=
  { d with lines := d.lines ++ [text] }

/-- A line of the body of a class. -/
def indented (text : String) : String :=
  "    " ++ text

/-- The lines of a class: its decorators, its header and its body, which is `pass` if there is
nothing else. -/
def classLines (decorators : List String) (header : String) (body : List String) : List String :=
  decorators.map ("@" ++ ·) ++ [header ++ ":"] ++
    (if body.isEmpty then ["pass"] else body).map indented

/-- The document with the lines of a class. -/
def classBlock (d : Document) (decorators : List String) (header : String) (body : List String) :
    Document :=
  { d with lines := d.lines ++ classLines decorators header body }

/-- Lines with their ends. -/
def ended (lines : List String) : String :=
  String.join (lines.map (· ++ "\n"))

/-- The finished file: the imports in order, two empty lines after them, and the lines. -/
def text (d : Document) : String :=
  let imports := d.imports.names.map ("import " ++ ·)
  ended ((if imports.isEmpty then [] else imports ++ ["", ""]) ++ d.lines)

end Document

/-- The annotation of a field without a type. -/
def anyType : String :=
  "typing.Any"

/-- An annotation as it is written in source: a reference that has not been resolved is quoted. -/
def annotationText : Annotation → String
  | .resolved t => t.text
  | .forward reference => (Value.str reference).text

/-- The modules that an annotation needs. -/
def annotationModules : Annotation → List String
  | .resolved t => modules t
  | .forward _ => []

/-- Arguments given by name. -/
def keywordText (args : List (String × String)) : String :=
  String.intercalate ", " (args.map fun (name, text) => name ++ "=" ++ text)

/-- How a default is given. -/
inductive Given (α : Type) where
  | value (a : α)
  | factory (a : α)

/-- What stands right of `=` in the body of a class. -/
inductive Initializer (α : Type) where
  | value (a : α)
  | call (callee : String) (args : List (String × α))

/-- The initializer of a field with this default and further arguments: a value stands for itself if
there are no arguments; all else goes through a call. -/
def initializer {α : Type} (specifier : String) (args : List (String × α)) :
    Option (Given α) → Option (Initializer α)
  | some (.value a) =>
    if args.isEmpty then some (.value a) else some (.call specifier (args ++ [("default", a)]))
  | some (.factory a) => some (.call specifier (args ++ [("default_factory", a)]))
  | none => if args.isEmpty then none else some (.call specifier args)

/-- The initializer with its arguments replaced. -/
def Initializer.map {α β : Type} (f : α → β) : Initializer α → Initializer β
  | value a => value (f a)
  | call callee args => call callee (args.map fun (name, a) => (name, f a))

/-- An initializer as it is written. -/
def Initializer.text : Initializer String → String
  | value a => a
  | call callee args => callee ++ "(" ++ keywordText args ++ ")"

/-- A line that declares a name with a type. -/
def fieldLine (name type : String) : Option (Initializer String) → String
  | none => name ++ ": " ++ type
  | some init => name ++ ": " ++ type ++ " = " ++ init.text

/-- The default of a slot as it is given in source. -/
def given? : DefaultSlot → Option (Given String)
  | .token _ => none
  | .value v => some (.value v.text)
  | .factory path => some (.factory path)

end RecordForms.Source
