import RecordForms.Source.Layout
import RecordForms.Tree.Literal

/-!
# The tree of a layout

A layout as a statement, part by part, beside the text that is written for it.

## Main definitions

* `Source.FieldType.toExpr`, `Source.Argument.toExpr`: types and arguments as expressions
* `Source.Entry.toStmt`: a line of the body of a class as a statement
* `Source.ClassLayout.toClass`, `Source.Layout.toStmt`: a layout as a statement
-/

namespace RecordForms.Source

/-- The type of a field as an expression. -/
def FieldType.toExpr : FieldType → Expr
  | stored a => a.toExpr
  | any => .dotted anyType
  | notRequired a => .subscript (.dotted "typing.NotRequired") a.toExpr

/-- An argument as an expression. -/
def Argument.toExpr : Argument → Expr
  | flag b => .constant (.bool b)
  | quoted s => .constant (.str s)
  | type a => a.toExpr
  | value v => v.toExpr
  | name path => .dotted path
  | factory path => .call (.dotted "attrs.Factory") [.dotted path] []

/-- Arguments given by name as expressions. -/
def namedArguments {α : Type} (toExpr : α → Expr) (args : List (String × α)) :
    List (Keyword Expr) :=
  args.map fun (name, a) => ⟨some name, toExpr a⟩

/-- An initializer as an expression. -/
def Initializer.toExpr : Initializer Argument → Expr
  | value a => a.toExpr
  | call callee args => .call (.dotted callee) [] (namedArguments Argument.toExpr args)

/-- A flag as an expression. -/
def flagExpr (b : Bool) : Expr :=
  .constant (.bool b)

/-- A line of the body of a class as a statement. -/
def Entry.toStmt (span : Span) : Entry → Stmt
  | annotated name type init =>
    .annAssign (.name name) type.toExpr (init.map Initializer.toExpr) span
  | assigned name init => .assign [.name name] init.toExpr span

/-- A decorator as an expression: a call if it takes arguments. -/
def decoratorExpr : String × List (String × Bool) → Expr
  | (callee, []) => .dotted callee
  | (callee, flags) => .call (.dotted callee) [] (namedArguments flagExpr flags)

/-- The parts of a class statement as the statement. -/
def ClassLayout.toClass (span : Span) (c : ClassLayout) : ClassDef where
  name := c.name
  bases := (c.base.map Expr.dotted).toList
  keywords := namedArguments flagExpr c.keywords
  decorators := (c.decorator.map decoratorExpr).toList
  body := if c.body.isEmpty then [.pass span] else c.body.map (Entry.toStmt span)
  span := span

/-- The call that makes a named tuple without types, as an expression. -/
def tupleCall (name : String) (fields : List String) (defaults : List Value) : Expr :=
  .call (.dotted "collections.namedtuple")
    [.constant (.str name), .list (fields.map fun f => .constant (.str f))]
    (if defaults.isEmpty then [] else [⟨some "defaults", .list (defaults.map Value.toExpr)⟩])

/-- A layout as a statement. -/
def Layout.toStmt (span : Span) : Layout → Stmt
  | classForm c => .classDef (c.toClass span)
  | tupleForm name fields defaults => .assign [.name name] (tupleCall name fields defaults) span

end RecordForms.Source
