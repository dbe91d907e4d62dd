import RecordForms.Text.Pieces
import RecordForms.Value.Basic

/-!
# Syntax trees

The syntax tree of a Python source file, as far as definitions of records need it.  What cannot
stand in one is kept as its text.

## Main definitions

* `Span`: the place of a statement
* `Expr`, `Keyword`: expressions and arguments given by name
* `Stmt`, `ClassDef`: statements and class statements
* `Expr.dottedName?`, `Expr.dotted`: a chain of attributes of a name as a dotted name and back
* `Expr.kind`, `Stmt.kind`: the kind of a node in words
-/

namespace RecordForms

/-- A place in a source file: a line, counted from one, and a column, counted from zero. -/
structure Span where
  line : Nat
  column : Nat
  deriving DecidableEq, Repr, Inhabited

/-- A place as it is written in messages. -/
def Span.text (s : Span) : String :=
  toString s.line ++ ":" ++ toString s.column

/-- The operators with one operand. -/
inductive UnaryOp where
  | neg
  | pos
  | not
  | invert
  deriving DecidableEq, Repr, Inhabited

/-- An argument given by name; without a name it is a table of arguments. -/
structure Keyword (α : Type) where
  arg : Option String
  value : α
  deriving Repr, Inhabited

/-- An expression. -/
inductive Expr where
  | name (id : String)
  | attr (value : Expr) (member : String)
  | call (func : Expr) (args : List Expr) (keywords : List (Keyword Expr))
  /-- A literal that is no container. -/
  | constant (v : Value)
  /-- A subscript; several indices are a tuple. -/
  | subscript (value slice : Expr)
  | tuple (items : List Expr)
  | list (items : List Expr)
  | dict (pairs : List (Expr × Expr))
  | set (items : List Expr)
  /-- Two operands with a bar between them. -/
  | bitOr (left right : Expr)
  | unary (op : UnaryOp) (operand : Expr)
  /-- Anything else: its kind and its text. -/
  | other (kind text : String)
  deriving Repr, Inhabited

/-- A name in an import, and the name it is given if that is another. -/
structure Alias where
  name : String
  asName : Option String
  deriving DecidableEq, Repr, Inhabited

/-- The name that an import binds. -/
def Alias.bound (a : Alias) : String :=
  a.asName.getD a.name

/-- A class statement with a body of statements `σ`. -/
structure ClassOf (σ : Type) where
  name : String
  bases : List Expr
  keywords : List (Keyword Expr)
  decorators : List Expr
  body : List σ
  span : Span
  deriving Repr

/-- A statement. -/
inductive Stmt where
  | classDef (c : ClassOf Stmt)
  | functionDef (name : String) (span : Span)
  /-- A target with a type, and perhaps a value. -/
  | annAssign (target annotation : Expr) (value : Option Expr) (span : Span)
  /-- A value given to one target after another. -/
  | assign (targets : List Expr) (value : Expr) (span : Span)
  | expr (value : Expr) (span : Span)
  | pass (span : Span)
  | importModules (names : List Alias) (span : Span)
  | importFrom (module : String) (names : List Alias) (span : Span)
  /-- Anything else: its kind and its text. -/
  | other (kind text : String) (span : Span)
  deriving Repr, Inhabited

/-- A class statement. -/
abbrev ClassDef := ClassOf Stmt

namespace Expr

/-- The name, or the chain of attributes of a name, with these components. -/
def ofComponents : List String → Expr
  | [] => name ""
  | head :: members => members.foldl attr (name head)

/-- A dotted name as a chain of attributes. -/
def dotted (path : String) : Expr :=
  ofComponents ((Text.splitAt '.' path.toList).map String.ofList)

/-- The dotted name that a chain of attributes of a name is. -/
def dottedName? : Expr → Option String
  | name id => some id
  | attr value member => value.dottedName?.map fun head => head ++ "." ++ member
  | _ => none

/-- The kind of an expression in words. -/
def kind : Expr → String
  | name _ => "Name"
  | attr .. => "Attribute"
  | call .. => "Call"
  | constant _ => "Constant"
  | subscript .. => "Subscript"
  | tuple _ => "Tuple"
  | list _ => "List"
  | dict _ => "Dict"
  | set _ => "Set"
  | bitOr .. => "BinOp"
  | unary .. => "UnaryOp"
  | other kind _ => kind

end Expr

namespace Stmt

/-- The place of a statement. -/
def span : Stmt → Span
  | classDef c => c.span
  | functionDef _ span | annAssign _ _ _ span | assign _ _ span | expr _ span | pass span
  | importModules _ span | importFrom _ _ span | other _ _ span => span

/-- The kind of a statement in words. -/
def kind : Stmt → String
  | classDef _ => "ClassDef"
  | functionDef .. => "FunctionDef"
  | annAssign .. => "AnnAssign"
  | assign .. => "Assign"
  | expr .. => "Expr"
  | pass _ => "Pass"
  | importModules .. => "Import"
  | importFrom .. => "ImportFrom"
  | other kind _ _ => kind

end Stmt

end RecordForms
