import RecordForms.Tree.Basic
import RecordForms.Value.Printer

/-!
# The text of a syntax tree

Expressions and statements written back as source.  No parentheses are put in, and the body of a
class or function is left out.

## Main definitions

* `Expr.chars`, `Expr.text`: an expression as source
* `Stmt.text`: a statement as source
-/

namespace RecordForms

namespace Expr

/-- The sign of an operator with one operand. -/
def opChars : UnaryOp → List Char
  | .neg => ['-']
  | .pos => ['+']
  | .not => "not ".toList
  | .invert => ['~']

mutual

/-- An expression as source. -/
def chars : Expr → List Char
  | name id => id.toList
  | attr value member => chars value ++ '.' :: member.toList
  | call func args keywords =>
    chars func ++ '(' :: Value.commaSeparated (itemChars args ++ keywordChars keywords) ++ [')']
  | constant v => v.chars
  | subscript value (tuple (item :: items)) =>
    chars value ++ '[' :: Value.commaSeparated (chars item :: itemChars items) ++ [']']
  | subscript value slice => chars value ++ '[' :: chars slice ++ [']']
  | tuple items =>
    '(' :: Value.commaSeparated (itemChars items) ++
      (if items.length = 1 then ",)".toList else [')'])
  | list items => '[' :: Value.commaSeparated (itemChars items) ++ [']']
  | dict pairs => '{' :: Value.commaSeparated (pairChars pairs) ++ ['}']
  | set items => '{' :: Value.commaSeparated (itemChars items) ++ ['}']
  | bitOr left right => chars left ++ " | ".toList ++ chars right
  | unary op operand => opChars op ++ chars operand
  | other _ text => text.toList

/-- The expressions of a list as source. -/
def itemChars : List Expr → List (List Char)
  | [] => []
  | e :: es => chars e :: itemChars es

/-- The entries of a dict as source. -/
def pairChars : List (Expr × Expr) → List (List Char)
  | [] => []
  | (k, v) :: rest => (chars k ++ ": ".toList ++ chars v) :: pairChars rest

/-- Arguments given by name as source. -/
def keywordChars : List (Keyword Expr) → List (List Char)
  | [] => []
  | ⟨some arg, value⟩ :: rest => (arg.toList ++ '=' :: chars value) :: keywordChars rest
  | ⟨none, value⟩ :: rest => ('*' :: '*' :: chars value) :: keywordChars rest

end

/-- An expression as source. -/
def text (e : Expr) : String :=
  String.ofList e.chars

end Expr

/-- A name in an import as source. -/
def Alias.text (a : Alias) : String :=
  match a.asName with
  | some asName => a.name ++ " as " ++ asName
  | none => a.name

namespace Stmt

/-- Texts with a comma and a blank between them. -/
def commaText (texts : List String) : String :=
  String.intercalate ", " texts

/-- The header of a class as source. -/
def classText (c : ClassDef) : String :=
  let arguments := c.bases.map Expr.text ++ (Expr.keywordChars c.keywords).map String.ofList
  "class " ++ c.name ++ (if arguments.isEmpty then "" else "(" ++ commaText arguments ++ ")") ++
    ": ..."

/-- A statement as source. -/
def text : Stmt → String
  | classDef c => classText c
  | functionDef name _ => "def " ++ name ++ "(...): ..."
  | annAssign target annotation value _ =>
    target.text ++ ": " ++ annotation.text ++
      match value with
      | some value => " = " ++ value.text
      | none => ""
  | assign targets value _ => String.join (targets.map fun t => t.text ++ " = ") ++ value.text
  | expr value _ => value.text
  | pass _ => "pass"
  | importModules names _ => "import " ++ commaText (names.map Alias.text)
  | importFrom module names _ => "from " ++ module ++ " import " ++ commaText (names.map Alias.text)
  | other _ text _ => text

end Stmt

end RecordForms
