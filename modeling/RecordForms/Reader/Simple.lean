import RecordForms.Reader.Rules

/-!
# Simple statements

The statements that stand on one line, perhaps several of them with semicolons between them.

## Main definitions

* `Parse.assignment`: assignments and declarations
* `Parse.importing`, `Parse.importingFrom`: imports
* `Parse.simpleStatement`: a simple statement
* `Parse.simpleLine`: the simple statements of a line
-/

namespace RecordForms.Reader.Parse

/-- A statement of a kind that began at `start` and is kept as its text. -/
def keptStmt (kind : String) (start : Cursor) : Parse Stmt := fun c =>
  some (.other kind (start.textTo c) start.span, c)

/-- Goes on only where a simple statement may end. -/
def ended : Parse Unit := fun c =>
  if c.endsStatement then some ((), c) else none

/-! ### Assignments -/

/-- What stands right of an equals sign. -/
structure RightSide where
  /-- All of it as an expression. -/
  expr : Expr
  /-- The targets of the assignments in it. -/
  targets : List Expr
  /-- What stands right of all of them, unless one of them declares a type. -/
  value : Option Expr

/-- The right side of an expression. -/
def RightSide.ofPiece (p : Piece) : RightSide :=
  ⟨p.expr, [], some p.expr⟩

/-- An equals sign after something that may be complete. -/
def equalsSign : Parse Unit := do
  close .line "="
  ensure (!(← sees "="))
  seek false

/-- A colon after something that may be complete. -/
def colon : Parse Unit := do
  close .line ":"
  ensure (!(← sees "="))
  seek false

/-- The operators of assignments that change a value. -/
def augmentedOperators : List String :=
  ["**=", "//=", ">>=", "<<=", "+=", "-=", "*=", "/=", "@=", "%=", "&=", "^=", "|="]

/-- An operator of an assignment that changes a value. -/
def augmentedOperator : Parse Unit := fun c =>
  match augmentedOperators.find? c.sees with
  | some op => some ((), c.drop op.length)
  | none => none

/-- A target with a type and perhaps a value. -/
def declaration (r : Rules) (right : Parse RightSide) : Parse (Expr × Expr × Option RightSide) := do
  let target ← targets r .line false
  colon
  let type ← r.type true .line
  let value ← attempt (do equalsSign; right)
  pure (target.expr, type.expr, value)

/-- A target with a value. -/
def plainAssignment (r : Rules) (right : Parse RightSide) : Parse (Expr × RightSide) := do
  let target ← targets r .line false
  equalsSign
  let value ← right
  pure (target.expr, value)

/-- A change to a target. -/
def augmented (r : Rules) (right : Parse RightSide) : Parse Unit := do
  let _ ← targets r .line false
  proceed .line
  augmentedOperator
  seek false
  let _ ← right

/-- An assignment on the right side of another. -/
def nestedAssignment (r : Rules) (right : Parse RightSide) : Parse RightSide := do
  let start ← here
  (do
    let (target, value) ← plainAssignment r right
    let p ← kept "assignment" start
    pure ⟨p.expr, target :: value.targets, value.value⟩) <|> (do
    let _ ← declaration r right
    let p ← kept "assignment" start
    pure ⟨p.expr, [], none⟩) <|> (do
    augmented r right
    let p ← kept "augmented_assignment" start
    pure (.ofPiece p))

/-- What stands right of an equals sign. -/
def rightSide (r : Rules) : List Char → Parse RightSide
  | [] => failure
  | _ :: fuel =>
    nestedAssignment r (rightSide r fuel) <|> (do
      let p ← expressionOrYield r (expressions r .line) .line
      pure (.ofPiece p))

/-- An assignment, a declaration, or a change to a target. -/
def assignment (r : Rules) : Parse Stmt := do
  let start ← here
  let right := rightSide r start.rest
  (do
    let (target, value) ← plainAssignment r right
    match value.value with
    | some v => pure (.assign (target :: value.targets) v start.span)
    | none => keptStmt "assignment" start) <|> (do
    let (target, type, value) ← declaration r right
    pure (.annAssign target type (value.map RightSide.expr) start.span)) <|> (do
    augmented r right
    keptStmt "augmented_assignment" start)

/-! ### Imports -/

/-- A dotted name as it is written. -/
def dottedName (f : Follow) : Parse String := do
  let start ← here
  let _ ← word
  repeated (fun () => do
    close f "."
    seek false
    let _ ← word) ()
  let c ← here
  pure (start.textTo c)

/-- A name in an import, perhaps with another name for it. -/
def aliasOf (f : Follow) : Parse Alias := do
  let name ← dottedName f
  if ← takesKeyword f "as" then
    seek false
    let asName ← word
    pure ⟨name, some asName⟩
  else pure ⟨name, none⟩

/-- Names in an import with commas between them. -/
def aliases (f : Follow) : Parse (List Alias) := do
  let first ← aliasOf f
  let names ← repeated (fun names => do
    close f ","
    proceed f
    let a ← aliasOf f
    pure (names ++ [a])) [first]
  let _ ← takes f ","
  pure names

/-- Names in an import, perhaps in parentheses. -/
def aliasList : Parse (List Alias) := do
  if ← sees "(" then
    eat "("
    seek false
    let names ← aliases .closer
    close .closer ")"
    pure names
  else aliases .line

/-- An import of modules. -/
def importing : Parse Stmt := do
  let start ← here
  keyword "import"
  seek false
  let names ← aliases .line
  pure (.importModules names start.span)

/-- The module that names are imported from, as it is written: a dotted name, dots, or both. -/
def sourceModule : Parse String := do
  if ← sees "." then
    let start ← here
    eat "."
    repeated (fun () => close .token ".") ()
    let _ ← attempt (do
      proceed .token
      unlessKeyword ["import"]
      dottedName .token)
    let c ← here
    pure (start.textTo c)
  else dottedName .token

/-- An import of names from a module. -/
def importingFrom : Parse Stmt := do
  let start ← here
  keyword "from"
  seek false
  let module ← sourceModule
  proceed .token
  keyword "import"
  seek false
  if module ≠ "__future__" && (← sees "*") then
    eat "*"
    pure (.importFrom module [⟨"*", none⟩] start.span)
  else
    let names ← aliasList
    pure (.importFrom module names start.span)

/-! ### Other statements -/

/-- Expressions with commas between them, none at the end. -/
def expressionsWithin (r : Rules) : Parse Unit := do
  let _ ← r.expression .conditional .line
  repeated (fun () => do
    close .line ","
    seek false
    let _ ← r.expression .conditional .line) ()

/-- Names with commas between them. -/
def names : Parse Unit := do
  let _ ← word
  repeated (fun () => do
    close .line ","
    seek false
    let _ ← word) ()

/-- A statement of a word and what `p` reads after it. -/
def worded (name kind : String) (p : Parse Unit) : Parse Stmt := do
  let start ← here
  keyword name
  p
  keptStmt kind start

/-- Expressions, or nothing. -/
def someExpressions (r : Rules) (stops : List String) : Parse Unit := do
  let _ ← attempt (do
    proceed .line
    unlessKeyword stops
    expressions r .line)

/-- What is raised, and perhaps its cause. -/
def raised (r : Rules) : Parse Unit := do
  someExpressions r ["from"]
  if ← takesKeyword .line "from" then
    seek false
    let _ ← r.expression .conditional .line

/-- What is printed. -/
def printed (r : Rules) : Parse Unit := do
  let _ ← listed (r.expression .conditional .line) .line

/-- A statement that prints to a file. -/
def printTo (r : Rules) : Parse Stmt :=
  worded "print" "print_statement" do
    proceed .line
    eat ">>"
    ensure (!(← sees "="))
    seek false
    printed r

/-- A statement that prints. -/
def print (r : Rules) : Parse Stmt :=
  worded "print" "print_statement" do
    proceed .line
    printed r

/-- A statement that runs code. -/
def execute (r : Rules) : Parse Stmt :=
  worded "exec" "exec_statement" do
    proceed .line
    unlessKeyword operatorWords
    quoted r.interpolation <|> (do let _ ← word)
    if ← takesKeyword .line "in" then
      seek false
      expressionsWithin r

/-- A statement that names a type. -/
def typeAlias (r : Rules) : Parse Stmt :=
  worded "type" "type_alias_statement" do
    proceed .line
    let _ ← r.type true .token
    close .token "="
    ensure (!(← sees "="))
    seek false
    let _ ← r.type true .line

/-- The kinds of expressions that are kept as expressions where they stand as statements. -/
def expressionKinds : List String :=
  ["string", "concatenated_string", "ellipsis", "call", "identifier", "attribute", "subscript",
    "integer", "float", "true", "false", "none", "binary_operator", "unary_operator",
    "parenthesized_expression", "list", "set", "dictionary"]

/-- Expressions as a statement. -/
def expressionStatement (r : Rules) : Parse Stmt := do
  let start ← here
  match ← listed (expressionOrYield r (r.expression .conditional .line) .line) .line with
  | ([p], false) =>
    if expressionKinds.contains p.kind then pure (.expr p.expr start.span)
    else keptStmt p.kind start
  | (items, _) =>
    ensure (items.all fun p => p.kind ≠ "yield")
    keptStmt "tuple_expression" start

/-- A statement that does not begin with a word of its own.  Words that are names elsewhere begin
one only if nothing else fits. -/
def openStatement (r : Rules) : Parse Stmt := do
  let or (p q : Parse Stmt) : Parse Stmt := (do let s ← p; ended; pure s) <|> q
  or (typeAlias r) <| or (printTo r) <| or (execute r) <| or (assignment r) <|
    or (expressionStatement r) <| print r

/-- A simple statement. -/
def simpleStatement (r : Rules) : Parse Stmt := do
  let start ← here
  match start.name with
  | "import" => importing
  | "from" => importingFrom
  | "pass" =>
    keyword "pass"
    pure (.pass start.span)
  | "break" => worded "break" "break_statement" (pure ())
  | "continue" => worded "continue" "continue_statement" (pure ())
  | "assert" => worded "assert" "assert_statement" do seek false; expressionsWithin r
  | "return" => worded "return" "return_statement" (someExpressions r [])
  | "del" => worded "del" "delete_statement" do
    seek false
    let _ ← expressions r .line
  | "raise" => worded "raise" "raise_statement" (raised r)
  | "global" => worded "global" "global_statement" do seek false; names
  | "nonlocal" => worded "nonlocal" "nonlocal_statement" do seek false; names
  | _ => openStatement r

/-- The end of the line. -/
def lineEnd : Parse Unit := fun c =>
  c.lineEnd?.map fun d => ((), d)

/-- Goes on with `p`, and gives back the joints between lines that it goes over. -/
def jointStatements (p : Parse Unit) : Parse (List Stmt) := do
  let c ← here
  p
  let d ← here
  pure ((c.joinsTo d).map Join.stmt)

/-- The simple statements of a line. -/
def simpleStatements (r : Rules) : List Char → Parse (List Stmt)
  | [] => failure
  | _ :: fuel => do
    let s ← simpleStatement r
    match ← attempt (jointStatements lineEnd) with
    | some joins => pure (s :: joins)
    | none =>
      let before ← jointStatements (close .line ";")
      match ← attempt (jointStatements lineEnd) with
      | some joins => pure (s :: before ++ joins)
      | none =>
        let after ← jointStatements (proceed .line)
        let rest ← simpleStatements r fuel
        pure (s :: before ++ after ++ rest)

/-- The simple statements of a line. -/
def simpleLine (r : Rules) : Parse (List Stmt) := fun c =>
  simpleStatements r c.rest c

end RecordForms.Reader.Parse
