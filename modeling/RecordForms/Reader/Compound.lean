import RecordForms.Reader.CasePattern
import RecordForms.Reader.Simple

/-!
# Compound statements

The statements that hold blocks.  Each of them is given as a function of the rule for a block; only
the blocks of classes are kept.

## Main definitions

* `Parse.block`, `Parse.suite`: statements with one indentation, and what stands after a colon
* `Parse.classStatement`, `Parse.functionStatement`, `Parse.decorated`: definitions
* `Parse.ifStatement` and the like: all other statements with blocks
* `Parse.statement`: any statement
* `read`: the statements of a source file
-/

namespace RecordForms.Reader

namespace Parse

/-! ### Blocks -/

/-- The rest of a block.  The joints between lines before its first statement stand outside it
unless it `hasBegun`. -/
def linesFrom (p : Parse (List Stmt)) (hasBegun : Bool) : List Char → Parse (List Stmt)
  | [] => pure []
  | _ :: fuel => fun c =>
    let joins d := if hasBegun then (c.joinsTo d).map Join.stmt else []
    match c.nextLine with
    | .ends d => some (joins d, d)
    | .starts d =>
      match p d with
      | some (items, e) =>
        (linesFrom p true fuel e).map fun (rest, e) => (joins d ++ items ++ rest, e)
      | none => none

/-- The lines of a block up to its end. -/
def block (p : Parse (List Stmt)) : Parse (List Stmt) := fun c =>
  linesFrom p false c.rest c

/-- The lines of a file. -/
def file (p : Parse (List Stmt)) : Parse (List Stmt) := fun c =>
  linesFrom p true c.rest c

/-- What stands after a colon: a block with a deeper indentation, nothing, or what `line` reads on
the same line. -/
def suite (p line : Parse (List Stmt)) : Parse (List Stmt) := fun c =>
  let g := c.gap true
  let c := if !g.isBroken && g.next.sees "#" then g.next.skipComment else c
  let g := c.gap true
  if g.isBroken then
    if c.indent < g.indent then
      (block p { c with indent := g.indent }).map fun (items, d) =>
        (items, { d with indent := c.indent })
    else some ([], c)
  else (do seek false; line) c

/-- A colon and what stands after it. -/
def after (body : Parse (List Stmt)) : Parse (List Stmt) := do
  close .token ":"
  body

/-- The word that the next line of the block begins with. -/
def clauseWord : Parse String := fun c =>
  match c.nextLine with
  | .starts d => some (d.name, c)
  | .ends _ => some ("", c)

/-- Moves to the next line of the block and takes the word that it begins with. -/
def clause (name : String) : Parse Unit := fun c =>
  match c.nextLine with
  | .starts d => keyword name d
  | .ends _ => none

/-- Whether the next line begins with this word, and takes it if so. -/
def takesClause (name : String) : Parse Bool := do
  if (← clauseWord) = name then
    clause name
    pure true
  else pure false

/-- A clause of a word and a block, if it comes next. -/
def plainClause (body : Parse (List Stmt)) (name : String) : Parse Bool := do
  let isThere ← takesClause name
  if isThere then
    let _ ← after body
  pure isThere

/-! ### Statements with blocks -/

/-- The clauses with further conditions. -/
def elifClauses (r : Rules) (body : Parse (List Stmt)) : List Char → Parse Unit
  | [] => pure ()
  | _ :: fuel => do
    if ← takesClause "elif" then
      seek false
      let _ ← r.expression .conditional .token
      let _ ← after body
      elifClauses r body fuel

/-- A statement with conditions. -/
def ifStatement (r : Rules) (body : Parse (List Stmt)) : Parse Unit := do
  keyword "if"
  seek false
  let _ ← r.expression .conditional .token
  let _ ← after body
  elifClauses r body (← here).rest
  let _ ← plainClause body "else"

/-- A loop with a condition. -/
def whileStatement (r : Rules) (body : Parse (List Stmt)) : Parse Unit := do
  keyword "while"
  seek false
  let _ ← r.expression .conditional .token
  let _ ← after body
  let _ ← plainClause body "else"

/-- The word that makes a statement asynchronous, if it comes next. -/
def asyncWord : Parse Unit := do
  if (← here).name = "async" then
    keyword "async"
    seek false

/-- A loop over items. -/
def forStatement (r : Rules) (body : Parse (List Stmt)) : Parse Unit := do
  asyncWord
  keyword "for"
  seek false
  let _ ← targets r .token true
  proceed .token
  keyword "in"
  seek false
  let _ ← expressions r .token
  let _ ← after body
  let _ ← plainClause body "else"

/-- A statement with contexts. -/
def withStatement (r : Rules) (body : Parse (List Stmt)) : Parse Unit := do
  asyncWord
  keyword "with"
  seek false
  let _ ← listed (r.expression .conditional .token) .token
  let _ ← after body

/-- What a handler handles. -/
def handled (r : Rules) : Parse Unit := do
  proceed .token
  if ← sees "*" then
    eat "*"
    seek false
  if !(← sees ":") then
    let _ ← r.expression .conditional .token
    repeated (fun () => do
      close .token ","
      seek false
      let _ ← r.expression .conditional .token) ()

/-- The handlers of a statement; whether there is one. -/
def handlers (r : Rules) (body : Parse (List Stmt)) : List Char → Parse Bool
  | [] => pure false
  | _ :: fuel => do
    if ← takesClause "except" then
      handled r
      let _ ← after body
      let _ ← handlers r body fuel
      pure true
    else pure false

/-- A statement with handlers. -/
def tryStatement (r : Rules) (body : Parse (List Stmt)) : Parse Unit := do
  keyword "try"
  proceed .token
  let _ ← after body
  let isHandled ← handlers r body (← here).rest
  if isHandled then
    let _ ← plainClause body "else"
  let isFinal ← plainClause body "finally"
  ensure (isHandled || isFinal)

/-- A case of a statement with cases. -/
def caseClause (r : Rules) (body : Parse (List Stmt)) : Parse (List Stmt) := do
  keyword "case"
  seek false
  casePattern r .token
  repeated (fun () => do
    close .token ","
    proceed .token
    unlessKeyword ["if"]
    casePattern r .token) ()
  let _ ← takes .token ","
  if ← takesKeyword .token "if" then
    seek false
    let _ ← r.expression .conditional .token
  let _ ← after body
  pure []

/-- A statement with cases. -/
def matchStatement (r : Rules) (body : Parse (List Stmt)) : Parse Unit := do
  keyword "match"
  proceed .line
  unlessKeyword (operatorWords.filter (· ≠ "not"))
  let _ ← listed (r.expression .conditional .token) .token
  close .token ":"
  let _ ← suite (caseClause r body) failure

/-! ### Definitions -/

/-- Parameters of types, if they come next. -/
def typeParameters (r : Rules) : Parse Unit := do
  proceed .token
  if ← sees "[" then
    let _ ← typeArguments r

/-- A class. -/
def classStatement (r : Rules) (body : Parse (List Stmt)) (start : Cursor)
    (decorators : List Expr) : Parse Stmt := do
  keyword "class"
  seek false
  let name ← word
  typeParameters r
  proceed .token
  let args ← if ← sees "(" then arguments r else pure (some ⟨[], []⟩)
  match args with
  | some args =>
    let stmts ← after body
    pure (.classDef ⟨name, args.positional, args.named, decorators, stmts, start.span⟩)
  | none => failure

/-- A function. -/
def functionStatement (r : Rules) (body : Parse (List Stmt)) : Parse Stmt := do
  let start ← here
  asyncWord
  keyword "def"
  seek false
  let name ← word
  typeParameters r
  close .token "("
  seek true
  if !(← sees ")") then parameters r .closer true
  close .closer ")"
  if ← takes .token "->" then
    seek false
    let _ ← r.type false .token
  let _ ← after body
  pure (.functionDef name start.span)

/-- The decorators that come next. -/
def decorators (r : Rules) : List Char → Parse (List Expr)
  | [] => pure []
  | _ :: fuel => do
    if ← sees "@" then
      eat "@"
      let before ← joints (seek false)
      let p ← r.expression .conditional .line
      lineEnd
      seek false
      let rest ← decorators r fuel
      pure (firstOf before p :: rest)
    else pure []

/-- A definition with decorators, where its place is that of the first of them if it is a class. -/
def decorated (r : Rules) (body : Parse (List Stmt)) : Parse Stmt := do
  let start ← here
  let ds ← decorators r start.rest
  if (← here).name = "class" then classStatement r body start ds else functionStatement r body

/-! ### Statements -/

/-- A statement with blocks that is kept as its text. -/
def keptBlock (kind : String) (p : Parse Unit) : Parse (List Stmt) := do
  let start ← here
  p
  let s ← keptStmt kind start
  pure [s]

/-- The word after the one that comes next. -/
def secondWord : Parse String := ahead do
  let _ ← word
  seek false
  pure (← here).name

/-- A statement, or the simple statements of a line. -/
def statement (r : Rules) (body : Parse (List Stmt)) : Parse (List Stmt) := do
  let start ← here
  match start.name with
  | "if" => keptBlock "if_statement" (ifStatement r body)
  | "while" => keptBlock "while_statement" (whileStatement r body)
  | "for" => keptBlock "for_statement" (forStatement r body)
  | "with" => keptBlock "with_statement" (withStatement r body)
  | "try" => keptBlock "try_statement" (tryStatement r body)
  | "class" =>
    let s ← classStatement r body start []
    pure [s]
  | "def" =>
    let s ← functionStatement r body
    pure [s]
  | "async" =>
    match ← attempt secondWord with
    | some "def" =>
      let s ← functionStatement r body
      pure [s]
    | some "for" => keptBlock "for_statement" (forStatement r body)
    | some "with" => keptBlock "with_statement" (withStatement r body)
    | _ => simpleLine r
  | "match" => keptBlock "match_statement" (matchStatement r body) <|> simpleLine r
  | _ =>
    if start.sees "@" then
      let s ← decorated r body
      pure [s]
    else simpleLine r

/-- What stands after a colon, for blocks that are nested no deeper than a number. -/
def bodyOf (r : Rules) : Nat → Parse (List Stmt)
  | 0 => failure
  | n + 1 => suite (fun c => statement r (bodyOf r n) c) (simpleLine r)

end Parse

/-- The statements of a source file, if it is one. -/
def read (source : String) : Option (List Stmt) :=
  let c := Cursor.ofString source
  let depth := c.rest.length + 1
  let r := Rules.ofDepth depth
  (Parse.file (Parse.statement r (Parse.bodyOf r depth)) c).map Prod.fst

end RecordForms.Reader
