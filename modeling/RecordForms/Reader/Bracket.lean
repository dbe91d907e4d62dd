import RecordForms.Reader.Sequence

/-!
# Brackets

Expressions that begin with a bracket: parentheses, tuples, lists, sets and dictionaries, their
comprehensions, and what stands in the brackets after an operand.

## Main definitions

* `Parse.clauses`: the clauses of a comprehension
* `Parse.parenthesis`, `Parse.square`, `Parse.brace`: expressions in the three kinds of brackets
* `Parse.arguments`, `Parse.subscripts`: what stands in brackets after an operand
-/

namespace RecordForms.Reader.Parse

/-! ### Comprehensions -/

/-- The iterables of a clause. -/
def iterables (r : Rules) : Parse Unit := do
  let first ← here
  let _ ← listed (do
    let c ← here
    if c.offset ≠ first.offset then unlessKeyword ["for", "async", "if"]
    r.expression .naming .closer) .closer

/-- A clause that runs over iterables. -/
def forClause (r : Rules) : Parse Unit := do
  if (← here).name = "async" then
    keyword "async"
    seek false
  keyword "for"
  seek false
  let _ ← targets r .token true
  proceed .token
  keyword "in"
  seek false
  iterables r

/-- A clause with a condition. -/
def ifClause (r : Rules) : Parse Unit := do
  keyword "if"
  seek false
  let _ ← r.expression .naming .closer

/-- The clauses of a comprehension, if one comes next. -/
def clauses (r : Rules) : Parse Unit := do
  proceed .closer
  forClause r
  repeated (fun () => do
    proceed .closer
    forClause r <|> ifClause r) ()

/-- The rest of a comprehension of a kind that began at `start`. -/
def comprehension (r : Rules) (kind : String) (start : Cursor) (closer : String) : Parse Piece := do
  clauses r
  close .closer closer
  kept kind start

/-! ### Elements -/

/-- An expression whose items are elements themselves. -/
def splat (r : Rules) : Parse Piece := do
  let start ← here
  ensure (!start.sees "**")
  eat "*"
  seek false
  let _ ← r.expression .conditional .closer
  kept "list_splat" start

/-- Such an expression in parentheses. -/
def parenthesizedSplat (r : Rules) : List Char → Parse Piece
  | [] => failure
  | _ :: fuel => do
    eat "("
    seek false
    let p ← splat r <|> parenthesizedSplat r fuel
    close .closer ")"
    pure p

/-- Goes on only at the end of an element: before a comma or a closing bracket. -/
def elementEnd : Parse Unit :=
  ahead (do
    proceed .closer
    eat "," <|> eat ")" <|> eat "]" <|> eat "\x7d")

/-- Such an expression, in parentheses, as an element that is kept with them. -/
def keptSplat (r : Rules) : Parse Piece := do
  let start ← here
  let _ ← parenthesizedSplat r start.rest
  elementEnd
  kept "parenthesized_list_splat" start

/-- Such an expression, perhaps in parentheses, as an element. -/
def splatElement (r : Rules) : Parse Piece :=
  splat r <|> keptSplat r

/-- An element of a tuple, a list or a set. -/
def element (r : Rules) : Parse Piece :=
  expressionOrYield r (splatElement r <|> r.expression .conditional .closer) .closer

/-- The elements after the first one. -/
def elementsFrom (r : Rules) (closer : String) (items : List Expr) : Parse (List Expr) :=
  moreElements Join.expr (do let p ← element r; pure p.expr) closer items

/-! ### Parentheses and square brackets -/

/-- Parentheses with an expression in them.  They leave no trace. -/
def grouped (start : Cursor) (before : List Join) (p : Piece) : Parse Piece := do
  let joins := before ++ (← joints (seek true))
  eat ")"
  if joins.isEmpty then pure ⟨"parenthesized_expression", start, p.expr⟩
  else kept "parenthesized_expression" start

/-- A tuple, a generator, or an expression in parentheses. -/
def parenthesis (r : Rules) : Parse Piece := do
  let start ← here
  eat "("
  let before ← joints (seek true)
  if ← sees ")" then
    eat ")"
    pure ⟨"tuple", start, .tuple (before.map Join.expr)⟩
  else
    match ← attempt (do let p ← splatElement r; elementEnd; pure p) with
    | some p => tuple start before p
    | none =>
      let p ← expressionOrYield r (r.expression .conditional .closer) .closer
      (do ensure (p.kind ≠ "yield"); comprehension r "generator_expression" start ")") <|>
        grouped start before p <|> tuple start before p
where
  tuple (start : Cursor) (before : List Join) (p : Piece) : Parse Piece := do
    let items ← elementsFrom r ")" (before.map Join.expr ++ [p.expr])
    pure ⟨"tuple", start, .tuple items⟩

/-- A list or the comprehension of one. -/
def square (r : Rules) : Parse Piece := do
  let start ← here
  eat "["
  let before ← joints (seek true)
  if ← sees "]" then
    eat "]"
    pure ⟨"list", start, .list (before.map Join.expr)⟩
  else
    let p ← element r
    (do ensure (p.kind ≠ "yield"); comprehension r "list_comprehension" start "]") <|> (do
      let items ← elementsFrom r "]" (before.map Join.expr ++ [p.expr])
      pure ⟨"list", start, .list items⟩)

/-! ### Braces -/

/-- An entry of a dictionary: a key and its value, or a table of entries. -/
def entry (r : Rules) : Parse (Option (Expr × Expr)) := do
  if ← sees "**" then
    eat "**"
    seek false
    let _ ← r.expression .conditional .closer
    pure none
  else
    let k ← r.expression .conditional .token
    close .token ":"
    seek false
    let v ← r.expression .conditional .closer
    pure (some (k.expr, v.expr))

/-- A dictionary of entries; with anything but keys and values it is kept as its text. -/
def dictionary (start : Cursor) (entries : List (Option (Expr × Expr))) : Parse Piece :=
  match entries.mapM id with
  | some pairs => pure ⟨"dictionary", start, .dict pairs⟩
  | none => kept "dictionary" start

/-- The rest of a dictionary or of the comprehension of one, after its first entry. -/
def entries (r : Rules) (start : Cursor) (before : List Join) (first : Option (Expr × Expr)) :
    Parse Piece :=
  (do ensure first.isSome; comprehension r "dictionary_comprehension" start "\x7d") <|> (do
    let items ← moreElements (fun _ => none) (entry r) "\x7d"
      (before.map (fun _ => none) ++ [first])
    dictionary start items)

/-- The rest of a set or of the comprehension of one, after its first element. -/
def setElements (r : Rules) (start : Cursor) (before : List Join) (first : Piece) : Parse Piece :=
  (do ensure (first.kind ≠ "yield"); comprehension r "set_comprehension" start "\x7d") <|> (do
    let items ← elementsFrom r "\x7d" (before.map Join.expr ++ [first.expr])
    pure ⟨"set", start, .set items⟩)

/-- A set, a dictionary, or the comprehension of one. -/
def brace (r : Rules) : Parse Piece := do
  let start ← here
  eat "\x7b"
  let before ← joints (seek true)
  if ← sees "," then
    eat ","
    let after ← joints (seek true)
    eat "\x7d"
    dictionary start ((before ++ after).map fun _ => none)
  else if ← sees "\x7d" then
    eat "\x7d"
    dictionary start (before.map fun _ => none)
  else if ← sees "**" then
    let e ← entry r
    entries r start before e
  else
    let p ← element r
    if ← takes .closer ":" then
      seek false
      let v ← r.expression .conditional .closer
      entries r start before (some (p.expr, v.expr))
    else setElements r start before p

/-! ### After an operand -/

/-- The arguments of a call: those by position and those by name. -/
structure Arguments where
  positional : List Expr
  named : List (Keyword Expr)

/-- An argument. -/
inductive Argument where
  | positional (e : Expr)
  | named (k : Keyword Expr)

/-- A joint between lines in the place of an argument. -/
def Argument.ofJoin (j : Join) : Argument :=
  .positional j.expr

/-- Arguments, told apart. -/
def Arguments.ofList (args : List Argument) : Arguments where
  positional := args.filterMap fun
    | .positional e => some e
    | .named _ => none
  named := args.filterMap fun
    | .positional _ => none
    | .named k => some k

/-- An argument given by name. -/
def namedArgument (r : Rules) : Parse Argument := do
  unlessKeyword ["None", "True", "False", "not", "lambda"]
  let name ← word
  proceed .token
  ensure (!(← sees "=="))
  eat "="
  seek false
  let v ← r.expression .conditional .closer
  pure (.named ⟨some name, v.expr⟩)

/-- An expression whose items are arguments, in parentheses that leave no trace. -/
def unwrappedSplat (r : Rules) : Parse Piece := do
  let c ← here
  let p ← parenthesizedSplat r c.rest
  elementEnd
  pure p

/-- What stands first: a joint between lines, or the piece after it. -/
def firstOf (joins : List Join) (p : Piece) : Expr :=
  match joins with
  | j :: _ => j.expr
  | [] => p.expr

/-- An argument. -/
def argument (r : Rules) : Parse Argument := do
  if ← sees "**" then
    eat "**"
    let before ← joints (seek false)
    let v ← r.expression .conditional .closer
    pure (.named ⟨none, firstOf before v⟩)
  else
    namedArgument r <|> (do
      let p ← splat r <|> unwrappedSplat r <|> r.expression .conditional .closer
      pure (.positional p.expr))

/-- The arguments in parentheses, or nothing if they hold a generator and nothing else. -/
def arguments (r : Rules) : Parse (Option Arguments) := do
  let start ← here
  eat "("
  let before ← joints (seek true)
  if ← sees ")" then
    eat ")"
    pure (some (.ofList (before.map .ofJoin)))
  else if ← sees "," then
    eat ","
    let after ← joints (seek true)
    eat ")"
    pure (some (.ofList ((before ++ after).map .ofJoin)))
  else
    let a ← argument r
    match ← attempt (comprehension r "generator_expression" start ")") with
    | some _ => pure none
    | none =>
      let args ← moreElements .ofJoin (argument r) ")" (before.map .ofJoin ++ [a])
      pure (some (.ofList args))

/-- A bound of a slice, if there is one. -/
def bound (r : Rules) : Parse Unit := do
  let _ ← attempt (do proceed .closer; r.expression .conditional .closer)

/-- The rest of a slice after its first bound. -/
def sliceRest (r : Rules) (start : Cursor) : Parse Piece := do
  close .closer ":"
  bound r
  if ← takes .closer ":" then bound r
  kept "slice" start

/-- An index or a slice. -/
def index (r : Rules) : Parse Piece := do
  let start ← here
  if ← sees ":" then sliceRest r start
  else
    let p ← r.expression .conditional .closer
    sliceRest r start <|> pure p

/-- The expressions in square brackets as one. -/
def asOne : List Expr → Expr
  | [e] => e
  | es => .tuple es

/-- The indices in square brackets as one expression. -/
def subscripts (r : Rules) : Parse Expr := do
  eat "["
  seek false
  let (items, _) ← listed (index r) .closer
  close .closer "]"
  pure (asOne ((items.filter (·.kind ≠ Join.kind)).map Piece.expr))

end RecordForms.Reader.Parse
