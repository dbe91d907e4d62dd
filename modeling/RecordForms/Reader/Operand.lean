import RecordForms.Reader.Bracket

/-!
# Operands

Names, literals and brackets, what follows them directly, and the operators between them that yield
one operand again.

## Main definitions

* `Parse.atom`: an operand without anything after it
* `Parse.primary`: an operand with attributes, calls and subscripts
* `Parse.signed`: an operand with signs before it, or a power
* `Parse.operand`: operands with operators between them
* `operators`: the operators and how tightly they bind
-/

namespace RecordForms.Reader

/-- The words that may come after a complete expression. -/
def operatorWords : List String :=
  ["if", "else", "and", "or", "in", "is", "not", "as", "for", "async"]

namespace Parse

/-- Three dots. -/
def ellipsis : Parse Piece := do
  let start ← here
  eat "..."
  pure ⟨"ellipsis", start, .constant .ellipsis⟩

/-- A name, or a word that is a constant. -/
def nameOrConstant : Parse Piece := do
  let start ← here
  unlessKeyword ["not", "lambda"]
  match ← word with
  | "None" => pure ⟨"none", start, .constant .none⟩
  | "True" => pure ⟨"true", start, .constant (.bool true)⟩
  | "False" => pure ⟨"false", start, .constant (.bool false)⟩
  | name => pure ⟨"identifier", start, .name name⟩

/-- An awaited operand. -/
def awaited (r : Rules) (f : Follow) : Parse Piece := do
  let start ← here
  keyword "await"
  proceed f
  unlessKeyword operatorWords
  let _ ← r.signed f
  kept "await" start

/-! ### What follows an operand -/

/-- An attribute of an operand. -/
def memberOf (p : Piece) : Parse Piece := do
  eat "."
  seek false
  let member ← word
  pure ⟨"attribute", p.start, .attr p.expr member⟩

/-- A call of an operand; with a generator as its only argument it is kept as its text. -/
def callOf (r : Rules) (p : Piece) : Parse Piece := do
  match ← arguments r with
  | some args => pure ⟨"call", p.start, .call p.expr args.positional args.named⟩
  | none => kept "call" p.start

/-- A subscript of an operand. -/
def subscriptOf (r : Rules) (p : Piece) : Parse Piece := do
  let slice ← subscripts r
  pure ⟨"subscript", p.start, .subscript p.expr slice⟩

/-- An attribute, a call or a subscript of an operand. -/
def trailer (r : Rules) (f : Follow) (p : Piece) : Parse Piece := do
  proceed f
  memberOf p <|> callOf r p <|> subscriptOf r p

/-- Whether something may be assigned to as it stands. -/
def isPlace (p : Piece) : Bool :=
  p.kind = "identifier" || p.kind = "attribute" || p.kind = "subscript"

/-- The longest chain after an operand that may be assigned to. -/
def placeFrom (r : Rules) (f : Follow) :
    List Char → Piece → Option (Piece × Cursor) → Parse Piece
  | [], p, best => fun c => if isPlace p then some (p, c) else best
  | _ :: fuel, p, best => fun c =>
    let best := if isPlace p then some (p, c) else best
    match trailer r f p c with
    | some (q, d) => placeFrom r f fuel q best d
    | none => best

/-- The items of something that may be assigned to. -/
def starred (r : Rules) (f : Follow) (kind : String) (atom : Parse Piece) : Parse Piece := do
  let start ← here
  ensure (!start.sees "**")
  eat "*"
  seek false
  let p ← atom
  let c ← here
  let _ ← placeFrom r f c.rest p none
  kept kind start

/-- An operand without a star before it or anything after it. -/
def atom (r : Rules) (f : Follow) : Parse Piece := do
  match (← here).rest with
  | '(' :: _ => parenthesis r
  | '[' :: _ => square r
  | '\x7b' :: _ => brace r
  | d :: _ =>
    if d.isDigit then number
    else if d = '.' then ellipsis <|> number
    else strings r.interpolation f <|> awaited r f <|> nameOrConstant
  | [] => failure

/-- An operand with attributes, calls and subscripts after it. -/
def primary (r : Rules) (f : Follow) : Parse Piece := do
  let p ← starred r f "list_splat" (atom r f) <|> atom r f
  if p.kind = "await" then pure p else repeated (trailer r f) p

/-! ### Operators -/

/-- The sign of an operator before an operand. -/
def sign : Parse UnaryOp :=
  (do eat "-"; pure .neg) <|> (do eat "+"; pure .pos) <|> (do eat "~"; pure .invert)

/-- An operand with a sign before it, or one that may be raised to a power. -/
def signedWith (r : Rules) (f : Follow) : Parse Piece := do
  let start ← here
  match ← attempt sign with
  | some op =>
    seek false
    let p ← r.signed f
    pure ⟨"unary_operator", start, .unary op p.expr⟩
  | none =>
    let p ← primary r f
    (do
      close f "**"
      ensure (!(← sees "="))
      seek false
      let _ ← r.signed f
      kept "binary_operator" start) <|> pure p

end Parse

/-- The operators between operands, longer ones before those that they begin with, and how tightly
they bind. -/
def operators : List (String × Nat) :=
  [("**", 0), ("//", 6), ("<<", 4), (">>", 4), ("|", 1), ("^", 2), ("&", 3), ("+", 5), ("-", 5),
    ("*", 6), ("@", 6), ("/", 6), ("%", 6)]

namespace Parse

/-- An operator between operands that binds at least as tightly as `rank`; with an equals sign after
it, it is another operator. -/
def operator (rank : Nat) : Parse (String × Nat) := fun c =>
  match operators.find? fun p => c.sees p.1 with
  | some (op, n) =>
    let d := c.drop op.length
    if rank ≤ n && !d.sees "=" then some ((op, n), d) else none
  | none => none

/-- Two operands with an operator between them. -/
def between (start : Cursor) (op : String) (p q : Piece) : Parse Piece :=
  if op = "|" then pure ⟨"binary_operator", start, .bitOr p.expr q.expr⟩
  else kept "binary_operator" start

/-- Operands with operators between them that bind at least as tightly as `rank`, which is not
zero. -/
def operandWith (r : Rules) (rank : Nat) (f : Follow) : Parse Piece := do
  let first ← signedWith r f
  repeated (fun p => do
    proceed f
    let (op, n) ← operator rank
    seek false
    let q ← r.operand (n + 1) f
    between p.start op p q) first

end Parse

end RecordForms.Reader
