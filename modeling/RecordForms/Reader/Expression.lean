import RecordForms.Reader.Operand
import RecordForms.Reader.Parameter

/-!
# Expressions

Comparisons, the operators between expressions, names given in passing, and functions without a
name.

## Main definitions

* `Parse.comparison`: operands with comparisons between them
* `Parse.expressionWith`: an expression with operators from a level on
-/

namespace RecordForms.Reader.Parse

/-- The word or words of a comparison. -/
def comparisonWord : Parse Unit :=
  keyword "in" <|> (do keyword "not"; seek false; keyword "in") <|> (do
    keyword "is"
    let _ ← attempt (do seek false; keyword "not"))

/-- The sign of a comparison. -/
def comparisonSign : Parse Unit := do
  let c ← here
  ensure (!c.sees "<<" && !c.sees ">>")
  eat "<=" <|> eat ">=" <|> eat "==" <|> eat "!=" <|> eat "<>" <|> eat "<" <|> eat ">"

/-- Operands with comparisons between them. -/
def comparison (r : Rules) (f : Follow) : Parse Piece := do
  let first ← operandWith r 1 f
  repeated (fun p => do
    proceed f
    comparisonSign <|> comparisonWord
    seek false
    let _ ← r.operand 1 f
    kept "comparison_operator" p.start) first

/-- A denied expression. -/
def negated (r : Rules) (f : Follow) : Parse Piece := do
  let start ← here
  keyword "not"
  seek false
  let p ← r.expression .negation f
  pure ⟨"not_operator", start, .unary .not p.expr⟩

/-- A function without a name. -/
def lambda (r : Rules) (f : Follow) : Parse Piece := do
  let start ← here
  keyword "lambda"
  seek false
  if !(← sees ":") then parameters r .token false
  close .token ":"
  seek false
  let _ ← r.expression .conditional f
  kept "lambda" start

/-- A name that is given in passing. -/
def named (r : Rules) (f : Follow) : Parse Piece := do
  let start ← here
  unlessKeyword ["None", "True", "False", "not", "lambda"]
  let _ ← word
  close f ":="
  seek false
  let _ ← r.expression .disjunction f
  kept "named_expression" start

/-- An expression without operators between expressions, apart from those inside it. -/
def simple (r : Rules) (f : Follow) : Parse Piece :=
  negated r f <|> lambda r f <|> named r f <|> comparison r f

/-- The rest of an expression after the operator between it and `p`, if that operator is of at least
the given level. -/
def extended (r : Rules) (level : Level) (f : Follow) (p : Piece) : Parse Piece := do
  proceed f
  let c ← here
  if c.name = "and" then
    ensure (level.rank ≤ Level.conjunction.rank)
    keyword "and"
    seek false
    let _ ← r.expression .negation f
    kept "boolean_operator" p.start
  else if c.name = "or" then
    ensure (level.rank ≤ Level.disjunction.rank)
    keyword "or"
    seek false
    let _ ← r.expression .conjunction f
    kept "boolean_operator" p.start
  else if c.name = "as" then
    ensure (level.rank ≤ Level.naming.rank)
    keyword "as"
    seek false
    let _ ← r.expression .disjunction f
    kept "as_pattern" p.start
  else
    ensure (level.rank ≤ Level.conditional.rank)
    keyword "if"
    seek false
    let _ ← r.expression .conditional .token
    proceed .token
    keyword "else"
    seek false
    let _ ← r.expression .conditional f
    kept "conditional_expression" p.start

/-- An expression with operators from a level on. -/
def expressionWith (r : Rules) (level : Level) (f : Follow) : Parse Piece := do
  let first ← simple r f
  repeated (extended r level f) first

end RecordForms.Reader.Parse
