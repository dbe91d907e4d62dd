import RecordForms.Tree.Basic
import RecordForms.TypeExpr.Basic
import RecordForms.Value.Printer
import RecordForms.Value.Reader

/-!
# The tree of a value or a type

What is written for a value or a type, as a syntax tree.  A negative number is a sign before a
literal; what has no literal of its own is a call.

## Main definitions

* `Value.numeral`: digits, perhaps with a point among them, as an expression
* `Value.toExpr`: a value as an expression
* `TypeExpr.toExpr`, `Annotation.toExpr`: a type and an annotation as expressions
-/

namespace RecordForms

namespace Value

/-- A literal with the value that its text has, or else its text. -/
def literal (kind : String) (value : Option Value) (text : List Char) : Expr :=
  match value with
  | some v => .constant v
  | .none => .other kind (String.ofList text)

/-- Digits as an expression; with a point among them they are a float. -/
def numeral (digits : List Char) : Expr :=
  if digits.contains '.' then literal "float" (readFloat? digits) digits
  else literal "integer" (readInt? digits) digits

/-- An expression with a minus before it, if there is one. -/
def signed (isNegative : Bool) (e : Expr) : Expr :=
  if isNegative then .unary .neg e else e

/-- A whole number as an expression. -/
def intExpr (n : Int64) : Expr :=
  signed (n < 0) (numeral (Number.decimal n.toInt.natAbs))

/-- A call with one argument. -/
def callWith (callee : String) (arg : Expr) : Expr :=
  .call (.name callee) [arg] []

/-- A float as an expression: what is no finite number is a call. -/
def floatExpr (x : Double) : Expr :=
  if x.isNaN then callWith "float" (.constant (.str "nan"))
  else if x.isInfinite then signed x.isNegative (callWith "float" (.constant (.str "inf")))
  else signed x.isNegative (numeral (floatText (.ofMagnitude false x.magnitude)))

mutual

/-- A value as an expression. -/
def toExpr : Value → Expr
  | int n => intExpr n
  | float x => floatExpr x
  | tuple items => .tuple (toExprs items)
  | list items => .list (toExprs items)
  | dict pairs => .dict (toPairs pairs)
  | set [] => .call (.name "set") [] []
  | set (item :: items) => .set (toExpr item :: toExprs items)
  | frozenSet [] => .call (.name "frozenset") [] []
  | frozenSet (item :: items) => callWith "frozenset" (.set (toExpr item :: toExprs items))
  | symbol path => .dotted path
  | v => .constant v

/-- Values as expressions. -/
def toExprs : List Value → List Expr
  | [] => []
  | v :: vs => toExpr v :: toExprs vs

/-- Pairs of values as pairs of expressions. -/
def toPairs : List (Value × Value) → List (Expr × Expr)
  | [] => []
  | (k, v) :: rest => (toExpr k, toExpr v) :: toPairs rest

end

@[simp] theorem toExpr_int (n : Int64) : toExpr (int n) = intExpr n := rfl

@[simp] theorem toExpr_tuple (items : List Value) : toExpr (tuple items) = .tuple (toExprs items) :=
  rfl

@[simp] theorem toExpr_list (items : List Value) : toExpr (list items) = .list (toExprs items) :=
  rfl

@[simp] theorem toExpr_dict (pairs : List (Value × Value)) :
    toExpr (dict pairs) = .dict (toPairs pairs) := rfl

@[simp] theorem toExpr_set_cons (item : Value) (items : List Value) :
    toExpr (set (item :: items)) = .set (toExprs (item :: items)) := rfl

@[simp] theorem toExpr_symbol (path : String) : toExpr (symbol path) = .dotted path := rfl

theorem toExprs_eq_map (vs : List Value) : toExprs vs = vs.map toExpr := by
  induction vs with
  | nil => rfl
  | cons v vs ih => simp [toExprs, ih]

end Value

namespace Expr

/-- The expressions in square brackets as one; several are a tuple. -/
def ofSubscripts : List Expr → Expr
  | [e] => e
  | es => tuple es

/-- Alternatives with bars between them, from left to right. -/
def ofAlternatives : List Expr → Expr
  | [] => tuple []
  | e :: es => es.foldl bitOr e

end Expr

namespace TypeExpr

mutual

/-- A type as an expression. -/
def toExpr : TypeExpr → Expr
  | name path => .dotted path
  | generic origin args => .subscript (.dotted origin) (.ofSubscripts (toExprs args))
  | union members => .ofAlternatives (toExprs members)
  | noneType => .constant .none
  | literal origin values =>
    .subscript (.dotted origin) (.ofSubscripts (values.map Value.toExpr))

/-- Types as expressions. -/
def toExprs : List TypeExpr → List Expr
  | [] => []
  | t :: ts => toExpr t :: toExprs ts

end

theorem toExprs_eq_map (ts : List TypeExpr) : toExprs ts = ts.map toExpr := by
  induction ts with
  | nil => rfl
  | cons t ts ih => simp [toExprs, ih]

end TypeExpr

/-- An annotation as an expression: a reference that has not been resolved is a text. -/
def Annotation.toExpr : Annotation → Expr
  | resolved t => t.toExpr
  | forward reference => .constant (.str reference)

end RecordForms
