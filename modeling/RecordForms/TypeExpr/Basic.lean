import RecordForms.Text.Pieces
import RecordForms.Value.Printer

/-!
# Type expressions

The types that fields are declared with: names, subscripted names, unions, `None`, and literal types
whose arguments are values.

## Main definitions

* `TypeExpr`: the type expressions
* `TypeExpr.head?`: the name that a type begins with
* `isLiteralOrigin`: the names whose arguments are values
* `TypeExpr.chars`, `TypeExpr.text`: a type as it is written
* `Annotation`: a type as a definition stores it, either known or still a text
-/

namespace RecordForms

/-- A type expression. -/
inductive TypeExpr where
  /-- A plain or dotted name. -/
  | name (path : String)
  /-- A subscripted name. -/
  | generic (origin : String) (args : List TypeExpr)
  /-- Alternatives, written with a bar. -/
  | union (members : List TypeExpr)
  /-- `None` as a type. -/
  | noneType
  /-- A subscripted name whose arguments are values. -/
  | literal (origin : String) (values : List Value)
  deriving Repr, Inhabited

/-- Whether the subscript of this name takes values: `Literal`, bare or qualified. -/
def isLiteralOrigin (origin : String) : Bool :=
  origin.toList == "Literal".toList || (Text.before? ".Literal".toList origin.toList).isSome

namespace TypeExpr

/-- The name that the type begins with, if it begins with one. -/
def head? : TypeExpr → Option String
  | name path => some path
  | generic origin _ | literal origin _ => some origin
  | union _ | noneType => none

/-- The union of a type and `None`. -/
def optional (t : TypeExpr) : TypeExpr :=
  union [t, noneType]

mutual

/-- Equality of types, floats in literal types by value. -/
def equals : TypeExpr → TypeExpr → Bool
  | name a, name b => a == b
  | generic a as, generic b bs => a == b && equalItems as bs
  | union as, union bs => equalItems as bs
  | noneType, noneType => true
  | literal a as, literal b bs => a == b && Value.equalItems as bs
  | _, _ => false

/-- Equality of the types of two lists, in order. -/
def equalItems : List TypeExpr → List TypeExpr → Bool
  | [], [] => true
  | a :: as, b :: bs => equals a b && equalItems as bs
  | _, _ => false

end

mutual

/-- Whether two types are the same. -/
def decEq : (a b : TypeExpr) → Decidable (a = b)
  | name a, b => match b with
    | name b => decidable_of_iff (a = b) (by simp)
    | generic .. | union _ | noneType | literal .. => isFalse nofun
  | generic a as, b => match b with
    | generic b bs =>
      have := decEqItems as bs
      decidable_of_iff (a = b ∧ as = bs) (by simp)
    | name _ | union _ | noneType | literal .. => isFalse nofun
  | union as, b => match b with
    | union bs => have := decEqItems as bs; decidable_of_iff (as = bs) (by simp)
    | name _ | generic .. | noneType | literal .. => isFalse nofun
  | noneType, b => match b with
    | noneType => isTrue rfl
    | name _ | generic .. | union _ | literal .. => isFalse nofun
  | literal a as, b => match b with
    | literal b bs => decidable_of_iff (a = b ∧ as = bs) (by simp)
    | name _ | generic .. | union _ | noneType => isFalse nofun

/-- Whether two lists of types are the same. -/
def decEqItems : (as bs : List TypeExpr) → Decidable (as = bs)
  | [], [] => isTrue rfl
  | [], _ :: _ | _ :: _, [] => isFalse nofun
  | a :: as, b :: bs =>
    have := decEq a b
    have := decEqItems as bs
    decidable_of_iff (a = b ∧ as = bs) (by simp)

end

instance : DecidableEq TypeExpr := decEq

mutual

/-- A type as it is written. -/
def chars : TypeExpr → List Char
  | name path => path.toList
  | generic origin args => origin.toList ++ '[' :: Value.commaSeparated (itemChars args) ++ [']']
  | union members => List.intercalate " | ".toList (itemChars members)
  | noneType => "None".toList
  | literal origin values =>
    origin.toList ++ '[' :: Value.commaSeparated (Value.itemChars values) ++ [']']

/-- The types of a list as they are written. -/
def itemChars : List TypeExpr → List (List Char)
  | [] => []
  | t :: ts => chars t :: itemChars ts

end

/-- A type as it is written. -/
def text (t : TypeExpr) : String :=
  String.ofList t.chars

theorem itemChars_eq_map (ts : List TypeExpr) : itemChars ts = ts.map chars := by
  induction ts with
  | nil => rfl
  | cons t ts ih => simp [itemChars, ih]

end TypeExpr

/-- A type as a definition stores it. -/
inductive Annotation where
  /-- A type that is known. -/
  | resolved (t : TypeExpr)
  /-- A text that is read when the type is asked for. -/
  | forward (reference : String)
  deriving Repr, DecidableEq, Inhabited

namespace Annotation

/-- Equality of annotations, floats in literal types by value. -/
def equals : Annotation → Annotation → Bool
  | resolved a, resolved b => a.equals b
  | forward a, forward b => a == b
  | _, _ => false

/-- The text of an annotation: the reference itself, or the type as it is written. -/
def reference : Annotation → String
  | resolved t => t.text
  | forward text => text

end Annotation

end RecordForms
