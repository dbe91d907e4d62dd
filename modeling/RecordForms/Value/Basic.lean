import RecordForms.Number.Double

/-!
# Literal values

The values that a field's default or a literal type can hold: Python's literals, and names of
objects defined elsewhere.

## Main definitions

* `Value`: the values
* `Value.isMutable`: lists, dicts and sets, which all instances of a class would share
* `Value.isEmptyContainer`: containers without elements
* `Value.equals`: equality, floats by value
-/

namespace RecordForms

/-- A literal value. -/
inductive Value where
  /-- `None` as a value. -/
  | none
  | bool (b : Bool)
  | int (n : Int64)
  | float (x : Double)
  | str (s : String)
  | bytes (bs : List UInt8)
  /-- The value `...`. -/
  | ellipsis
  | tuple (items : List Value)
  | list (items : List Value)
  | dict (pairs : List (Value × Value))
  | set (items : List Value)
  | frozenSet (items : List Value)
  /-- A dotted name of an object, such as a member of an enumeration. -/
  | symbol (path : String)
  deriving Repr, Inhabited

namespace Value

/-- Whether instances would share the value as the default of a class. -/
def isMutable : Value → Bool
  | list _ | dict _ | set _ => true
  | _ => false

/-- Whether this is a container without elements. -/
def isEmptyContainer : Value → Bool
  | tuple items | list items | set items | frozenSet items => items.isEmpty
  | dict pairs => pairs.isEmpty
  | _ => false

mutual

/-- Equality of values, where floats are compared by value: one that is no number differs from
itself, and the two zeros are equal. -/
def equals : Value → Value → Bool
  | none, none => true
  | bool a, bool b => a == b
  | int a, int b => a == b
  | float a, float b => a.equals b
  | str a, str b => a == b
  | bytes a, bytes b => a == b
  | ellipsis, ellipsis => true
  | tuple a, tuple b => equalItems a b
  | list a, list b => equalItems a b
  | dict a, dict b => equalPairs a b
  | set a, set b => equalItems a b
  | frozenSet a, frozenSet b => equalItems a b
  | symbol a, symbol b => a == b
  | _, _ => false

/-- Equality of the items of two containers, in order. -/
def equalItems : List Value → List Value → Bool
  | [], [] => true
  | a :: as, b :: bs => equals a b && equalItems as bs
  | _, _ => false

/-- Equality of the pairs of two dicts, in order. -/
def equalPairs : List (Value × Value) → List (Value × Value) → Bool
  | [], [] => true
  | (k, v) :: as, (k', v') :: bs => equals k k' && equals v v' && equalPairs as bs
  | _, _ => false

end

mutual

/-- Whether two values are the same, floats by their bits. -/
def decEq : (a b : Value) → Decidable (a = b)
  | none, b => match b with
    | none => isTrue rfl
    | bool _ | int _ | float _ | str _ | bytes _ | ellipsis | tuple _ | list _ | dict _ | set _
    | frozenSet _ | symbol _ => isFalse nofun
  | bool a, b => match b with
    | bool b => decidable_of_iff (a = b) (by simp)
    | none | int _ | float _ | str _ | bytes _ | ellipsis | tuple _ | list _ | dict _ | set _
    | frozenSet _ | symbol _ => isFalse nofun
  | int a, b => match b with
    | int b => decidable_of_iff (a = b) (by simp)
    | none | bool _ | float _ | str _ | bytes _ | ellipsis | tuple _ | list _ | dict _ | set _
    | frozenSet _ | symbol _ => isFalse nofun
  | float a, b => match b with
    | float b => decidable_of_iff (a = b) (by simp)
    | none | bool _ | int _ | str _ | bytes _ | ellipsis | tuple _ | list _ | dict _ | set _
    | frozenSet _ | symbol _ => isFalse nofun
  | str a, b => match b with
    | str b => decidable_of_iff (a = b) (by simp)
    | none | bool _ | int _ | float _ | bytes _ | ellipsis | tuple _ | list _ | dict _ | set _
    | frozenSet _ | symbol _ => isFalse nofun
  | bytes a, b => match b with
    | bytes b => decidable_of_iff (a = b) (by simp)
    | none | bool _ | int _ | float _ | str _ | ellipsis | tuple _ | list _ | dict _ | set _
    | frozenSet _ | symbol _ => isFalse nofun
  | ellipsis, b => match b with
    | ellipsis => isTrue rfl
    | none | bool _ | int _ | float _ | str _ | bytes _ | tuple _ | list _ | dict _ | set _
    | frozenSet _ | symbol _ => isFalse nofun
  | tuple a, b => match b with
    | tuple b => have := decEqItems a b; decidable_of_iff (a = b) (by simp)
    | none | bool _ | int _ | float _ | str _ | bytes _ | ellipsis | list _ | dict _ | set _
    | frozenSet _ | symbol _ => isFalse nofun
  | list a, b => match b with
    | list b => have := decEqItems a b; decidable_of_iff (a = b) (by simp)
    | none | bool _ | int _ | float _ | str _ | bytes _ | ellipsis | tuple _ | dict _ | set _
    | frozenSet _ | symbol _ => isFalse nofun
  | dict a, b => match b with
    | dict b => have := decEqPairs a b; decidable_of_iff (a = b) (by simp)
    | none | bool _ | int _ | float _ | str _ | bytes _ | ellipsis | tuple _ | list _ | set _
    | frozenSet _ | symbol _ => isFalse nofun
  | set a, b => match b with
    | set b => have := decEqItems a b; decidable_of_iff (a = b) (by simp)
    | none | bool _ | int _ | float _ | str _ | bytes _ | ellipsis | tuple _ | list _ | dict _
    | frozenSet _ | symbol _ => isFalse nofun
  | frozenSet a, b => match b with
    | frozenSet b => have := decEqItems a b; decidable_of_iff (a = b) (by simp)
    | none | bool _ | int _ | float _ | str _ | bytes _ | ellipsis | tuple _ | list _ | dict _
    | set _ | symbol _ => isFalse nofun
  | symbol a, b => match b with
    | symbol b => decidable_of_iff (a = b) (by simp)
    | none | bool _ | int _ | float _ | str _ | bytes _ | ellipsis | tuple _ | list _ | dict _
    | set _ | frozenSet _ => isFalse nofun

/-- Whether two lists of values are the same. -/
def decEqItems : (as bs : List Value) → Decidable (as = bs)
  | [], [] => isTrue rfl
  | [], _ :: _ | _ :: _, [] => isFalse nofun
  | a :: as, b :: bs =>
    have := decEq a b
    have := decEqItems as bs
    decidable_of_iff (a = b ∧ as = bs) (by simp)

/-- Whether two lists of pairs of values are the same. -/
def decEqPairs : (as bs : List (Value × Value)) → Decidable (as = bs)
  | [], [] => isTrue rfl
  | [], _ :: _ | _ :: _, [] => isFalse nofun
  | (k, v) :: as, (k', v') :: bs =>
    have := decEq k k'
    have := decEq v v'
    have := decEqPairs as bs
    decidable_of_iff ((k = k' ∧ v = v') ∧ as = bs) (by simp)

end

instance : DecidableEq Value := decEq

end Value

end RecordForms
