import RecordForms.Number.Double

/-!
# JSON values

The values that a JSON text spells.  A number beyond the range of its type and a text with half of a
surrogate pair are well-formed and may stand where nothing is read; they have no value.

## Main definitions

* `Json`: the values
* `Json.isLegible`: values that can be read, within a limit on their nesting
* `Json.single?`: the value under a key that may not be repeated
-/

namespace RecordForms

/-- A JSON value. -/
inductive Json where
  | null
  | bool (b : Bool)
  /-- A whole number. -/
  | int (n : Int)
  | float (x : Double)
  | str (s : String)
  | arr (items : List Json)
  | obj (entries : List (String × Json))
  /-- Something well-formed that has no value. -/
  | unreadable
  deriving Repr, Inhabited

namespace Json

/-- Whether the value can be read where `room` more arrays and objects may be entered. -/
def isLegible : Nat → Json → Bool
  | _, unreadable => false
  | 0, arr _ | 0, obj _ => false
  | room + 1, arr items => items.all (isLegible room)
  | room + 1, obj entries => entries.all fun (_, j) => isLegible room j
  | _, _ => true

/-- The value under a key that may stand in an object once at most: nothing if it stands there more
often, and `some none` if it does not stand there. -/
def single? (key : String) (entries : List (String × Json)) : Option (Option Json) :=
  match entries.filter fun p => p.1 == key with
  | [] => some none
  | [(_, j)] => some (some j)
  | _ => none

/-- The value under a key that has to stand in an object exactly once. -/
def required? (key : String) (entries : List (String × Json)) : Option Json :=
  (single? key entries).join

/-- The text that a value is. -/
def str? : Json → Option String
  | str s => some s
  | _ => none

end Json

end RecordForms
