import RecordForms.Framework
import RecordForms.Value.Basic

/-!
# Default slots

What a framework reports about the default of a field: one of its tokens for "no default", a value,
or a factory that makes the value.

## Main definitions

* `AbsenceToken`: the tokens, with their spelling
* `emptyOfFactory?`, `factoryOfEmpty?`: the builtin factories and the empty containers they make
* `DefaultSlot`: what is reported
-/

namespace RecordForms

/-- A framework's token for "no default". -/
inductive AbsenceToken where
  | nothing
  | missing
  | noDefault
  | pydanticUndefined
  /-- No entry in the table of defaults. -/
  | notPresent
  deriving DecidableEq, Repr, Inhabited

/-- The spelling of a token. -/
def AbsenceToken.text : AbsenceToken → String
  | nothing => "attrs.NOTHING"
  | missing => "dataclasses.MISSING"
  | noDefault => "msgspec.NODEFAULT"
  | pydanticUndefined => "PydanticUndefined"
  | notPresent => "<not present>"

/-- The builtin factories, each with the empty container it makes. -/
def builtinFactories : List (String × Value) :=
  [("list", .list []), ("dict", .dict []), ("set", .set []), ("tuple", .tuple []),
    ("frozenset", .frozenSet [])]

/-- The value that a factory always makes, if it is builtin. -/
def emptyOfFactory? (path : String) : Option Value :=
  (builtinFactories.find? fun p => p.1 = path).map Prod.snd

/-- The builtin factory of an empty container. -/
def factoryOfEmpty? (v : Value) : Option String :=
  (builtinFactories.find? fun p => p.2 = v).map Prod.fst

/-- What a framework reports about the default of a field. -/
inductive DefaultSlot where
  | token (t : AbsenceToken)
  | value (v : Value)
  | factory (path : String)
  deriving DecidableEq, Repr, Inhabited

/-- Equality of slots, floats by value. -/
def DefaultSlot.equals : DefaultSlot → DefaultSlot → Bool
  | token a, token b => a == b
  | value a, value b => a.equals b
  | factory a, factory b => a == b
  | _, _ => false

/-- A builtin factory makes a container without elements. -/
theorem isEmptyContainer_of_emptyOfFactory? {path : String} {v : Value}
    (h : emptyOfFactory? path = some v) : v.isEmptyContainer := by
  have hall : ∀ p ∈ builtinFactories, p.2.isEmptyContainer := by decide
  obtain ⟨p, hp, rfl⟩ := Option.map_eq_some_iff.mp h
  exact hall p (List.mem_of_find?_eq_some hp)

theorem emptyOfFactory?_factoryOfEmpty? {v : Value} {path : String}
    (h : factoryOfEmpty? v = some path) : emptyOfFactory? path = some v := by
  simp only [factoryOfEmpty?, builtinFactories, List.find?] at h
  repeat' split at h
  all_goals simp_all
  all_goals subst_vars
  all_goals rfl

/-- An empty container that instances would share has a factory. -/
theorem exists_factoryOfEmpty? {v : Value} (hmutable : v.isMutable) (hempty : v.isEmptyContainer) :
    ∃ path, factoryOfEmpty? v = some path := by
  cases v with
  | list items =>
    obtain rfl := List.isEmpty_iff.mp hempty
    exact ⟨"list", by decide⟩
  | dict pairs =>
    obtain rfl := List.isEmpty_iff.mp hempty
    exact ⟨"dict", by decide⟩
  | set items =>
    obtain rfl := List.isEmpty_iff.mp hempty
    exact ⟨"set", by decide⟩
  | _ => cases hmutable

end RecordForms
