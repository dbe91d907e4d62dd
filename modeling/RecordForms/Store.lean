import RecordForms.Definition.Building

/-!
# Stores of definitions

The definitions that have been made, under their framework and their name.  A definition is stored
only once it is built, so a failure changes nothing.

## Main definitions

* `Store`: the stores
* `Store.define`: storing a definition, in place of one with its framework and name
* `Store.materialize`: building a definition and storing it
* `Store.get?`, `Store.size`: what is stored
-/

namespace RecordForms

/-- The definitions that have been made. -/
structure Store where
  config : Config := {}
  /-- For each framework, the definitions by name. -/
  table : Framework → NameMap Definition := fun _ => .empty

namespace Store

/-- The definition of a framework under a name. -/
def get? (s : Store) (f : Framework) (name : String) : Option Definition :=
  (s.table f).get? name

/-- The number of definitions. -/
def size (s : Store) : Nat :=
  Framework.all.foldr (fun f n => (s.table f).size + n) 0

/-- Whether there is no definition. -/
def isEmpty (s : Store) : Bool :=
  s.size == 0

/-- The store with a definition, in place of one with its framework and name. -/
def define (s : Store) (d : Definition) : Store :=
  { s with
    table := fun f =>
      if f = d.framework then (s.table f).insert d.name d else s.table f }

/-- The definition of a schema and the store that holds it, or why there is none. -/
def materialize (s : Store) (f : Framework) (schema : Schema) :
    Except RecordError (Definition × Store) := do
  let d ← f.build s.config schema
  .ok (d, s.define d)

end Store

end RecordForms
