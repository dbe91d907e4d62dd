import RecordForms.Definition.Building
import RecordForms.Definition.Reading
import RecordForms.Definition.Source

/-!
# Catalogues of adapters

What reads, builds and writes the definitions of a framework is an adapter.  A catalogue holds the
builtin adapters and those registered later; of several for one framework the latest is active.

## Main definitions

* `Adapter`: the adapters; `Adapter.builtin` is the builtin one of a framework
* `Adapter.withOrdering`, `Adapter.tagged`: adapters made from others
* `Catalogue`: the catalogues, with `Catalogue.register`, `Catalogue.get`, `Catalogue.byName?` and
  `Catalogue.active`
* `Catalogue.convert`: a definition in another framework
-/

namespace RecordForms

/-- What reads, builds and writes the definitions of a framework. -/
structure Adapter where
  framework : Framework
  ordering : OrderingRule
  read : Definition → Except RecordError Schema
  build : Config → Schema → Except RecordError Definition
  write : Definition → String

namespace Adapter

/-- The builtin adapter of a framework. -/
def builtin (f : Framework) : Adapter :=
  ⟨f, f.ordering, f.read, f.build, f.write⟩

/-- The adapter with another ordering rule.  Under the positional rule a schema in which a required
field follows a default is refused, whatever the configuration. -/
def withOrdering (a : Adapter) (rule : OrderingRule) : Adapter :=
  { a with
    ordering := rule
    build := fun config s =>
      match rule, s.orderViolation? with
      | .positional, some (field, after) =>
        .error (.fieldOrder s.name field.name after.name a.framework)
      | _, _ => a.build config s }

/-- The adapter that writes a comment before the source. -/
def tagged (a : Adapter) (tag : String) : Adapter :=
  { a with write := fun d => s!"# {tag}\n" ++ a.write d }

end Adapter

/-- The adapters that are known. -/
structure Catalogue where
  /-- The adapters in order of registration. -/
  adapters : List Adapter := []
  /-- Whether the builtin adapters have been added. -/
  seeded : Bool := false

namespace Catalogue

/-- The catalogue with the builtin adapters, which are added once. -/
def seed (c : Catalogue) : Catalogue :=
  if c.seeded then c else ⟨c.adapters ++ Framework.all.map Adapter.builtin, true⟩

/-- The catalogue with one more adapter, after the builtin ones. -/
def register (c : Catalogue) (a : Adapter) : Catalogue :=
  { c.seed with adapters := c.seed.adapters ++ [a] }

/-- The active adapter of a framework: the one registered last. -/
def get (c : Catalogue) (f : Framework) : Adapter :=
  (c.seed.adapters.reverse.find? fun a => a.framework = f).getD (.builtin f)

/-- The active adapter of the framework with a name. -/
def byName? (c : Catalogue) (name : String) : Option Adapter :=
  (Framework.ofName? name).map c.get

/-- The active adapters of all frameworks, in their listing order. -/
def active (c : Catalogue) : List Adapter :=
  Framework.all.map c.get

/-- The definition of the same record in the framework `target`. -/
def convert (c : Catalogue) (config : Config) (target : Framework) (d : Definition) :
    Except RecordError Definition := do
  let s ← (c.get d.framework).read d
  (c.get target).build config s

end Catalogue

end RecordForms
