import RecordForms.Definition.Building
import RecordForms.Definition.Reading

/-!
# Conversion

A definition in one framework becomes a definition in another: its schema is read and built again.

## Main definitions

* `Definition.convert`: one conversion
* `Definition.chain`: conversions one after another, where a failed one leaves the definition as it
  was
-/

namespace RecordForms.Definition

/-- The definition of the same record in the framework `target`. -/
def convert (config : Config) (target : Framework) (d : Definition) :
    Except RecordError Definition := do
  let s ← d.schema?
  target.build config s

/-- The outcomes of conversions to `targets` one after another.  Each starts from the last
definition that was reached. -/
def chain (config : Config) : List Framework → Definition → List (Except RecordError Definition)
  | [], _ => []
  | target :: targets, d =>
    match d.convert config target with
    | .ok d' => .ok d' :: chain config targets d'
    | .error e => .error e :: chain config targets d

/-- The definition that conversions to `targets` one after another reach. -/
def reached (config : Config) : List Framework → Definition → Definition
  | [], d => d
  | target :: targets, d =>
    match d.convert config target with
    | .ok d' => reached config targets d'
    | .error _ => reached config targets d

end RecordForms.Definition
