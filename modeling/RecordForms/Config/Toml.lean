import RecordForms.Config
import RecordForms.Toml.Parser

/-!
# Configuration files

A configuration as a TOML document.  Keys that are not known are passed over, and those that are
missing leave what they configure as it is.

## Main definitions

* `ConfigError`: why there is no configuration
* `Config.ofEntries?`: the configuration of a document
* `Config.read`: the configuration that a text spells
-/

namespace RecordForms

/-- Why there is no configuration. -/
inductive ConfigError where
  /-- There is no such file. -/
  | missingFile (path : String)
  /-- The text is no document, or a value in it is not allowed. -/
  | malformed
  deriving DecidableEq, Repr

/-- The error in words. -/
def ConfigError.message : ConfigError → String
  | missingFile path => s!"failed to read {path}: No such file or directory (os error 2)"
  | malformed => "invalid configuration"

/-- The alternative that a value names: by a text, or by the only key of a table with nothing under
it. -/
def Toml.alternative? : Toml → Option String
  | str s => some s
  | table _ [(key, v)] => if v.isEmpty then some key else none
  | _ => none

/-- The text that a value is. -/
def Toml.str? : Toml → Option String
  | str s => some s
  | _ => none

namespace Config

/-- What a key is set to, or `default` without it. -/
def setting? {α : Type} (read : Toml → Option α) (default : α) (key : String)
    (entries : List (String × Toml)) : Option α :=
  match entries.find? fun p => p.1 == key with
  | some (_, v) => read v
  | none => some default

/-- The configuration of a document. -/
def ofEntries? (entries : List (String × Toml)) : Option Config := do
  let base : Config := {}
  let ordering ← setting? (fun v => v.alternative?.bind OrderingPolicy.ofName?) base.ordering
    "ordering" entries
  let mutableDefaults ← setting? (fun v => v.alternative?.bind MutableDefaultPolicy.ofName?)
    base.mutableDefaults "mutable-defaults" entries
  let module ← setting? Toml.str? base.module "module" entries
  some ⟨ordering, mutableDefaults, module⟩

/-- The configuration that a text spells. -/
def read (text : String) : Except ConfigError Config :=
  match (Toml.read text).bind ofEntries? with
  | some config => .ok config
  | none => .error .malformed

end Config

end RecordForms
