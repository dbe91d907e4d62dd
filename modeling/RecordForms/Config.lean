import RecordForms.Namespace

/-!
# Configuration

How definitions are built from schemas.

## Main definitions

* `OrderingPolicy`: what to do with a required field after a default
* `MutableDefaultPolicy`: what to do with a default that instances would share
* `Config`: both, and the module that definitions are made in
* `Config.target`: the namespace of a new definition
-/

namespace RecordForms

/-- What to do with a required field after a default, where instances are built by position. -/
inductive OrderingPolicy where
  /-- Ask for keywords, if the framework can. -/
  | keywordOnly
  /-- Refuse. -/
  | strict
  deriving DecidableEq, Repr, Inhabited

/-- What to do with a mutable default where it cannot stand by value. -/
inductive MutableDefaultPolicy where
  /-- Make empty containers by their builtin factory. -/
  | factory
  /-- Refuse. -/
  | reject
  deriving DecidableEq, Repr, Inhabited

/-- The module of new definitions where none is configured. -/
def defaultModule : String :=
  "ninetales.generated"

/-- How definitions are built. -/
structure Config where
  ordering : OrderingPolicy := .keywordOnly
  mutableDefaults : MutableDefaultPolicy := .factory
  module : String := defaultModule
  deriving DecidableEq, Repr, Inhabited

/-- The spelling of an ordering policy. -/
def OrderingPolicy.name : OrderingPolicy → String
  | keywordOnly => "keyword-only"
  | strict => "strict"

/-- The spelling of a policy on mutable defaults. -/
def MutableDefaultPolicy.name : MutableDefaultPolicy → String
  | factory => "factory"
  | reject => "reject"

/-- The ordering policy with a spelling. -/
def OrderingPolicy.ofName? (name : String) : Option OrderingPolicy :=
  [keywordOnly, strict].find? fun p => p.name == name

/-- The policy on mutable defaults with a spelling. -/
def MutableDefaultPolicy.ofName? (name : String) : Option MutableDefaultPolicy :=
  [factory, reject].find? fun p => p.name == name

/-- The namespace of a new definition: the builtin types and the definition itself. -/
def Config.target (config : Config) (record : String) : Namespace :=
  (Namespace.ofName config.module).define record

end RecordForms
