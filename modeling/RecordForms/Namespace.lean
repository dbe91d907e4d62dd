import RecordForms.NameMap
import RecordForms.NameSet
import RecordForms.TypeExpr.Parser

/-!
# Namespaces

The names that a unit of source knows: simple names bound to types, and module names under which
dotted names are taken as they stand.  A type is resolved by replacing its simple names by what they
are bound to.

## Main definitions

* `Namespace`: the namespaces; `Namespace.ofName` is one in which the builtin types are bound
* `Namespace.bind`, `Namespace.define`, `Namespace.addImport`: adding to a namespace
* `Namespace.Unresolved`: why a type cannot be resolved
* `Namespace.substitute`: a type with its simple names replaced
* `Namespace.resolve`, `Namespace.resolveAnnotation`: a text or an annotation as a type
-/

namespace RecordForms

/-- The names bound in every namespace. -/
def builtinTypes : List String :=
  ["bool", "bytearray", "bytes", "complex", "dict", "float", "frozenset", "int", "list", "object",
    "set", "str", "tuple", "type"]

/-- The names that a unit of source knows. -/
structure Namespace where
  name : String
  /-- What simple names denote. -/
  bindings : NameMap TypeExpr
  /-- The names under which dotted names are taken as they stand. -/
  imports : NameSet
  deriving Inhabited

namespace Namespace

/-- The namespace with this name in which the builtin types are bound to themselves. -/
def ofName (name : String) : Namespace where
  name := name
  bindings := NameMap.ofList (builtinTypes.map fun b => (b, .name b))
  imports := .empty

/-- The namespace in which `name` denotes the type `t`. -/
def bind (ns : Namespace) (name : String) (t : TypeExpr) : Namespace :=
  { ns with bindings := ns.bindings.insert name t }

/-- The namespace in which `name` denotes itself. -/
def define (ns : Namespace) (name : String) : Namespace :=
  ns.bind name (.name name)

/-- The namespace in which dotted names may begin with `module`. -/
def addImport (ns : Namespace) (module : String) : Namespace :=
  { ns with imports := ns.imports.insert module }

/-- What `name` denotes. -/
def lookup (ns : Namespace) (name : String) : Option TypeExpr :=
  ns.bindings.get? name

/-- Whether dotted names may begin with `module` because it is imported. -/
def isImported (ns : Namespace) (module : String) : Bool :=
  ns.imports.contains module

/-- Equality of namespaces: bindings in any order. -/
def equals (a b : Namespace) : Bool :=
  a.name == b.name && a.bindings.sameEntries TypeExpr.equals b.bindings && a.imports == b.imports

/-- Why a type cannot be resolved. -/
inductive Unresolved where
  /-- A name that the namespace does not know. -/
  | undefined (module name : String)
  /-- A text that spells no type. -/
  | malformed (error : TypeExpr.Malformed)
  /-- A subscripted name that is bound to something other than a name. -/
  | notGeneric (name : String) (bound : TypeExpr)
  deriving DecidableEq, Repr

/-- The reason in words. -/
def Unresolved.message : Unresolved → String
  | undefined module name => s!"name `{name}` is not defined in module `{module}`"
  | malformed error =>
    "malformed type expression at offset " ++ toString error.offset ++ ": " ++ error.fault.message
  | notGeneric name bound =>
    "`" ++ name ++ "` is bound to `" ++ bound.text ++ "`, which cannot be subscripted"

/-- What stands before the first dot of a name, if it has a dot. -/
def moduleOf? (path : String) : Option String :=
  (Text.cut '.' path.toList).map fun (head, _) => String.ofList head

/-- What a name denotes.  A simple name is looked up; a dotted name stands for itself if its first
component is imported or bound. -/
def resolvePath (ns : Namespace) (path : String) : Except Unresolved TypeExpr :=
  match moduleOf? path with
  | none =>
    match ns.lookup path with
    | some t => .ok t
    | none => .error (.undefined ns.name path)
  | some head =>
    if ns.isImported head || ns.bindings.contains head then .ok (.name path)
    else .error (.undefined ns.name head)

/-- What a subscripted name denotes, which has to be a name. -/
def resolveOrigin (ns : Namespace) (origin : String) : Except Unresolved String :=
  match ns.resolvePath origin with
  | .ok (.name path) => .ok path
  | .ok bound => .error (.notGeneric origin bound)
  | .error e => .error e

mutual

/-- The type in which every name is replaced by what it denotes, or the first name, from left to
right, that cannot be. -/
def substitute (ns : Namespace) : TypeExpr → Except Unresolved TypeExpr
  | .name path => ns.resolvePath path
  | .generic origin args => do
    let origin ← ns.resolveOrigin origin
    let args ← ns.substituteItems args
    .ok (.generic origin args)
  | .union members => do
    let members ← ns.substituteItems members
    .ok (.union members)
  | .literal origin values => do
    let origin ← ns.resolveOrigin origin
    .ok (.literal origin values)
  | .noneType => .ok .noneType

/-- The types of a list with their names replaced. -/
def substituteItems (ns : Namespace) : List TypeExpr → Except Unresolved (List TypeExpr)
  | [] => .ok []
  | t :: ts => do
    let t ← ns.substitute t
    let ts ← ns.substituteItems ts
    .ok (t :: ts)

end

/-- The type that a text denotes: the text is read as a type, and its names are replaced. -/
def resolve (ns : Namespace) (reference : String) : Except Unresolved TypeExpr :=
  match TypeExpr.parse reference with
  | .ok t => ns.substitute t
  | .error e => .error (.malformed e)

/-- The type that an annotation denotes; a known type denotes itself. -/
def resolveAnnotation (ns : Namespace) : Annotation → Except Unresolved TypeExpr
  | .resolved t => .ok t
  | .forward reference => ns.resolve reference

end Namespace

end RecordForms
