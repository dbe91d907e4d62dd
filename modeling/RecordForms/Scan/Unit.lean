import RecordForms.Namespace
import RecordForms.Tree.Basic

/-!
# The namespace of a source file

The names that the statements at the top of a source file bind.

## Main definitions

* `Scan.bindStmt`: the namespace after a statement
* `Scan.namespaceOf`: the namespace of a list of statements
-/

namespace RecordForms.Scan

/-- The name of the namespace of a source file. -/
def unitName : String :=
  "<source>"

/-- The name that dotted names may begin with after a module is imported: its other name, or its
first component. -/
def importedName (a : Alias) : String :=
  a.asName.getD (String.ofList (a.name.toList.takeWhile (· ≠ '.')))

/-- The namespace after an assignment to a target: only simple names are bound. -/
def bindTarget (ns : Namespace) : Expr → Namespace
  | .name id => ns.define id
  | _ => ns

/-- The namespace after a statement. -/
def bindStmt (ns : Namespace) : Stmt → Namespace
  | .importModules names _ => names.foldl (fun ns a => ns.addImport (importedName a)) ns
  | .importFrom _ names _ =>
    names.foldl (fun ns a => if a.name = "*" then ns else ns.define a.bound) ns
  | .classDef c => ns.define c.name
  | .assign targets _ _ => targets.foldl bindTarget ns
  | .annAssign target _ _ _ => bindTarget ns target
  | _ => ns

/-- The namespace of the statements at the top of a source file. -/
def namespaceOf (body : List Stmt) : Namespace :=
  body.foldl bindStmt (.ofName unitName)

end RecordForms.Scan
