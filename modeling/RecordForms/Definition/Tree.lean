import RecordForms.Definition.Source
import RecordForms.Source.Tree

/-!
# The tree of a definition

The statement that is written for a definition, as a syntax tree.

## Main definitions

* `Definition.toStmt`: a definition as a statement
-/

namespace RecordForms.Definition

/-- The statement that is written for a definition, with all its parts at one place. -/
def toStmt (span : Span) (d : Definition) : Stmt :=
  d.layout.toStmt span

end RecordForms.Definition
