import RecordForms.Reader.Operand

/-!
# Targets

What can be assigned to: names, attributes, subscripts, one target with a star, and tuples and lists
of targets.

## Main definitions

* `Parse.targetWith`: a target
-/

namespace RecordForms.Reader.Parse

/-- An operand that may be assigned to as it stands. -/
def place (r : Rules) (f : Follow) : Parse Piece := do
  let p ← atom r f
  let c ← here
  placeFrom r f c.rest p none

/-- Targets in brackets. -/
def bracketedTargets (r : Rules) (opener closer : String) : Parse (List Expr) := do
  eat opener
  elements (do let p ← r.target .closer; pure p.expr) closer

/-- Something that can be assigned to. -/
def targetWith (r : Rules) (f : Follow) : Parse Piece := do
  let start ← here
  starred r f "list_splat_pattern" (atom r f) <|> place r f <|>
    (do
      let items ← bracketedTargets r "(" ")"
      pure ⟨"tuple_pattern", start, .tuple items⟩) <|>
    (do
      let items ← bracketedTargets r "[" "]"
      pure ⟨"list_pattern", start, .list items⟩)

end RecordForms.Reader.Parse
