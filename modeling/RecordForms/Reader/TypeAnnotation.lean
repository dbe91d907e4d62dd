import RecordForms.Reader.Operand

/-!
# Types in a source file

A type is an expression, but a name with a subscript is read as a generic type: types stand in its
brackets, and only a bar, an attribute or a colon may follow it.

## Main definitions

* `Parse.typeArguments`: types in brackets
* `Parse.typeWith`: a type
-/

namespace RecordForms.Reader.Parse

/-- Types in brackets. -/
def typeArguments (r : Rules) : Parse (List Expr) := do
  eat "["
  let before ← joints (seek false)
  let p ← r.type true .closer
  moreElements Join.expr (do let p ← r.type true .closer; pure p.expr) "]"
    (before.map Join.expr ++ [p.expr])

/-- The words that are no names of generic types. -/
def typeKeywords : List String :=
  ["None", "True", "False", "not", "lambda", "await", "print", "exec", "async", "match"]

/-- The name of a generic type, if one comes next, and the joints between lines before its
brackets. -/
def genericName (f : Follow) : Parse (String × List Join) := do
  unlessKeyword typeKeywords
  let name ← word
  let joins ← joints (proceed f)
  ensure (← sees "[")
  pure (name, joins)

/-- The items of a type. -/
def splatType : Parse Piece := do
  let start ← here
  eat "**" <|> eat "*"
  seek false
  let _ ← word
  kept "splat_type" start

/-- A type without anything after it.  A joint between lines before the brackets of a generic type
takes the place of what stands in them. -/
def simpleType (r : Rules) (f : Follow) : Parse Piece := do
  let start ← here
  match ← attempt (genericName f) with
  | some (name, joins) =>
    let args ← typeArguments r
    let args := if joins.isEmpty then args else []
    pure ⟨"generic_type", start, .subscript (.name name) (asOne args)⟩
  | none => splatType <|> r.expression .conditional f

/-- What may follow a type: another type after a bar, or an attribute.  With a joint between lines
at the bar, the union is kept as its text; one at the dot takes the place of the attribute. -/
def typeTrailer (r : Rules) (f : Follow) (p : Piece) : Parse Piece := do
  let before ← joints (proceed f)
  (do
    eat "|"
    ensure (!(← sees "="))
    let after ← joints (seek false)
    let q ← simpleType r f
    if (before ++ after).isEmpty then pure ⟨"union_type", p.start, .bitOr p.expr q.expr⟩
    else kept "union_type" p.start) <|> (do
    eat "."
    let after ← joints (seek false)
    let member ← word
    let members := (before ++ after).map Join.text ++ [member]
    pure ⟨"member_type", p.start, .attr p.expr (members.headD member)⟩)

/-- A type, which a colon and another type may follow if `isConstrained`. -/
def typeWith (r : Rules) (isConstrained : Bool) (f : Follow) : Parse Piece := do
  let first ← simpleType r f
  let p ← repeated (typeTrailer r f) first
  (do
    ensure isConstrained
    close f ":"
    seek false
    let _ ← r.type true f
    kept "constrained_type" p.start) <|> pure p

end RecordForms.Reader.Parse
