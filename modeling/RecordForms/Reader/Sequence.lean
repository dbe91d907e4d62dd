import RecordForms.Reader.Quoted

/-!
# Sequences

Things with commas between them: in brackets, where the last may have a comma after it, and without
brackets, where a comma makes a tuple.

## Main definitions

* `Parse.joints`: the joints between lines on the way to the next token, which count as elements
* `Parse.elements`: what stands in brackets
* `Parse.listed`: what stands without brackets
* `Parse.expressions`, `Parse.targets`, `Parse.yielded`: lists of expressions and of targets, and
  `yield`
-/

namespace RecordForms.Reader

namespace Parse

/-- Goes on with `p`, and gives back the joints between lines on the way to the next token. -/
def joints (p : Parse Unit) : Parse (List Join) := do
  let c ← here
  p
  pure c.joins

/-- What follows an element in brackets: more elements, or the closing bracket. -/
def elementsAfter {α : Type} (ofJoin : Join → α) (element : Parse α) (closer : String) :
    List Char → List α → Parse (List α)
  | [], _ => failure
  | _ :: fuel, items => do
    let items := items ++ (← joints (seek true)).map ofJoin
    if ← sees "," then
      eat ","
      let items := items ++ (← joints (seek true)).map ofJoin
      if ← sees closer then
        eat closer
        pure items
      else
        let e ← element
        elementsAfter ofJoin element closer fuel (items ++ [e])
    else
      eat closer
      pure items

/-- What follows elements in brackets: more elements, or the closing bracket. -/
def moreElements {α : Type} (ofJoin : Join → α) (element : Parse α) (closer : String)
    (items : List α) : Parse (List α) := fun c =>
  elementsAfter ofJoin element closer c.rest items c

/-- The elements after an opening bracket, of which there may be none. -/
def elements (element : Parse Expr) (closer : String) : Parse (List Expr) := do
  let items := (← joints (seek true)).map Join.expr
  if ← sees closer then
    eat closer
    pure items
  else
    let e ← element
    moreElements Join.expr element closer (items ++ [e])

/-- Things with commas between them and perhaps one at the end, and whether there is a comma. -/
def listed (item : Parse Piece) (f : Follow) : Parse (List Piece × Bool) := do
  let first ← item
  let items ← repeated (fun items => do
    let before ← joints (close f ",")
    let after ← joints (proceed f)
    let p ← item
    pure (items ++ (before ++ after).map Join.piece ++ [p])) [first]
  match ← attempt (joints (close f ",")) with
  | some before => pure (items ++ before.map Join.piece, true)
  | none => pure (items, 1 < items.length)

/-- Things with commas between them as one piece: a tuple if there is a comma. -/
def tupled (kind : String) (item : Parse Piece) (f : Follow) : Parse Piece := do
  let start ← here
  match ← listed item f with
  | ([p], false) => pure p
  | (items, _) => pure ⟨kind, start, .tuple (items.map Piece.expr)⟩

/-- Expressions with commas between them. -/
def expressions (r : Rules) (f : Follow) : Parse Piece :=
  tupled "expression_list" (r.expression .conditional f) f

/-- Fails at one of these names. -/
def unlessKeyword (names : List String) : Parse Unit := fun c =>
  if names.contains c.name then none else some ((), c)

/-- Targets with commas between them, up to `in` in a loop. -/
def targets (r : Rules) (f : Follow) (isLoop : Bool) : Parse Piece := do
  let isFirst ← here
  tupled "pattern_list" (do
    let c ← here
    if isLoop && c.offset ≠ isFirst.offset then unlessKeyword ["in"]
    r.target f) f

/-- What `yield` gives: what another generator gives, expressions, or nothing. -/
def yielded (r : Rules) (f : Follow) : Parse Piece := do
  let start ← here
  keyword "yield"
  if ← takesKeyword f "from" then
    seek false
    let _ ← r.expression .conditional f
  else
    let _ ← attempt (do proceed f; expressions r f)
  kept "yield" start

/-- An expression or `yield`. -/
def expressionOrYield (r : Rules) (p : Parse Piece) (f : Follow) : Parse Piece := do
  if (← here).name = "yield" then yielded r f else p

end Parse

end RecordForms.Reader
