import RecordForms.Reader.Sequence

/-!
# Parameters

The parameters of functions.  They are read to find where they end.

## Main definitions

* `Parse.parameters`: parameters with commas between them
-/

namespace RecordForms.Reader.Parse

/-- The type of a parameter, if it has one. -/
def parameterType (r : Rules) (f : Follow) (isTyped : Bool) : Parse Unit := do
  if isTyped then
    if ← takes f ":" then
      seek false
      let _ ← r.type true f

/-- The default of a parameter, if it has one. -/
def parameterDefault (r : Rules) (f : Follow) : Parse Unit := do
  if ← takes f "=" then
    seek false
    let _ ← r.expression .conditional f

/-- A parameter that takes further arguments, or the star between parameters. -/
def starParameter (r : Rules) (f : Follow) (isTyped : Bool) : Parse Unit := do
  let double ← attempt (eat "**")
  if double.isNone then eat "*"
  match ← attempt (do proceed .token; r.target f) with
  | some p =>
    ensure (p.kind ≠ "list_splat_pattern")
    parameterType r f isTyped
  | none => ensure double.isNone

/-- A parameter; `isTyped` says whether it may have a type. -/
def parameter (r : Rules) (f : Follow) (isTyped : Bool) : Parse Unit := do
  if ← sees "*" then starParameter r f isTyped
  else if ← sees "/" then eat "/"
  else if ← sees "(" then
    let _ ← r.target f
    parameterDefault r f
  else
    let _ ← word
    parameterType r f isTyped
    parameterDefault r f

/-- Parameters with commas between them, perhaps one at the end. -/
def parameters (r : Rules) (f : Follow) (isTyped : Bool) : Parse Unit := do
  parameter r f isTyped
  repeated (fun () => do
    close f ","
    proceed f
    parameter r f isTyped) ()
  let _ ← takes f ","

end RecordForms.Reader.Parse
