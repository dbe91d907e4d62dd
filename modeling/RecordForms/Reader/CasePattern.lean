import RecordForms.Reader.Rules

/-!
# Patterns of cases

The patterns that a value is matched against.  They are read to find where they end.

## Main definitions

* `Parse.casePattern`: a pattern
-/

namespace RecordForms.Reader.Parse

/-- Patterns with commas between them, perhaps one at the end, up to a closing bracket. -/
def patternsUpTo (p : Parse Unit) (closer : String) : Parse Unit := do
  seek true
  if !(← sees closer) then
    p
    repeated (fun () => do
      close .closer ","
      proceed .closer
      p) ()
    let _ ← takes .closer ","
  close .closer closer

/-- A number, perhaps with a sign and perhaps with an imaginary part. -/
def numberPattern (f : Follow) : Parse Unit := do
  if ← sees "-" then
    eat "-"
    seek false
  let _ ← number
  let _ ← attempt (do
    proceed f
    eat "+" <|> eat "-"
    seek false
    number)

/-- A dotted name, perhaps with patterns for the parts of a class. -/
def namePattern (inner : Follow → Parse Unit) (f : Follow) : Parse Unit := do
  let _ ← word
  repeated (fun () => do
    close f "."
    seek false
    let _ ← word) ()
  if ← takes f "(" then patternsUpTo (inner .closer) ")"

/-- The rest of a pattern after its star. -/
def starPattern : Parse Unit := do
  eat "**" <|> eat "*"
  seek false
  let _ ← word

/-- A pattern without alternatives. -/
def simplePattern (r : Rules) (inner : Follow → Parse Unit) (f : Follow) : Parse Unit := do
  match (← here).rest with
  | '(' :: _ =>
    eat "("
    patternsUpTo (inner .closer) ")"
  | '[' :: _ =>
    eat "["
    patternsUpTo (inner .closer) "]"
  | '\x7b' :: _ =>
    eat "\x7b"
    patternsUpTo (starPattern <|> (do
      inner .token
      close .token ":"
      seek false
      inner .closer)) "\x7d"
  | '*' :: _ => starPattern
  | _ => (do let _ ← strings r.interpolation f) <|> numberPattern f <|> namePattern inner f

/-- A pattern for an argument given by name. -/
def keywordPattern (r : Rules) (inner : Follow → Parse Unit) (f : Follow) : Parse Unit := do
  let _ ← word
  close f "="
  seek false
  simplePattern r inner f

/-- A pattern, for what is nested no deeper than a number. -/
def casePatternOf (r : Rules) : Nat → Follow → Parse Unit
  | 0, _ => failure
  | n + 1, f => do
    let inner := fun f c => casePatternOf r n f c
    keywordPattern r inner f <|> (do
      simplePattern r inner f
      repeated (fun () => do
        close f "|"
        seek false
        simplePattern r inner f) ())
    repeated (fun () => do
      proceed f
      keyword "as"
      seek false
      let _ ← word) ()

/-- A pattern. -/
def casePattern (r : Rules) (f : Follow) : Parse Unit := fun c =>
  casePatternOf r (c.rest.length + 1) f c

end RecordForms.Reader.Parse
