import RecordForms.Reader.Cursor
import RecordForms.Text.CharClass

/-!
# Rules of a grammar

A rule reads something at a cursor and gives back what it read with the cursor after it, or fails.
The rules of expressions need one another; they are given as functions of the rules for what stands
inside, which are put together at the end.

## Main definitions

* `Parse`: the rules, with `eat`, `word`, `keyword`, `attempt` and `seek` to build them
* `Piece`: something read, with its kind and its place
* `Level`: how tightly the operators between expressions bind
* `Rules`: the rules that others are given as functions of
-/

namespace RecordForms.Reader

/-- A rule that reads an `α`. -/
abbrev Parse (α : Type) := StateT Cursor Option α

namespace Parse

/-- The cursor. -/
def here : Parse Cursor :=
  get

/-- Goes on only if a condition holds. -/
def ensure (b : Bool) : Parse Unit :=
  if b then pure () else failure

/-- What a rule reads, if it does not fail; the cursor stays where it is if it does. -/
def attempt {α : Type} (p : Parse α) : Parse (Option α) := fun c =>
  match p c with
  | some (a, d) => some (some a, d)
  | none => some (none, c)

/-- What a rule reads, without going on. -/
def ahead {α : Type} (p : Parse α) : Parse α := fun c =>
  (p c).map fun (a, _) => (a, c)

/-- Whether the text that is left begins with `lead`. -/
def sees (lead : String) : Parse Bool := fun c =>
  some (c.sees lead, c)

/-- Takes these characters. -/
def eat (lead : String) : Parse Unit := fun c =>
  if c.sees lead then some ((), c.drop lead.length) else none

/-- Moves to the next token, between brackets that may close here or not. -/
def seek (isEnclosed : Bool) : Parse Unit := fun c =>
  (c.seek? isEnclosed).map fun d => ((), d)

/-- Moves to the next token after something that may be complete. -/
def proceed (f : Follow) : Parse Unit := fun c =>
  (c.proceed? f).map fun d => ((), d)

/-- Takes these characters after something that may be complete. -/
def close (f : Follow) (lead : String) : Parse Unit := do
  proceed f
  eat lead

/-- Whether these characters come after something that may be complete, and takes them if so. -/
def takes (f : Follow) (lead : String) : Parse Bool := do
  let r ← attempt (close f lead)
  pure r.isSome

end Parse

/-- Whether a character may begin a name. -/
def isNameStart (c : Char) : Bool :=
  c = '_' || Text.isIdentifierStart c

/-- Whether a character may stand in a name. -/
def isNamePart (c : Char) : Bool :=
  c = '_' || Text.isIdentifierContinue c

/-- The name at a place, which is empty if there is none. -/
def Cursor.nameChars (c : Cursor) : List Char :=
  match c.rest with
  | d :: _ => if isNameStart d then c.rest.takeWhile isNamePart else []
  | [] => []

/-- The name at a place. -/
def Cursor.name (c : Cursor) : String :=
  String.ofList c.nameChars

namespace Parse

/-- The name that comes next. -/
def word : Parse String := fun c =>
  if c.nameChars.isEmpty then none else some (c.name, c.drop c.nameChars.length)

/-- Takes this name. -/
def keyword (name : String) : Parse Unit := fun c =>
  if c.name = name then some ((), c.drop name.length) else none

/-- Whether this name comes after something that may be complete, and takes it if so. -/
def takesKeyword (f : Follow) (name : String) : Parse Bool := do
  let r ← attempt (do proceed f; keyword name)
  pure r.isSome

/-- One thing after another, as long as `step` does not fail, for each character of a text at
most. -/
def iterate {α : Type} (step : α → Parse α) : List Char → α → Parse α
  | [], a => pure a
  | _ :: fuel, a => do
    match ← attempt (step a) with
    | some b => iterate step fuel b
    | none => pure a

/-- One thing after another, as long as `step` does not fail.  Every step takes a character, so the
text that is left has enough of them. -/
def repeated {α : Type} (step : α → Parse α) (a : α) : Parse α := fun c =>
  iterate step c.rest a c

end Parse

/-- Something read: its kind, its beginning, and the expression that it is. -/
structure Piece where
  kind : String
  start : Cursor
  expr : Expr

namespace Parse

/-- A piece of a kind that began at `start` and is kept as its text. -/
def kept (kind : String) (start : Cursor) : Parse Piece := fun c =>
  some (⟨kind, start, .other kind (start.textTo c)⟩, c)

end Parse

/-- A joint between lines in the place of a piece. -/
def Join.piece (j : Join) : Piece :=
  ⟨kind, j.start, j.expr⟩

/-- How tightly the operators between expressions bind, loosely ones first. -/
inductive Level where
  | conditional
  | naming
  | disjunction
  | conjunction
  | negation
  deriving DecidableEq, Repr

/-- The place of a level, from loose to tight. -/
def Level.rank : Level → Nat
  | conditional => 0
  | naming => 1
  | disjunction => 2
  | conjunction => 3
  | negation => 4

/-- The rules that others are given as functions of.  All of them begin at a token. -/
structure Rules where
  /-- An expression with operators that bind at least as tightly as a level. -/
  expression : Level → Follow → Parse Piece
  /-- An operand with operators between numbers that bind at least as tightly as a number says. -/
  operand : Nat → Follow → Parse Piece
  /-- An operand with at most signs before it. -/
  signed : Follow → Parse Piece
  /-- Something that can be assigned to. -/
  target : Follow → Parse Piece
  /-- A type, which a colon and another type may follow or not. -/
  type : Bool → Follow → Parse Piece
  /-- An expression inside a formatted literal, after its brace. -/
  interpolation : Parse Unit

instance : Inhabited Rules :=
  ⟨⟨fun _ _ => failure, fun _ _ => failure, fun _ => failure, fun _ => failure,
    fun _ _ => failure, failure⟩⟩

end RecordForms.Reader
