import RecordForms.Reader.Grammar
import RecordForms.Value.Reader

/-!
# Numbers in a source file

## Main definitions

* `Parse.digits`: digits with single underscores after them
* `Parse.number`: a whole number or a float
-/

namespace RecordForms.Reader

/-- The number of characters of digits, where one underscore may follow each run of them.  The last
character was a digit if `wasDigit`. -/
def digitsLength (wasDigit : Bool) : List Char → Nat
  | [] => 0
  | c :: cs =>
    if c.isDigit then digitsLength true cs + 1
    else if c = '_' && wasDigit then digitsLength false cs + 1
    else 0

/-- The number of characters of digits in a base, where one underscore may stand before each run of
them. -/
def groupedLength (isDigit : Char → Bool) : List Char → Nat
  | '_' :: c :: cs => if isDigit c then groupedLength isDigit cs + 2 else 0
  | c :: cs => if isDigit c then groupedLength isDigit cs + 1 else 0
  | [] => 0

namespace Parse

/-- Takes `n` characters, of which there has to be one. -/
def some? (n : Nat) : Parse Unit := fun c =>
  if n = 0 then none else some ((), c.drop n)

/-- Digits with single underscores after them. -/
def digits : Parse Unit := fun c =>
  some? (digitsLength false c.rest) c

/-- One of these characters. -/
def anyOf (cs : List Char) : Parse Unit := fun c =>
  match c.rest with
  | d :: _ => if cs.contains d then some ((), c.step) else none
  | [] => none

/-- An exponent. -/
def exponent : Parse Unit := do
  anyOf ['e', 'E']
  let _ ← attempt (anyOf ['+', '-'])
  digits

/-- Digits in a base after a zero and a letter. -/
def based (letters : List Char) (isDigit : Char → Bool) : Parse Unit := do
  eat "0"
  anyOf letters
  let c ← here
  some? (groupedLength isDigit c.rest)
  let _ ← attempt (anyOf ['l', 'L'])

/-- A float: a point, an exponent, or both. -/
def float : Parse Unit := do
  let whole ← attempt digits
  if ← sees "." then
    eat "."
    let fraction ← attempt digits
    ensure (whole.isSome || fraction.isSome)
    let _ ← attempt exponent
  else
    ensure whole.isSome
    exponent
  let _ ← attempt (anyOf ['j', 'J'])

/-- A whole number in base ten. -/
def decimal : Parse Unit := do
  digits
  let _ ← attempt (anyOf ['l', 'L', 'j', 'J'])

/-- A whole number. -/
def integer : Parse Unit :=
  based ['x', 'X'] Text.isHex <|> based ['o', 'O'] Text.isOctal <|>
    based ['b', 'B'] Text.isBinary <|> decimal

/-- A literal whose value is read from its text, or which is kept as its text. -/
def literal (kind : String) (start : Cursor) (read : List Char → Option Value) : Parse Piece :=
  fun c =>
    match read (start.charsTo c) with
    | some v => some (⟨kind, start, .constant v⟩, c)
    | none => kept kind start c

/-- A number. -/
def number : Parse Piece := do
  let start ← here
  match ← attempt float with
  | some () => literal "float" start Value.readFloat?
  | none =>
    integer
    literal "integer" start Value.readInt?

end Parse

end RecordForms.Reader
