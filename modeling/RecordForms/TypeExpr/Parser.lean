import RecordForms.Number.Digits
import RecordForms.TypeExpr.Basic

/-!
# Reading a type expression

A reader of the types that stand in quoted annotations: dotted names, subscripts, alternatives,
`None`, and values in the subscript of a literal type.  Blanks may stand before every token, and a
comma may follow the last argument.

Each function takes the text that is left and gives back what it read and the text after it; an
error carries the text that was left where it arose, so every position is a cut of the text itself.

## Main definitions

* `TypeExpr.Malformed`: the error, with its place as a number of bytes
* `TypeExpr.dotted`: the dotted name at the beginning of a text
* `TypeExpr.literalItem`: the value at the beginning of a text
* `TypeExpr.parse`: the type that a whole text spells
-/

namespace RecordForms.TypeExpr

open RecordForms.Text

/-- What a reader of types can miss. -/
inductive Fault where
  | trailing
  | closing
  | name
  | string
  | literal
  deriving DecidableEq, Repr

/-- The fault in words. -/
def Fault.message : Fault → String
  | trailing => "unexpected trailing input"
  | closing => "expected `]`"
  | name => "expected a name"
  | string => "unterminated string"
  | literal => "expected a literal"

/-- A text that spells no type: where it goes wrong, in bytes from its beginning, and how. -/
structure Malformed where
  offset : Nat
  fault : Fault
  deriving DecidableEq, Repr

/-- A fault and the text that was left when it arose. -/
structure Stop where
  fault : Fault
  rest : List Char
  deriving DecidableEq, Repr

/-- The text after the character `c`, if it comes next after blanks. -/
def eat? (c : Char) (cs : List Char) : Option (List Char) :=
  match trimStart cs with
  | d :: rest => if d = c then some rest else none
  | [] => none

/-- Whether `]` comes next after blanks. -/
def atClose (cs : List Char) : Bool :=
  (eat? ']' cs).isSome

/-- The longest run of characters of a dotted name.  At the beginning of a segment stands a letter
or an underscore, in segments after the first also a digit; `first` says that nothing has been
read. -/
def dottedRun (first segment : Bool) : List Char → List Char × List Char
  | [] => ([], [])
  | c :: cs =>
    let fits :=
      if segment then isAlphabetic c || c == '_' || (!first && isAlphanumeric c)
      else isAlphanumeric c || c == '_' || c == '.'
    if fits then
      let (run, rest) := dottedRun false (c == '.') cs
      (c :: run, rest)
    else ([], c :: cs)

/-- The dotted name at the beginning of a text; it does not end with a dot. -/
def dotted (cs : List Char) : Except Stop (List Char × List Char) :=
  let (run, rest) := dottedRun true true cs
  if run.isEmpty || run.getLast? == some '.' then .error ⟨.name, cs⟩ else .ok (run, rest)

/-- A character of a literal argument without quotes. -/
def isLiteralChar (c : Char) : Bool :=
  isAlphanumeric c || c == '-' || c == '.' || c == '_'

/-- The value of a literal argument without quotes: a constant, a number, or else a name. -/
def literalWord (word : List Char) : Value :=
  if word = "True".toList then .bool true
  else if word = "False".toList then .bool false
  else if word = "None".toList then .none
  else match Number.int64OfDecimal? word with
    | some n => .int n
    | none => .symbol (String.ofList word)

/-- The literal argument at the beginning of a text, after blanks: quoted, where nothing is escaped,
or a word. -/
def literalItem (cs : List Char) : Except Stop (Value × List Char) :=
  let cs := trimStart cs
  match cs with
  | [] => .error ⟨.literal, cs⟩
  | c :: body =>
    if c = '\x27' || c = '"' then
      match cut c body with
      | some (s, rest) => .ok (.str (String.ofList s), rest)
      | none => .error ⟨.string, cs⟩
    else
      let word := cs.takeWhile isLiteralChar
      if word.isEmpty then .error ⟨.literal, cs⟩
      else .ok (literalWord word, cs.dropWhile isLiteralChar)

/-- The text after `]`, if it comes next after blanks. -/
def expectClose (cs : List Char) : Except Stop (List Char) :=
  match eat? ']' cs with
  | some rest => .ok rest
  | none => .error ⟨.closing, trimStart cs⟩

/-- The literal arguments after the first, up to the closing bracket. -/
def literalItems : Nat → List Value → List Char → Except Stop (List Value × List Char)
  | 0, _, cs => .error ⟨.closing, cs⟩
  | fuel + 1, acc, cs =>
    match eat? ',' cs with
    | some rest =>
      if atClose rest then do
        let rest ← expectClose rest
        .ok (acc.reverse, rest)
      else do
        let (v, rest) ← literalItem rest
        literalItems fuel (v :: acc) rest
    | none => do
      let rest ← expectClose cs
      .ok (acc.reverse, rest)

/-- A list of alternatives as a type: one alternative is itself. -/
def ofMembers : List TypeExpr → TypeExpr
  | [t] => t
  | ts => union ts

mutual

/-- The alternatives at the beginning of a text. -/
def alternatives : Nat → List Char → Except Stop (TypeExpr × List Char)
  | 0, cs => .error ⟨.name, cs⟩
  | fuel + 1, cs => do
    let (t, cs) ← primary fuel cs
    let (ts, cs) ← moreAlternatives fuel [t] cs
    .ok (ofMembers ts, cs)

/-- The alternatives after the first. -/
def moreAlternatives : Nat → List TypeExpr → List Char → Except Stop (List TypeExpr × List Char)
  | 0, _, cs => .error ⟨.name, cs⟩
  | fuel + 1, acc, cs =>
    match eat? '|' cs with
    | some cs => do
      let (t, cs) ← primary fuel cs
      moreAlternatives fuel (t :: acc) cs
    | none => .ok (acc.reverse, trimStart cs)

/-- A name, subscripted or not, or `None`, at the beginning of a text after blanks. -/
def primary : Nat → List Char → Except Stop (TypeExpr × List Char)
  | 0, cs => .error ⟨.name, cs⟩
  | fuel + 1, cs => do
    let (path, cs) ← dotted (trimStart cs)
    if path = "None".toList then .ok (noneType, cs)
    else
      let path := String.ofList path
      match eat? '[' cs with
      | none => .ok (name path, trimStart cs)
      | some cs =>
        if isLiteralOrigin path then do
          let (v, cs) ← literalItem cs
          let (vs, cs) ← literalItems fuel [v] cs
          .ok (literal path vs, cs)
        else do
          let (t, cs) ← alternatives fuel cs
          let (ts, cs) ← moreArguments fuel [t] cs
          .ok (generic path ts, cs)

/-- The arguments after the first, up to the closing bracket. -/
def moreArguments : Nat → List TypeExpr → List Char → Except Stop (List TypeExpr × List Char)
  | 0, _, cs => .error ⟨.closing, cs⟩
  | fuel + 1, acc, cs =>
    match eat? ',' cs with
    | some cs =>
      if atClose cs then do
        let cs ← expectClose cs
        .ok (acc.reverse, cs)
      else do
        let (t, cs) ← alternatives fuel cs
        moreArguments fuel (t :: acc) cs
    | none => do
      let cs ← expectClose cs
      .ok (acc.reverse, cs)

end

/-- The type that a whole text spells, or where reading it stops.  Every call takes a character or
goes one level down a fixed chain, so three levels for a character are enough. -/
def parseChars (cs : List Char) : Except Stop TypeExpr := do
  let (t, rest) ← alternatives (3 * cs.length + 3) cs
  match trimStart rest with
  | [] => .ok t
  | rest => .error ⟨.trailing, rest⟩

/-- The type that a text spells. -/
def parse (s : String) : Except Malformed TypeExpr :=
  match parseChars s.toList with
  | .ok t => .ok t
  | .error stop => .error ⟨byteLength s.toList - byteLength stop.rest, stop.fault⟩

end RecordForms.TypeExpr
