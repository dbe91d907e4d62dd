import RecordForms.Json.Numeral

/-!
# Reading JSON

Each function takes the text that is left and gives back what it read and the text after it.

## Main definitions

* `Json.string?`: the text whose literal comes next
* `Json.numeral?`: the number that comes next
* `Json.value?`: the value that comes next
* `Json.isBlank`: blanks between tokens
-/

namespace RecordForms.Json

/-- The blanks that may stand between tokens. -/
def isBlank (c : Char) : Bool :=
  c = ' ' || c = '\n' || c = '\t' || c = '\r'

/-- The text without the blanks at its beginning. -/
def skipBlanks (cs : List Char) : List Char :=
  cs.dropWhile isBlank

/-- A unit of a text literal: a character, or an escape that is half of a surrogate pair. -/
inductive TextUnit where
  | char (c : Char)
  | high (code : Nat)
  | low (code : Nat)
  deriving DecidableEq, Repr

/-- The unit that an escape by number denotes. -/
def TextUnit.ofCode (code : Nat) : TextUnit :=
  if 0xd800 ≤ code && code < 0xdc00 then high code
  else if 0xdc00 ≤ code && code < 0xe000 then low code
  else char (Char.ofNat code)

/-- The text of units, if the halves of surrogate pairs in it are all paired. -/
def joinUnits? : List TextUnit → Option (List Char)
  | [] => some []
  | .char c :: us => (joinUnits? us).map (c :: ·)
  | .high h :: .low l :: us =>
    (joinUnits? us).map (Char.ofNat (0x10000 + (h - 0xd800) * 0x400 + (l - 0xdc00)) :: ·)
  | _ => none

/-- The character of an escape by letter. -/
def escape? : Char → Option Char
  | '"' => some '"'
  | '\\' => some '\\'
  | '/' => some '/'
  | 'b' => some '\x08'
  | 'f' => some '\x0c'
  | 'n' => some '\n'
  | 'r' => some '\r'
  | 't' => some '\t'
  | _ => none

/-- The units before the quote that ends a text literal, and the text after it. -/
def units? : List Char → Option (List TextUnit × List Char)
  | '"' :: rest => some ([], rest)
  | '\\' :: 'u' :: a :: b :: c :: d :: rest => do
    let code ← Number.ofDigits? 16 [a, b, c, d]
    let (us, rest) ← units? rest
    some (.ofCode code :: us, rest)
  | '\\' :: e :: rest => do
    let c ← escape? e
    let (us, rest) ← units? rest
    some (.char c :: us, rest)
  | c :: rest =>
    if c = '\\' || c < ' ' then none
    else do
      let (us, rest) ← units? rest
      some (.char c :: us, rest)
  | [] => none

/-- The text whose literal comes next after its first quote; nothing stands for one that has no
value. -/
def string? (cs : List Char) : Option (Option String × List Char) :=
  (units? cs).map fun (us, rest) => ((joinUnits? us).map String.ofList, rest)

/-- The digits that come next, of which there has to be one. -/
def digits? (cs : List Char) : Option (List Nat × List Char) :=
  let ds := cs.takeWhile Char.isDigit
  if ds.isEmpty then none
  else some (ds.filterMap Number.digitValue?, cs.dropWhile Char.isDigit)

/-- The digits before the point: a single zero, or digits of which the first is none. -/
def whole? (cs : List Char) : Option (List Nat × List Char) :=
  match digits? cs with
  | some (0 :: _ :: _, _) => none
  | r => r

/-- The digits after the point, if a point comes next. -/
def fraction? : List Char → Option (List Nat × List Char)
  | '.' :: cs => digits? cs
  | cs => some ([], cs)

/-- The number that decimal digits denote. -/
def ofDigits (ds : List Nat) : Nat :=
  ds.foldl (fun n d => n * 10 + d) 0

/-- The exponent after its letter. -/
def signedExponent? : List Char → Option (Int × List Char)
  | '-' :: cs => (digits? cs).map fun (ds, rest) => (-(ofDigits ds : Int), rest)
  | '+' :: cs => (digits? cs).map fun (ds, rest) => ((ofDigits ds : Int), rest)
  | cs => (digits? cs).map fun (ds, rest) => ((ofDigits ds : Int), rest)

/-- The exponent, if its letter comes next. -/
def exponent? : List Char → Option (Option Int × List Char)
  | 'e' :: cs => (signedExponent? cs).map fun (e, rest) => (some e, rest)
  | 'E' :: cs => (signedExponent? cs).map fun (e, rest) => (some e, rest)
  | cs => some (none, cs)

/-- The number after its sign. -/
def unsigned? (negative : Bool) (cs : List Char) : Option (Numeral × List Char) := do
  let (whole, cs) ← whole? cs
  let (fraction, cs) ← fraction? cs
  let (exponent, cs) ← exponent? cs
  some (⟨negative, whole, fraction, exponent⟩, cs)

/-- The number that comes next. -/
def numeral? : List Char → Option (Numeral × List Char)
  | '-' :: cs => unsigned? true cs
  | cs => unsigned? false cs

/-- An object of these entries; with a key that has no value it has none itself. -/
def ofEntries (entries : List (Option String × Json)) : Json :=
  match entries.mapM fun (key, j) => key.map fun key => (key, j) with
  | some entries => obj entries
  | none => unreadable

mutual

/-- The value that comes next after blanks. -/
def valueWith? : Nat → List Char → Option (Json × List Char)
  | 0, _ => none
  | fuel + 1, cs =>
    match skipBlanks cs with
    | 'n' :: 'u' :: 'l' :: 'l' :: rest => some (null, rest)
    | 't' :: 'r' :: 'u' :: 'e' :: rest => some (bool true, rest)
    | 'f' :: 'a' :: 'l' :: 's' :: 'e' :: rest => some (bool false, rest)
    | '"' :: rest => (string? rest).map fun (s, rest) =>
      (match s with | some s => str s | none => unreadable, rest)
    | '[' :: rest =>
      match skipBlanks rest with
      | ']' :: rest => some (arr [], rest)
      | rest => (itemsWith? fuel rest).map fun (items, rest) => (arr items, rest)
    | '\x7b' :: rest =>
      match skipBlanks rest with
      | '\x7d' :: rest => some (obj [], rest)
      | rest => (entriesWith? fuel rest).map fun (entries, rest) => (ofEntries entries, rest)
    | rest => (numeral? rest).map fun (n, rest) => (n.value, rest)

/-- The items that come next, up to the bracket that closes them. -/
def itemsWith? : Nat → List Char → Option (List Json × List Char)
  | 0, _ => none
  | fuel + 1, cs => do
    let (j, rest) ← valueWith? fuel cs
    match skipBlanks rest with
    | ']' :: rest => some ([j], rest)
    | ',' :: rest =>
      let (js, rest) ← itemsWith? fuel rest
      some (j :: js, rest)
    | _ => none

/-- The entries that come next, up to the brace that closes them. -/
def entriesWith? : Nat → List Char → Option (List (Option String × Json) × List Char)
  | 0, _ => none
  | fuel + 1, cs =>
    match skipBlanks cs with
    | '"' :: rest => do
      let (key, rest) ← string? rest
      match skipBlanks rest with
      | ':' :: rest =>
        let (j, rest) ← valueWith? fuel rest
        match skipBlanks rest with
        | '\x7d' :: rest => some ([(key, j)], rest)
        | ',' :: rest =>
          let (entries, rest) ← entriesWith? fuel rest
          some ((key, j) :: entries, rest)
        | _ => none
      | _ => none
    | _ => none

end

/-- The value that comes next after blanks.  Every step but the last takes a character, so there are
no more steps than twice the characters. -/
def value? (cs : List Char) : Option (Json × List Char) :=
  valueWith? (2 * cs.length + 1) cs

end RecordForms.Json
