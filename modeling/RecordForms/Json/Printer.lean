import RecordForms.Json.Basic
import RecordForms.Number.Shortest

/-!
# Writing JSON

Values as JSON without blanks.

## Main definitions

* `Json.quoted`: the literal of a text
* `Json.floatChars`: a finite float
* `Json.chars`, `Json.text`: any value
-/

namespace RecordForms.Json

/-- A character inside a text literal. -/
def escaped (c : Char) : List Char :=
  if c = '"' then ['\\', '"']
  else if c = '\\' then ['\\', '\\']
  else if c = '\x08' then ['\\', 'b']
  else if c = '\x0c' then ['\\', 'f']
  else if c = '\n' then ['\\', 'n']
  else if c = '\r' then ['\\', 'r']
  else if c = '\t' then ['\\', 't']
  else if c < ' ' then '\\' :: 'u' :: '0' :: '0' :: Number.hexPair c.toNat
  else [c]

/-- The literal of a text. -/
def quoted (s : String) : List Char :=
  '"' :: s.toList.flatMap escaped ++ ['"']

/-- A float by its shortest digits, of two such numbers at the same distance the one with an even
last digit; one that is not finite cannot be written and is null. -/
def floatChars (x : Double) : List Char :=
  if x.isFinite then
    (if x.isNegative then ['-'] else []) ++
      (if x.isZero then "0.0".toList else (x.shortest .even).scientific)
  else "null".toList

/-- Texts with commas between them. -/
def joined (pieces : List (List Char)) : List Char :=
  List.intercalate [','] pieces

mutual

/-- A value as JSON.  What has no value is written as null. -/
def chars : Json → List Char
  | null | unreadable => "null".toList
  | bool true => "true".toList
  | bool false => "false".toList
  | int n => Number.decimalInt n
  | float x => floatChars x
  | str s => quoted s
  | arr items => '[' :: joined (itemChars items) ++ [']']
  | obj entries => '\x7b' :: joined (entryChars entries) ++ ['\x7d']

/-- The items of an array as JSON. -/
def itemChars : List Json → List (List Char)
  | [] => []
  | j :: js => chars j :: itemChars js

/-- The entries of an object as JSON. -/
def entryChars : List (String × Json) → List (List Char)
  | [] => []
  | (key, j) :: rest => (quoted key ++ ':' :: chars j) :: entryChars rest

end

/-- A value as JSON. -/
def text (j : Json) : String :=
  String.ofList j.chars

end RecordForms.Json
