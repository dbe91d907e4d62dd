import RecordForms.Number.Shortest
import RecordForms.Text.Pieces
import RecordForms.Value.Basic

/-!
# The text of a value

Values as Python expressions.

## Main definitions

* `Value.quoted s`: the literal of a text, in single quotes unless it holds one and no double quote
* `Value.quotedBytes bs`: the literal of a byte string
* `Value.floatText x`: the literal of a float
* `Value.chars v`, `Value.text v`: the expression of any value
-/

namespace RecordForms.Value

/-- The quote of a text's literal: single, unless the text holds a single quote and no double
one. -/
def quoteOf (s : List Char) : Char :=
  if s.contains '\x27' && !s.contains '"' then '"' else '\x27'

/-- A character inside a literal with the given quote. -/
def escaped (quote c : Char) : List Char :=
  if c = '\\' then ['\\', '\\']
  else if c = '\n' then ['\\', 'n']
  else if c = '\r' then ['\\', 'r']
  else if c = '\t' then ['\\', 't']
  else if c = quote then ['\\', c]
  else [c]

/-- The literal of a text. -/
def quoted (s : List Char) : List Char :=
  let quote := quoteOf s
  quote :: s.flatMap (escaped quote) ++ [quote]

/-- A byte inside a literal: printable ones as characters, others by number. -/
def escapedByte (b : UInt8) : List Char :=
  if b = 0x5c then ['\\', '\\']
  else if b = 0x27 then ['\\', '\x27']
  else if b = 0x0a then ['\\', 'n']
  else if 0x20 ≤ b && b ≤ 0x7e then [Char.ofNat b.toNat]
  else '\\' :: 'x' :: Number.hexPair b.toNat

/-- The literal of a byte string. -/
def quotedBytes (bs : List UInt8) : List Char :=
  'b' :: '\x27' :: bs.flatMap escapedByte ++ ['\x27']

/-- The text of a float: what is no finite number by a call, whole numbers below `10 ^ 16` with
`.0`, all else as its shortest digits with the point in its place; of two such numbers at the same
distance it is the greater. -/
def floatText (x : Double) : List Char :=
  let sign := if x.isNegative then ['-'] else []
  if x.isNaN then "float('nan')".toList
  else if x.isInfinite then sign ++ "float('inf')".toList
  else match x.wholePart? with
    | some n => if n < Nat.pow 10 16 then sign ++ Number.decimal n ++ ".0".toList
      else sign ++ (x.shortest .up).positional
    | .none => sign ++ (x.shortest .up).positional

/-- Texts with a comma and a blank between them. -/
def commaSeparated (texts : List (List Char)) : List Char :=
  List.intercalate ", ".toList texts

mutual

/-- The expression of a value. -/
def chars : Value → List Char
  | none => "None".toList
  | bool true => "True".toList
  | bool false => "False".toList
  | int n => Number.decimalInt n.toInt
  | float x => floatText x
  | str s => quoted s.toList
  | bytes bs => quotedBytes bs
  | ellipsis => "...".toList
  | tuple items =>
    '(' :: commaSeparated (itemChars items) ++ (if items.length = 1 then ",)".toList else [')'])
  | list items => '[' :: commaSeparated (itemChars items) ++ [']']
  | dict pairs => '{' :: commaSeparated (pairChars pairs) ++ ['}']
  | set [] => "set()".toList
  | set (item :: items) => '{' :: commaSeparated (itemChars (item :: items)) ++ ['}']
  | frozenSet [] => "frozenset()".toList
  | frozenSet (item :: items) =>
    "frozenset(".toList ++ '{' :: commaSeparated (itemChars (item :: items)) ++ ['}', ')']
  | symbol path => path.toList

/-- The expressions of a container's items. -/
def itemChars : List Value → List (List Char)
  | [] => []
  | v :: vs => chars v :: itemChars vs

/-- The entries of a dict. -/
def pairChars : List (Value × Value) → List (List Char)
  | [] => []
  | (k, v) :: rest => (chars k ++ ": ".toList ++ chars v) :: pairChars rest

end

/-- The expression of a value. -/
def text (v : Value) : String :=
  String.ofList v.chars

@[simp] theorem chars_none : chars none = "None".toList := rfl

@[simp] theorem chars_true : chars (bool true) = "True".toList := rfl

@[simp] theorem chars_false : chars (bool false) = "False".toList := rfl

@[simp] theorem chars_int (n : Int64) : chars (int n) = Number.decimalInt n.toInt := rfl

@[simp] theorem chars_float (x : Double) : chars (float x) = floatText x := rfl

@[simp] theorem chars_str (s : String) : chars (str s) = quoted s.toList := rfl

@[simp] theorem chars_symbol (path : String) : chars (symbol path) = path.toList := rfl

theorem chars_tuple (items : List Value) : chars (tuple items) =
    '(' :: commaSeparated (itemChars items) ++
      (if items.length = 1 then ",)".toList else [')']) := rfl

theorem chars_list (items : List Value) :
    chars (list items) = '[' :: commaSeparated (itemChars items) ++ [']'] := rfl

theorem chars_dict (pairs : List (Value × Value)) :
    chars (dict pairs) = '{' :: commaSeparated (pairChars pairs) ++ ['}'] := rfl

theorem chars_set_cons (item : Value) (items : List Value) :
    chars (set (item :: items)) = '{' :: commaSeparated (itemChars (item :: items)) ++ ['}'] := rfl

theorem chars_frozenSet_cons (item : Value) (items : List Value) :
    chars (frozenSet (item :: items)) =
      "frozenset(".toList ++ '{' :: commaSeparated (itemChars (item :: items)) ++ ['}', ')'] := rfl

theorem itemChars_eq_map (vs : List Value) : itemChars vs = vs.map chars := by
  induction vs with
  | nil => rfl
  | cons v vs ih => simp [itemChars, ih]

theorem pairChars_eq_map (ps : List (Value × Value)) :
    pairChars ps = ps.map fun p => p.1.chars ++ ": ".toList ++ p.2.chars := by
  induction ps with
  | nil => rfl
  | cons p ps ih => simp [pairChars, ih]

end RecordForms.Value
