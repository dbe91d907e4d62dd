import RecordForms.Number.Rounding
import RecordForms.Text.Pieces
import RecordForms.Value.Basic

/-!
# Reading literals

The value of one literal of a program text: numbers, texts and byte strings.

## Main definitions

* `Value.readInt? cs`: whole numbers in base ten, sixteen, eight or two, in 64 bits
* `Value.readFloat? cs`: decimal numbers, but no imaginary ones
* `Value.readString? cs`: texts and byte strings with any quotes, raw or with escapes
* `Value.join? parts`: adjacent literals of one kind as one literal
-/

namespace RecordForms.Value

/-- A number's spelling without the underscores that group its digits. -/
def ungrouped (cs : List Char) : List Char :=
  cs.filter (· ≠ '_')

/-- A whole number that fits in 64 bits: digits in base ten, or a zero and a letter that names the
base before them. -/
def readInt? (cs : List Char) : Option Value :=
  let n := match (ungrouped cs).map Char.toLower with
    | '0' :: 'x' :: ds => Number.ofDigits? 16 ds
    | '0' :: 'o' :: ds => Number.ofDigits? 8 ds
    | '0' :: 'b' :: ds => Number.ofDigits? 2 ds
    | ds => Number.ofDigits? 10 ds
  (n.bind fun n => Number.int64? n).map int

/-- A decimal number; one that ends with `j` is imaginary and has no value here. -/
def readFloat? (cs : List Char) : Option Value :=
  match cs.getLast? with
  | some 'j' | some 'J' => .none
  | _ => (Double.read? (ungrouped cs)).map float

/-- The number that `width` hexadecimal digits spell; a plus may stand for the first digit. -/
def hexEscape? (width : Nat) (cs : List Char) : Option Nat :=
  if (cs.take width).length = width then Number.ofSignedDigits? 16 (cs.take width) else .none

/-- What an escape stands for, and the number of characters after the backslash that it takes.  An
escape that none of the rules knows stands for itself. -/
def escape? (bytes : Bool) (cs : List Char) : Option (List Nat × Nat) :=
  match cs with
  | [] => .none
  | c :: cs =>
    if c = '\n' then some ([], 1)
    else if c = '\\' || c = '\x27' || c = '"' then some ([c.toNat], 1)
    else if c = 'n' then some ([0x0a], 1)
    else if c = 't' then some ([0x09], 1)
    else if c = 'r' then some ([0x0d], 1)
    else if c = 'a' then some ([0x07], 1)
    else if c = 'b' then some ([0x08], 1)
    else if c = 'f' then some ([0x0c], 1)
    else if c = 'v' then some ([0x0b], 1)
    else if Text.isOctal c then
      let ds := c :: (cs.take 2).takeWhile Text.isOctal
      (Number.ofDigits? 8 ds).map fun n => ([n], ds.length)
    else if c = 'x' then (hexEscape? 2 cs).map fun n => ([n], 3)
    else if c = 'u' && !bytes then (hexEscape? 4 cs).map fun n => ([n], 5)
    else if c = 'U' && !bytes then (hexEscape? 8 cs).map fun n => ([n], 9)
    else if c = 'N' && !bytes then .none
    else some (['\\'.toNat, c.toNat], 1)

/-- The code points, or bytes, of a literal's body, where `skip` characters belong to the escape
before. -/
def unescape (bytes : Bool) : Nat → List Char → Option (List Nat)
  | _, [] => some []
  | skip + 1, _ :: cs => unescape bytes skip cs
  | 0, c :: cs =>
    if c = '\\' then
      match escape? bytes cs with
      | some (units, used) => (unescape bytes used cs).map (units ++ ·)
      | .none => .none
    else (unescape bytes 0 cs).map (c.toNat :: ·)

/-- The character with a code point, if it has one. -/
def charOf? (n : Nat) : Option Char :=
  if n < 0xd800 || (0xdfff < n && n < 0x110000) then some (Char.ofNat n) else .none

/-- The byte with a number, if it has one. -/
def byteOf? (n : Nat) : Option UInt8 :=
  if n < 256 then some (UInt8.ofNat n) else .none

/-- The quotes around a literal: three or one. -/
def delimiterOf (cs : List Char) : List Char :=
  match cs with
  | '"' :: '"' :: '"' :: _ => ['"', '"', '"']
  | '\x27' :: '\x27' :: '\x27' :: _ => ['\x27', '\x27', '\x27']
  | c :: _ => [c]
  | [] => []

/-- Whether a character is one of the two quotes. -/
def isQuote (c : Char) : Bool :=
  c == '\x27' || c == '"'

/-- A text or a byte string from its literal: letters that name the kind, quotes and what stands
between them.  A formatted literal has no value. -/
def readString? (cs : List Char) : Option Value :=
  let kind := (cs.takeWhile (!isQuote ·)).map Char.toLower
  let literal := cs.dropWhile (!isQuote ·)
  let delimiter := delimiterOf literal
  if literal.isEmpty || kind.contains 'f' || kind.contains 't' then .none
  else
    match (Text.after? delimiter literal).bind (Text.before? delimiter) with
    | .none => .none
    | some body =>
      let bytes := kind.contains 'b'
      let units := if kind.contains 'r' then some (body.map Char.toNat) else unescape bytes 0 body
      match units with
      | .none => .none
      | some units =>
        if bytes then (units.mapM byteOf?).map Value.bytes
        else (units.mapM charOf?).map fun cs => str (String.ofList cs)

/-- Two adjacent literals as one; a text and a byte string do not join. -/
def joinTwo? : Value → Value → Option Value
  | str a, str b => some (str (a ++ b))
  | bytes a, bytes b => some (bytes (a ++ b))
  | _, _ => .none

/-- Adjacent literals as one. -/
def join? : List Value → Option Value
  | [] => .none
  | v :: vs => vs.foldlM joinTwo? v

end RecordForms.Value
