import RecordForms.Text.Alphabetic
import RecordForms.Text.Numeric
import RecordForms.Text.IdentifierStart
import RecordForms.Text.IdentifierContinue

/-!
# Character classes

The classes of characters that names, blanks and numbers are made of.  Below code point 128 each
class is decided by a short rule, so that statements about delimiters never open a table.

## Main definitions

* `isAlphabetic`, `isAlphanumeric`: the letters, and the letters and numbers, of any script
* `isBlank`: the white space of any script
* `isIdentifierStart`, `isIdentifierContinue`: what an identifier begins and goes on with
-/

namespace RecordForms.Text

/-- Whether the code point of `c` lies in one of the closed ranges. -/
def inRanges (ranges : Array (Nat × Nat)) (c : Char) : Bool :=
  ranges.any fun (lo, hi) => lo ≤ c.toNat && c.toNat ≤ hi

/-- The letters of any script. -/
def isAlphabetic (c : Char) : Bool :=
  if c.toNat < 128 then c.isAlpha else inRanges alphabeticRanges c

/-- The digits and other numbers of any script. -/
def isNumeric (c : Char) : Bool :=
  if c.toNat < 128 then c.isDigit else inRanges numericRanges c

/-- The letters and numbers of any script. -/
def isAlphanumeric (c : Char) : Bool :=
  isAlphabetic c || isNumeric c

/-- The characters with the property `White_Space`. -/
def isBlank (c : Char) : Bool :=
  let n := c.toNat
  (9 ≤ n && n ≤ 13) || n == 0x20 || n == 0x85 || n == 0xa0 || n == 0x1680 ||
    (0x2000 ≤ n && n ≤ 0x200a) || n == 0x2028 || n == 0x2029 || n == 0x202f || n == 0x205f ||
    n == 0x3000

/-- What an identifier begins with: a letter-like character or an underscore. -/
def isIdentifierStart (c : Char) : Bool :=
  c == '_' || (if c.toNat < 128 then c.isAlpha else inRanges identifierStartRanges c)

/-- What an identifier goes on with: a letter-like character, a digit or an underscore. -/
def isIdentifierContinue (c : Char) : Bool :=
  c == '_' || (if c.toNat < 128 then c.isAlphanum else inRanges identifierContinueRanges c)

/-- A digit of an octal number. -/
def isOctal (c : Char) : Bool :=
  '0' ≤ c && c ≤ '7'

/-- A digit of a binary number. -/
def isBinary (c : Char) : Bool :=
  c == '0' || c == '1'

/-- A digit of a hexadecimal number, in either case. -/
def isHex (c : Char) : Bool :=
  c.isDigit || ('a' ≤ c && c ≤ 'f') || ('A' ≤ c && c ≤ 'F')

end RecordForms.Text
