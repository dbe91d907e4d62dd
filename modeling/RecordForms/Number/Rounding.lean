import RecordForms.Number.Digits
import RecordForms.Number.Double

/-!
# Rounding to doubles

The double nearest to a fraction, a tie going to the even significand.  All of it is exact
arithmetic on natural numbers.

## Main definitions

* `roundHalfEven num den`: the whole number nearest to `num / den`
* `Double.ofRatio negative num den`: the double nearest to `± num / den`
* `Double.ofDecimal negative digits exponent`: the double nearest to `± digits * 10 ^ exponent`
* `Double.read? cs`: the double nearest to the decimal number that `cs` spells
-/

namespace RecordForms

/-- The whole number nearest to `num / den`; of two, the even one. -/
def roundHalfEven (num den : Nat) : Nat :=
  let q := num / den
  let r := num % den
  if 2 * r < den then q
  else if den < 2 * r then q + 1
  else if q % 2 == 0 then q
  else q + 1

namespace Double

/-- A fraction divided by a power of two. -/
def shiftRatio (num den : Nat) (e : Int) : Nat × Nat :=
  if 0 ≤ e then (num, den <<< e.toNat) else (num <<< (-e).toNat, den)

/-- The power of two that makes the fraction a significand of fifty-three bits, or the least power
there is. -/
def binaryExponent (num den : Nat) : Int :=
  let e : Int := (num.log2 : Int) - den.log2 - 52
  let (n, d) := shiftRatio num den e
  max (if n / d < hiddenBit then e - 1 else e) (-1074)

/-- The double nearest to a fraction with a sign; beyond the greatest one it is infinite. -/
def ofRatio (negative : Bool) (num den : Nat) : Double :=
  if num == 0 then ofMagnitude negative 0
  else
    let e := binaryExponent num den
    let (n, d) := shiftRatio num den e
    ofMagnitude negative (min ((e + 1074).toNat * hiddenBit + roundHalfEven n d) infinityBits)

/-- The double nearest to `digits * 10 ^ exponent` with a sign.  A number with its first digit far
outside the range is infinite or zero without being computed. -/
def ofDecimal (negative : Bool) (digits : Nat) (exponent : Int) : Double :=
  let place := exponent + (Number.decimal digits).length
  if digits == 0 || place < -330 then ofMagnitude negative 0
  else if 310 < place then ofMagnitude negative infinityBits
  else if 0 ≤ exponent then ofRatio negative (digits * Nat.pow 10 exponent.toNat) 1
  else ofRatio negative digits (Nat.pow 10 (-exponent).toNat)

/-- The product of two finite numbers, rounded. -/
def times (x y : Double) : Double :=
  ofRatio (x.isNegative != y.isNegative) (x.ratio.1 * y.ratio.1) (x.ratio.2 * y.ratio.2)

/-- The quotient of two finite numbers of which the second is not zero, rounded. -/
def dividedBy (x y : Double) : Double :=
  ofRatio (x.isNegative != y.isNegative) (x.ratio.1 * y.ratio.2) (x.ratio.2 * y.ratio.1)

/-- The exponent that follows the letter `e`: a sign, if any, and digits. -/
def readExponent? : List Char → Option Int
  | '-' :: cs => (Number.ofDigits? 10 cs).map fun n => -(n : Int)
  | '+' :: cs => (Number.ofDigits? 10 cs).map fun n => (n : Int)
  | cs => (Number.ofDigits? 10 cs).map fun n => (n : Int)

/-- The double nearest to a decimal number: digits, a point with digits after it, and an exponent,
of which the digits may stand on one side of the point only. -/
def read? (cs : List Char) : Option Double :=
  let whole := cs.takeWhile Char.isDigit
  let rest := cs.dropWhile Char.isDigit
  let (fraction, rest) := match rest with
    | '.' :: rest => (rest.takeWhile Char.isDigit, rest.dropWhile Char.isDigit)
    | rest => ([], rest)
  let digits := Number.ofDigits? 10 (whole ++ fraction)
  let exponent := match rest with
    | [] => some 0
    | 'e' :: rest => readExponent? rest
    | 'E' :: rest => readExponent? rest
    | _ => none
  match digits, exponent with
  | some digits, some exponent => some (ofDecimal false digits (exponent - fraction.length))
  | _, _ => none

end Double

end RecordForms
