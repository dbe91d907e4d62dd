import RecordForms.Json.Basic
import RecordForms.Number.Rounding

/-!
# JSON numerals

The number that the digits of a JSON text denote.  Digits are gathered in a significand of 64 bits;
those that do not fit any more are dropped, and the power of ten is multiplied in afterwards, so the
result can be off by a few units in the last place.

## Main definitions

* `Json.Numeral`: a number as it is written
* `Json.Numeral.scaled?`: a significand times a power of ten, step by step
* `Json.Numeral.value`: the number that a numeral denotes
-/

namespace RecordForms.Json

/-- A number as it is written. -/
structure Numeral where
  negative : Bool
  /-- The digits before the point. -/
  whole : List Nat
  /-- The digits after the point; there are none without a point. -/
  fraction : List Nat
  /-- The exponent, if one is written. -/
  exponent : Option Int
  deriving DecidableEq, Repr

namespace Numeral

/-- The significand after more digits, as long as it fits in 64 bits, and how many of them fit. -/
def gather (significand : Nat) : List Nat → Nat × Nat
  | [] => (significand, 0)
  | d :: ds =>
    if significand * 10 + d < UInt64.size then
      let (s, n) := gather (significand * 10 + d) ds
      (s, n + 1)
    else (significand, 0)

/-- The double nearest to a power of ten. -/
def power (k : Nat) : Double :=
  .ofDecimal false 1 k

/-- A number times a power of ten, rounded after every step: nothing if it is too large. -/
def scaled? (x : Double) (exponent : Int) : Option Double :=
  if 308 < exponent then if x.isZero then some x else none
  else if 0 ≤ exponent then
    let y := x.times (power exponent.toNat)
    if y.isInfinite then none else some y
  else if -308 ≤ exponent then some (x.dividedBy (power (-exponent).toNat))
  else if x.isZero then some x
  else scaled? (x.dividedBy (power 308)) (exponent + 308)
termination_by (-exponent).toNat

/-- The whole number of a sign and a magnitude, if it fits in 64 bits with its sign. -/
def integer? (negative : Bool) (n : Nat) : Option Int :=
  if !negative then some n
  else if n = 0 || -(n : Int) < Int64.minValue.toInt then none
  else some (-(n : Int))

/-- The number that a numeral denotes.  Without a point, an exponent or too many digits it is a
whole number; a negative zero is not. -/
def value (n : Numeral) : Json :=
  let (s, k) := gather 0 n.whole
  let isWhole := n.fraction.isEmpty && n.exponent.isNone && k == n.whole.length
  match if isWhole then integer? n.negative s else none with
  | some i => int i
  | none =>
    let (s, l) := gather s n.fraction
    let exponent := (n.whole.length - k : Nat) - (l : Int) + n.exponent.getD 0
    match scaled? (.ofRatio false s 1) exponent with
    | some x => float (if n.negative then x.negate else x)
    | none => unreadable

end Numeral

end RecordForms.Json
