/-!
# Doubles

Numbers in the binary interchange format of 64 bits: a sign, eleven bits of exponent and fifty-two
of fraction.  A number is its bits, so two of them are equal exactly if their bits are; the
comparison of numbers by value is `Double.equals`.

## Main definitions

* `Double`: the numbers
* `Double.significand`, `Double.exponent`: a finite magnitude is `significand * 2 ^ exponent`
* `Double.ratio`: the same magnitude as a fraction of natural numbers
* `Double.wholePart?`: the magnitude, if it is a whole number
* `Double.negate`, `Double.equals`: the opposite number, and equality by value
-/

namespace RecordForms

/-- A number in the binary interchange format of 64 bits. -/
structure Double where
  /-- The sign bit, the exponent and the fraction. -/
  bits : UInt64
  deriving DecidableEq, Repr, Inhabited

namespace Double

/-- The bits of positive infinity. -/
def infinityBits : Nat :=
  0x7ff0000000000000

/-- The sign bit of a number. -/
def signBit : Nat :=
  0x8000000000000000

/-- The leading bit of a significand, which is not stored. -/
def hiddenBit : Nat :=
  0x10000000000000

/-- The number with the given sign and the given bits below it. -/
def ofMagnitude (negative : Bool) (magnitude : Nat) : Double :=
  ⟨UInt64.ofNat (magnitude + if negative then signBit else 0)⟩

/-- Whether the sign bit is set. -/
def isNegative (x : Double) : Bool :=
  signBit ≤ x.bits.toNat

/-- The bits below the sign. -/
def magnitude (x : Double) : Nat :=
  x.bits.toNat % signBit

/-- Whether this is not a number. -/
def isNaN (x : Double) : Bool :=
  infinityBits < x.magnitude

/-- Whether this is one of the two infinities. -/
def isInfinite (x : Double) : Bool :=
  x.magnitude == infinityBits

/-- Whether this is a zero, of either sign. -/
def isZero (x : Double) : Bool :=
  x.magnitude == 0

/-- Whether this is neither infinite nor not a number. -/
def isFinite (x : Double) : Bool :=
  x.magnitude < infinityBits

/-- The factor of the power of two in a finite magnitude. -/
def significand (x : Double) : Nat :=
  if x.magnitude < hiddenBit then x.magnitude else x.magnitude % hiddenBit + hiddenBit

/-- The power of two in a finite magnitude. -/
def exponent (x : Double) : Int :=
  (max (x.magnitude / hiddenBit) 1 : Nat) - 1075

/-- A finite magnitude as numerator and denominator. -/
def ratio (x : Double) : Nat × Nat :=
  if 0 ≤ x.exponent then (x.significand <<< x.exponent.toNat, 1)
  else (x.significand, 1 <<< (-x.exponent).toNat)

/-- The magnitude of a finite number, if it is whole. -/
def wholePart? (x : Double) : Option Nat :=
  let (num, den) := x.ratio
  if x.isFinite && num % den == 0 then some (num / den) else none

/-- The number with the opposite sign. -/
def negate (x : Double) : Double :=
  ofMagnitude (!x.isNegative) x.magnitude

/-- Equality by value: a number that is none differs from all, and the two zeros are equal. -/
def equals (x y : Double) : Bool :=
  !x.isNaN && !y.isNaN && (x == y || (x.isZero && y.isZero))

/-- The bits of a number, where all that are none count as one. -/
def canonicalBits (x : Double) : UInt64 :=
  if x.isNaN then 0x7ff8000000000000 else x.bits

end Double

end RecordForms
