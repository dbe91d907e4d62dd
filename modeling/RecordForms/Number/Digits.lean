/-!
# Digits

Natural numbers and integers as digits: writing in base ten and reading in any base up to sixteen.

## Main definitions

* `decimal n`, `decimalInt n`: the decimal digits, the latter with a minus where one is needed
* `digitValue? c`: the value of a digit, of either letter case
* `ofDigits? base cs`: the number that the digits `cs` spell
* `int64? n`: the integer `n`, if it fits in 64 bits
-/

namespace RecordForms.Number

/-- The decimal digits of a natural number, without a leading zero. -/
def decimal (n : Nat) : List Char :=
  Nat.toDigits 10 n

/-- The decimal digits of an integer, after a minus if it is negative. -/
def decimalInt : Int → List Char
  | .ofNat n => decimal n
  | .negSucc n => '-' :: decimal (n + 1)

/-- The digits of a natural number in base sixteen, at least two of them. -/
def hexPair (n : Nat) : List Char :=
  [Nat.digitChar (n / 16 % 16), Nat.digitChar (n % 16)]

/-- The value of a digit in base sixteen, of either letter case. -/
def digitValue? (c : Char) : Option Nat :=
  if c.isDigit then some (c.toNat - '0'.toNat)
  else if 'a' ≤ c && c ≤ 'f' then some (c.toNat - 'a'.toNat + 10)
  else if 'A' ≤ c && c ≤ 'F' then some (c.toNat - 'A'.toNat + 10)
  else none

/-- The number that digits spell after the digits read so far, if each is below the base. -/
def readDigits (base : Nat) : Nat → List Char → Option Nat
  | acc, [] => some acc
  | acc, c :: cs =>
    match digitValue? c with
    | some d => if d < base then readDigits base (acc * base + d) cs else none
    | none => none

/-- The number that a non-empty list of digits spells. -/
def ofDigits? (base : Nat) (cs : List Char) : Option Nat :=
  if cs.isEmpty then none else readDigits base 0 cs

/-- The number that digits after an optional plus spell. -/
def ofSignedDigits? (base : Nat) : List Char → Option Nat
  | '+' :: cs => ofDigits? base cs
  | cs => ofDigits? base cs

/-- The integer `n` in 64 bits, if it fits. -/
def int64? (n : Int) : Option Int64 :=
  if Int64.minValue.toInt ≤ n && n ≤ Int64.maxValue.toInt then some (Int64.ofInt n) else none

/-- The 64-bit integer that decimal digits after an optional sign spell. -/
def int64OfDecimal? : List Char → Option Int64
  | '-' :: cs => (ofDigits? 10 cs).bind fun n => int64? (-(n : Int))
  | '+' :: cs => (ofDigits? 10 cs).bind fun n => int64? n
  | cs => (ofDigits? 10 cs).bind fun n => int64? n

end RecordForms.Number
