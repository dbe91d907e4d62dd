import RecordForms.Number.Rounding

/-!
# The shortest digits of a double

The fewest decimal digits that read back as the same double; of several such numbers the nearest to
the double, and of two at the same distance the one that a rule says.  A double stands for the
interval of numbers that round to it, whose ends belong to it if its significand is even.  On each
decimal grid, coarse to fine, the two neighbours of the double are tried.

## Main definitions

* `Decimal`: `digits * 10 ^ exponent`
* `Tie`: which of two numbers at the same distance is taken
* `Double.shortest x tie`: the shortest decimal of a positive double
* `Decimal.positional d`: the digits with the point in its place and no exponent
* `Decimal.scientific d`: short numbers positional, others with an exponent
-/

namespace RecordForms

/-- The number `digits * 10 ^ exponent`. -/
structure Decimal where
  digits : Nat
  exponent : Int
  deriving DecidableEq, Repr

/-- Which of two neighbours on a grid is taken if both are equally near. -/
inductive Tie where
  /-- The greater one. -/
  | up
  /-- The one with an even last digit. -/
  | even
  deriving DecidableEq, Repr

/-- The neighbour that is taken, given the lower one. -/
def Tie.choose (tie : Tie) (below : Nat) : Nat :=
  match tie with
  | up => below + 1
  | even => below + below % 2

namespace Double

/-- The interval of the numbers that round to a positive double, and the double itself, as
numerators over one denominator. -/
structure Basin where
  low : Nat
  value : Nat
  high : Nat
  den : Nat
  /-- Whether the two ends round to the double. -/
  closed : Bool

/-- The interval of a positive double.  Below a power of two the neighbour is nearer by half. -/
def basin (x : Double) : Basin :=
  let m := x.significand
  let gap := if m == hiddenBit && 2 * hiddenBit ≤ x.magnitude then 1 else 2
  let e := x.exponent - 2
  let up := if 0 ≤ e then 1 <<< e.toNat else 1
  let den := if 0 ≤ e then 1 else 1 <<< (-e).toNat
  ⟨(4 * m - gap) * up, 4 * m * up, (4 * m + 2) * up, den, m % 2 == 0⟩

/-- Whether `digits * 10 ^ k` lies in the interval. -/
def Basin.holds (b : Basin) (digits : Nat) (k : Int) : Bool :=
  let x := if 0 ≤ k then digits * Nat.pow 10 k.toNat * b.den else digits * b.den
  let scale := if 0 ≤ k then 1 else Nat.pow 10 (-k).toNat
  if b.closed then b.low * scale ≤ x && x ≤ b.high * scale
  else b.low * scale < x && x < b.high * scale

/-- The number of digits before the point of a positive fraction, negative for zeros after it. -/
def decimalPlaces (num den : Nat) : Int :=
  if den ≤ num then (Number.decimal (num / den)).length
  else
    let l := (Number.decimal (den / num)).length
    if den ≤ num * Nat.pow 10 (l - 1) then 1 - ((l - 1 : Nat) : Int) else 1 - (l : Int)

/-- The neighbour of the double on the grid `10 ^ k` that is in the interval, the nearer of two. -/
def Basin.onGrid? (b : Basin) (tie : Tie) (k : Int) : Option Decimal :=
  let num := if 0 ≤ k then b.value else b.value * Nat.pow 10 (-k).toNat
  let den := if 0 ≤ k then b.den * Nat.pow 10 k.toNat else b.den
  let below := num / den
  match b.holds below k, b.holds (below + 1) k with
  | false, false => none
  | true, false => some ⟨below, k⟩
  | false, true => some ⟨below + 1, k⟩
  | true, true =>
    let digits := match compare (2 * (num % den)) den with
      | .lt => below
      | .eq => tie.choose below
      | .gt => below + 1
    some ⟨digits, k⟩

/-- The first grid with a neighbour in the interval, from `10 ^ k` downwards. -/
def Basin.search (b : Basin) (tie : Tie) : Nat → Int → Decimal
  | 0, k => ⟨b.value / b.den, k⟩
  | fuel + 1, k =>
    match b.onGrid? tie k with
    | some d => d
    | none => b.search tie fuel (k - 1)

/-- The shortest decimal that reads back as the positive double `x`.  Seventeen digits always do.
Only ten on the first grid can end with a zero. -/
def shortest (x : Double) (tie : Tie) : Decimal :=
  let b := x.basin
  let d := b.search tie 17 (decimalPlaces b.value b.den - 1)
  if d.digits == 10 then ⟨1, d.exponent + 1⟩ else d

end Double

namespace Decimal

/-- The digits with the point in its place: zeros after them or before them as needed, and no point
after a whole number. -/
def positional (d : Decimal) : List Char :=
  let ds := Number.decimal d.digits
  if 0 ≤ d.exponent then ds ++ List.replicate d.exponent.toNat '0'
  else
    let places := (-d.exponent).toNat
    if places < ds.length then
      ds.take (ds.length - places) ++ '.' :: ds.drop (ds.length - places)
    else '0' :: '.' :: (List.replicate (places - ds.length) '0' ++ ds)

/-- The number `d` written with its point after the first digit and an exponent. -/
def withExponent (d : Decimal) : List Char :=
  let ds := Number.decimal d.digits
  let e := d.exponent + ds.length - 1
  let mantissa := match ds with
    | c :: c' :: rest => c :: '.' :: c' :: rest
    | ds => ds
  mantissa ++ 'e' :: Number.decimalInt e

/-- Positional for a first digit from the fifth place after the point to the sixteenth before it,
with `.0` after a whole number; otherwise with an exponent. -/
def scientific (d : Decimal) : List Char :=
  let point := d.exponent + (Number.decimal d.digits).length
  if 0 ≤ d.exponent && point ≤ 16 then d.positional ++ ['.', '0']
  else if -5 < point && point ≤ 16 then d.positional
  else d.withExponent

end Decimal

end RecordForms
