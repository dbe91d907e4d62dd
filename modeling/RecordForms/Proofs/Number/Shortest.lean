import RecordForms.Number.Shortest
import RecordForms.Proofs.Number.Digits
import RecordForms.Proofs.Number.Double

/-!
# The shortest digits of a double

The shortest decimal of a double lies in the interval of the numbers that round to the double: among
the decimals of seventeen digits, one of the two neighbours of the double always does.  Where the
point stands in it tells whole numbers from others.

## Main definitions

* `Double.Basin.Contains b q`: the number `q` lies in the interval `b`
* `Double.Basin.below b k`: the neighbour on the grid `10 ^ k` that is not above the double
* `Decimal.toRat d`: the number that a decimal stands for

## Main results

* `Number.exists_length_decimal`, `Number.decimal_append_zeros`: the number of digits, and zeros
  after them
* `Double.Basin.holds_iff`: the test that the search makes is membership in the interval
* `Double.Basin.holds_search`: the search finds a decimal in the interval if there is one
* `Double.isSome_onGrid?_seventeen`: there is one of seventeen digits
* `Double.contains_shortest`: the shortest decimal of a double lies in its interval
* `Double.exponent_shortest_nonneg`, `Double.exponent_shortest_neg`: from `10 ^ 16` on it is whole,
  and that of a number that is not whole is not
* `Double.shortest_lt_two_pow_63`, `Double.two_pow_63_lt_shortest_of_le`: it is on the same side of
  `2 ^ 63`
* `Decimal.positional_eq_decimal`, `Decimal.isPointed_positional`: digits, with a point among them
  unless the decimal is whole
-/

namespace RecordForms

/-! ### Digits and powers of ten -/

namespace Number

/-- The number of digits is the place of the first of them. -/
theorem exists_length_decimal {n : Nat} (h : 0 < n) :
    ∃ l, (decimal n).length = l + 1 ∧ 10 ^ l ≤ n ∧ n < 10 ^ (l + 1) := by
  obtain ⟨l, hl⟩ := Nat.exists_eq_add_one_of_ne_zero
    (Nat.ne_of_gt (Nat.length_toDigits_pos (b := 10) (n := n)))
  refine ⟨l, hl, ?_, (Nat.length_toDigits_le_iff (by decide) (Nat.succ_pos l)).mp (Nat.le_of_eq hl)⟩
  rcases Nat.eq_zero_or_pos l with rfl | hpos
  · exact h
  · refine Nat.le_of_not_lt fun hlt => ?_
    have hle := (Nat.length_toDigits_le_iff (by decide) hpos).mpr hlt
    omega

/-- Zeros after the digits multiply the number by a power of ten. -/
theorem decimal_append_zeros {n : Nat} (h : 0 < n) (k : Nat) :
    decimal n ++ List.replicate k '0' = decimal (n * 10 ^ k) := by
  induction k with
  | zero => simp
  | succ k ih =>
    have hpos : 0 < n * 10 ^ k := Nat.mul_pos h (Nat.pow_pos (by decide))
    have hnext := Nat.toDigits_append_toDigits (b := 10) (d := 0) (by decide) hpos (by decide)
    rw [List.replicate_succ', ← List.append_assoc, ih]
    rw [Nat.toDigits_zero] at hnext
    refine hnext.trans (congrArg decimal ?_)
    rw [Nat.pow_succ, Nat.add_zero, Nat.mul_comm 10, Nat.mul_assoc]

end Number

namespace Double

/-! ### The interval of a double -/

/-- Whether the neighbour below a number is nearer by half. -/
def isPowerStep (x : Double) : Bool :=
  x.significand == hiddenBit && 2 * hiddenBit ≤ x.magnitude

/-- Half of the distance to the number below. -/
def halfGapBelow (x : Double) : ℚ :=
  if x.isPowerStep then 2 ^ (x.exponent - 2) else 2 ^ (x.exponent - 1)

theorem halfGapBelow_pos (x : Double) : 0 < x.halfGapBelow := by
  unfold halfGapBelow
  split
  · exact zpow_pos (by norm_num) _
  · exact zpow_pos (by norm_num) _

theorem halfGapBelow_le (x : Double) : x.halfGapBelow ≤ x.halfGap := by
  unfold halfGapBelow halfGap
  split
  · exact zpow_le_zpow_right₀ (by norm_num) (by omega)
  · exact le_rfl

theorem den_basin_pos (x : Double) : 0 < x.basin.den := by
  unfold basin
  dsimp only
  split <;> simp [Nat.shiftLeft_eq]

/-- The unit in which the interval of a number is given: a quarter of the power of two in it. -/
theorem basin_unit (x : Double) :
    ((if 0 ≤ x.exponent - 2 then 1 <<< (x.exponent - 2).toNat else 1 : ℕ) : ℚ) / x.basin.den =
      2 ^ (x.exponent - 2) := by
  have hpow := zpow_eq_div 2 (x.exponent - 2)
  rw [Nat.cast_two] at hpow
  rw [hpow, basin]
  simp only [Nat.shiftLeft_eq, one_mul]

theorem value_basin (x : Double) : (x.basin.value : ℚ) / x.basin.den = x.toRat := by
  have hunit := basin_unit x
  rw [toRat, zpow_eq_four_mul, ← hunit, basin]
  push_cast
  ring

theorem value_basin_pos {x : Double} (h : 0 < x.significand) : 0 < x.basin.value := by
  have hpos := toRat_pos h
  rw [← value_basin] at hpos
  refine Nat.pos_of_ne_zero fun hzero => ?_
  rw [hzero, Nat.cast_zero, zero_div] at hpos
  exact lt_irrefl 0 hpos

theorem high_basin (x : Double) : (x.basin.high : ℚ) / x.basin.den = x.toRat + x.halfGap := by
  have hunit := basin_unit x
  rw [toRat, halfGap, zpow_eq_four_mul, zpow_sub_one_eq, ← hunit, basin]
  push_cast
  ring

theorem low_basin {x : Double} (h : 0 < x.significand) :
    (x.basin.low : ℚ) / x.basin.den = x.toRat - x.halfGapBelow := by
  have hunit := basin_unit x
  -- the subtraction in natural numbers is not cut off
  have hle : (if x.isPowerStep then 1 else 2) ≤ 4 * x.significand := by
    split <;> omega
  have hlow : x.basin.low = (4 * x.significand - if x.isPowerStep then 1 else 2) *
      (if 0 ≤ x.exponent - 2 then 1 <<< (x.exponent - 2).toNat else 1) := rfl
  rw [hlow, Nat.cast_mul, Nat.cast_sub hle, mul_div_assoc, hunit, toRat, halfGapBelow,
    zpow_eq_four_mul x.exponent]
  split
  · push_cast
    ring
  · rw [zpow_sub_one_eq]
    push_cast
    ring

/-- A number whose neighbour below is nearer by half is a power of two. -/
theorem toRat_of_isPowerStep {x : Double} (h : x.isPowerStep) : x.toRat = 2 ^ 53 * x.halfGap := by
  have hm : x.significand = hiddenBit := by
    rw [isPowerStep, Bool.and_eq_true, beq_iff_eq] at h
    exact h.1
  rw [toRat, zpow_exponent, hm, hiddenBit]
  push_cast
  ring

end Double

namespace Double.Basin

/-! ### The search -/

/-- Whether a number lies in an interval. -/
def Contains (b : Basin) (q : ℚ) : Prop :=
  if b.closed then (b.low : ℚ) / b.den ≤ q ∧ q ≤ (b.high : ℚ) / b.den
  else (b.low : ℚ) / b.den < q ∧ q < (b.high : ℚ) / b.den

theorem holds_iff {b : Basin} (hden : 0 < b.den) (digits : ℕ) (k : ℤ) :
    b.holds digits k ↔ b.Contains (digits * 10 ^ k) := by
  have hdenQ : (0 : ℚ) < b.den := Nat.cast_pos.mpr hden
  have hpow := zpow_eq_div 10 k
  have hscale : (0 : ℚ) < ((if 0 ≤ k then 1 else 10 ^ (-k).toNat : ℕ) : ℚ) := by
    split <;> positivity
  have hx : (if 0 ≤ k then digits * Nat.pow 10 k.toNat * b.den else digits * b.den) =
      digits * (if 0 ≤ k then 10 ^ k.toNat else 1) * b.den := by
    split <;> simp
  have hs : (if 0 ≤ k then 1 else Nat.pow 10 (-k).toNat) =
      (if 0 ≤ k then 1 else 10 ^ (-k).toNat) := by
    split <;> simp
  rw [Nat.cast_ofNat] at hpow
  rw [holds, Contains, hx, hs, hpow]
  generalize (if 0 ≤ k then 10 ^ k.toNat else 1 : ℕ) = up
  generalize hdown : (if 0 ≤ k then 1 else 10 ^ (-k).toNat : ℕ) = down at hscale ⊢
  -- each comparison of fractions is the one of products that the test makes
  rw [← mul_div_assoc, div_le_div_iff₀ hdenQ hscale, div_le_div_iff₀ hscale hdenQ,
    div_lt_div_iff₀ hdenQ hscale, div_lt_div_iff₀ hscale hdenQ]
  norm_cast
  split <;> simp

theorem Contains.of_lt {b : Basin} {q : ℚ} (hlow : (b.low : ℚ) / b.den < q)
    (hhigh : q < (b.high : ℚ) / b.den) : b.Contains q := by
  unfold Contains
  split
  · exact ⟨hlow.le, hhigh.le⟩
  · exact ⟨hlow, hhigh⟩

theorem Contains.bounds {b : Basin} {q : ℚ} (h : b.Contains q) :
    (b.low : ℚ) / b.den ≤ q ∧ q ≤ (b.high : ℚ) / b.den := by
  unfold Contains at h
  split at h
  · exact h
  · exact ⟨h.1.le, h.2.le⟩

/-- The neighbour of the double on the grid `10 ^ k` that is not above it. -/
def below (b : Basin) (k : ℤ) : ℕ :=
  (if 0 ≤ k then b.value else b.value * Nat.pow 10 (-k).toNat) /
    (if 0 ≤ k then b.den * Nat.pow 10 k.toNat else b.den)

/-- The double lies between its two neighbours on a grid. -/
theorem below_bounds {b : Basin} (hden : 0 < b.den) (k : ℤ) :
    (b.below k : ℚ) * 10 ^ k ≤ (b.value : ℚ) / b.den ∧
      (b.value : ℚ) / b.den < ((b.below k + 1 : ℕ) : ℚ) * 10 ^ k := by
  have hdenQ : (0 : ℚ) < b.den := Nat.cast_pos.mpr hden
  have hpow := zpow_eq_div 10 k
  have hbelow : b.below k = b.value * (if 0 ≤ k then 1 else 10 ^ (-k).toNat) /
      (b.den * if 0 ≤ k then 10 ^ k.toNat else 1) := by
    rw [below]
    split <;> simp
  have hup : 0 < (if 0 ≤ k then 10 ^ k.toNat else 1 : ℕ) := by
    split <;> positivity
  have hdown : (0 : ℚ) < ((if 0 ≤ k then 1 else 10 ^ (-k).toNat : ℕ) : ℚ) := by
    split <;> positivity
  rw [Nat.cast_ofNat] at hpow
  rw [hbelow, hpow]
  generalize (if 0 ≤ k then 10 ^ k.toNat else 1 : ℕ) = up at hup ⊢
  generalize (if 0 ≤ k then 1 else 10 ^ (-k).toNat : ℕ) = down at hdown ⊢
  -- the neighbour is a quotient that is rounded down
  have hfloor := Nat.div_add_mod (b.value * down) (b.den * up)
  have hmod := Nat.mod_lt (b.value * down) (Nat.mul_pos hden hup)
  generalize b.value * down / (b.den * up) = q at hfloor ⊢
  rw [← mul_div_assoc, ← mul_div_assoc, div_le_div_iff₀ hdown hdenQ, div_lt_div_iff₀ hdenQ hdown]
  constructor
  · norm_cast
    calc q * up * b.den = b.den * up * q := by ring
      _ ≤ b.value * down := by omega
  · norm_cast
    calc b.value * down < b.den * up * q + b.den * up := by omega
      _ = (q + 1) * up * b.den := by ring

/-- A decimal on a grid lies in the interval. -/
theorem holds_of_onGrid? {b : Basin} {tie : Tie} {k : ℤ} {d : Decimal}
    (h : b.onGrid? tie k = some d) : d.exponent = k ∧ b.holds d.digits k := by
  have hchoose (n : ℕ) : tie.choose n = n ∨ tie.choose n = n + 1 := by
    cases tie with
    | up => exact Or.inr rfl
    | even =>
      rw [Tie.choose]
      omega
  unfold onGrid? at h
  dsimp only at h
  split at h
  · cases h
  · rename_i hbelow _
    cases h
    exact ⟨rfl, hbelow⟩
  · rename_i _ habove
    cases h
    exact ⟨rfl, habove⟩
  · rename_i hbelow habove
    cases h
    refine ⟨rfl, ?_⟩
    dsimp only
    split
    · exact hbelow
    · rcases hchoose (b.below k) with hc | hc
      · exact (congrArg (b.holds · k) hc).trans hbelow
      · exact (congrArg (b.holds · k) hc).trans habove
    · exact habove

/-- There is a decimal on a grid as soon as one of the two neighbours is in the interval. -/
theorem isSome_onGrid? {b : Basin} {tie : Tie} {k : ℤ}
    (h : b.holds (b.below k) k ∨ b.holds (b.below k + 1) k) : (b.onGrid? tie k).isSome := by
  unfold onGrid?
  dsimp only
  split
  · rename_i hbelow habove
    rcases h with h | h
    · cases h.symm.trans hbelow
    · cases h.symm.trans habove
  all_goals rfl

/-- The search ends with a decimal in the interval, if there is one on any of its grids. -/
theorem holds_search {b : Basin} {tie : Tie} {fuel : ℕ} {k : ℤ}
    (h : ∃ j < fuel, (b.onGrid? tie (k - (j : ℤ))).isSome) :
    b.holds (b.search tie fuel k).digits (b.search tie fuel k).exponent ∧
      k - fuel < (b.search tie fuel k).exponent := by
  -- Along the grids: the search ends on the first one with a decimal.
  induction fuel generalizing k with
  | zero =>
    obtain ⟨j, hj, -⟩ := h
    omega
  | succ fuel ih =>
    rw [search]
    split
    · rename_i d hd
      obtain ⟨hk, hholds⟩ := holds_of_onGrid? hd
      rw [hk]
      exact ⟨hholds, by omega⟩
    · rename_i hnone
      obtain ⟨j, hj, hsome⟩ := h
      cases j with
      | zero =>
        rw [Nat.cast_zero, sub_zero, hnone] at hsome
        cases hsome
      | succ j =>
        have hnext : (b.onGrid? tie (k - 1 - (j : ℤ))).isSome := by
          rwa [Nat.cast_succ, show k - ((j : ℤ) + 1) = k - 1 - j by ring] at hsome
        obtain ⟨hholds, hlt⟩ := ih ⟨j, by omega, hnext⟩
        exact ⟨hholds, by omega⟩

end Double.Basin

namespace Double

/-! ### Seventeen digits -/

/-- The number of places before the point of a fraction. -/
theorem decimalPlaces_spec {num den : ℕ} (hnum : 0 < num) (hden : 0 < den) :
    (10 : ℚ) ^ (decimalPlaces num den - 1) ≤ (num : ℚ) / den ∧
      (num : ℚ) / den < 10 ^ decimalPlaces num den := by
  have hnumQ : (0 : ℚ) < num := Nat.cast_pos.mpr hnum
  have hdenQ : (0 : ℚ) < den := Nat.cast_pos.mpr hden
  unfold decimalPlaces
  dsimp only
  split
  · rename_i hle
    have hpos : 0 < num / den := Nat.div_pos hle hden
    obtain ⟨l, hl, hge, hlt⟩ := Number.exists_length_decimal hpos
    rw [hl, Nat.cast_succ, add_sub_cancel_right, ← Nat.cast_succ, zpow_natCast, zpow_natCast,
      le_div_iff₀ hdenQ, div_lt_iff₀ hdenQ]
    norm_cast
    constructor
    · calc 10 ^ l * den ≤ num / den * den := Nat.mul_le_mul_right den hge
        _ ≤ num := Nat.div_mul_le_self num den
    · exact (Nat.div_lt_iff_lt_mul hden).mp hlt
  · rename_i hlt'
    have hpos : 0 < den / num := Nat.div_pos (by omega) hnum
    obtain ⟨l, hl, hge, hlt⟩ := Number.exists_length_decimal hpos
    have hge : num * 10 ^ l ≤ den := by
      calc num * 10 ^ l = 10 ^ l * num := Nat.mul_comm _ _
        _ ≤ den / num * num := Nat.mul_le_mul_right num hge
        _ ≤ den := Nat.div_mul_le_self den num
    have hlt : den < num * 10 ^ (l + 1) := by
      rw [Nat.mul_comm]
      exact (Nat.div_lt_iff_lt_mul hnum).mp hlt
    -- the fraction as a quotient of powers: `10 ^ (-n) ≤ num / den` says `den ≤ num * 10 ^ n`
    have hle_iff (n : ℕ) : (10 : ℚ) ^ (-(n : ℤ)) ≤ (num : ℚ) / den ↔ den ≤ num * 10 ^ n := by
      rw [zpow_neg, zpow_natCast, le_div_iff₀ hdenQ, inv_mul_le_iff₀ (by positivity), mul_comm]
      norm_cast
    rw [hl, Nat.add_sub_cancel, Nat.pow_eq]
    split
    · rename_i hle
      refine ⟨?_, ?_⟩
      · rw [show (1 - (l : ℤ) - 1) = -(l : ℤ) by ring]
        exact (hle_iff l).mpr hle
      · have heq : den = num * 10 ^ l := le_antisymm hle hge
        have hpow : (num : ℚ) / den = 10 ^ (-(l : ℤ)) := by
          rw [heq, zpow_neg, zpow_natCast, Nat.cast_mul, Nat.cast_pow, Nat.cast_ofNat,
            div_mul_cancel_left₀ hnumQ.ne']
        rw [hpow]
        exact zpow_lt_zpow_right₀ (by norm_num) (by omega)
    · rename_i hnot
      refine ⟨?_, ?_⟩
      · rw [show (1 - ((l + 1 : ℕ) : ℤ) - 1) = -((l + 1 : ℕ) : ℤ) by ring]
        exact (hle_iff (l + 1)).mpr hlt.le
      · rw [show (1 - ((l + 1 : ℕ) : ℤ)) = -(l : ℤ) by push_cast; ring]
        exact lt_of_not_ge fun hle => hnot ((hle_iff l).mp hle)

/-- One of the two neighbours with seventeen digits is in the interval: the grid of the last digit
is finer than the doubles. -/
theorem isSome_onGrid?_seventeen {x : Double} (h : 0 < x.significand) (tie : Tie) :
    (x.basin.onGrid? tie (decimalPlaces x.basin.value x.basin.den - 17)).isSome := by
  have hden := x.den_basin_pos
  obtain ⟨hplaces, -⟩ := decimalPlaces_spec (value_basin_pos h) hden
  generalize decimalPlaces x.basin.value x.basin.den = p at hplaces ⊢
  obtain ⟨hbelow, habove⟩ := Basin.below_bounds hden (p - 17)
  have hgap := x.halfGap_pos
  have hgrid : (10 : ℚ) ^ (p - 1) = 10 ^ (p - 17) * 10 ^ 16 := by
    rw [show p - 1 = p - 17 + 16 by ring, zpow_add₀ (by norm_num)]
    norm_cast
  rw [value_basin] at hplaces hbelow habove
  rw [hgrid] at hplaces
  have hnext : ((x.basin.below (p - 17) + 1 : ℕ) : ℚ) * 10 ^ (p - 17) =
      x.basin.below (p - 17) * 10 ^ (p - 17) + 10 ^ (p - 17) := by
    push_cast
    ring
  apply Basin.isSome_onGrid?
  rw [Basin.holds_iff hden, Basin.holds_iff hden]
  generalize (10 : ℚ) ^ (p - 17) = step at hplaces hbelow habove hnext ⊢
  have hlow := low_basin h
  have hhigh := high_basin x
  cases hpower : x.isPowerStep with
  | true =>
    -- the step is smaller than half of the distance to the number above
    have hX := toRat_of_isPowerStep hpower
    have hbelow' := x.halfGapBelow_pos
    exact Or.inr (.of_lt (by linarith) (by linarith))
  | false =>
    -- the step is smaller than the whole distance, which is the same on both sides
    have hX := x.toRat_lt
    have hsame : x.halfGapBelow = x.halfGap := by
      rw [halfGapBelow, hpower, if_neg Bool.false_ne_true, halfGap]
    rw [hsame] at hlow
    by_cases hnear : x.toRat - x.basin.below (p - 17) * step < x.halfGap
    · exact Or.inl (.of_lt (by linarith) (by linarith))
    · exact Or.inr (.of_lt (by linarith) (by linarith))

end Double

namespace Decimal

/-- The number that a decimal stands for. -/
def toRat (d : Decimal) : ℚ :=
  d.digits * 10 ^ d.exponent

/-- A decimal with a non-negative exponent is a whole number. -/
theorem toRat_eq_natCast {d : Decimal} {k : ℕ} (h : d.exponent = k) :
    d.toRat = (d.digits * 10 ^ k : ℕ) := by
  rw [toRat, h, zpow_natCast]
  push_cast
  rfl

/-- A whole number is written as its digits. -/
theorem positional_eq_decimal {d : Decimal} {k : ℕ} (hdigits : 0 < d.digits)
    (hk : d.exponent = k) : d.positional = Number.decimal (d.digits * 10 ^ k) := by
  have hnonneg : 0 ≤ d.exponent := by omega
  rw [positional, if_pos hnonneg, hk, Int.toNat_natCast, Number.decimal_append_zeros hdigits]

/-- A number with digits behind the point is written with the point. -/
theorem isPointed_positional {d : Decimal} (h : d.exponent < 0) :
    Number.IsPointed d.positional := by
  obtain ⟨hne, hdigit⟩ := Number.isDigits_decimal d.digits
  have hplaces : 0 < (-d.exponent).toNat := by omega
  rw [positional, if_neg (by omega)]
  generalize Number.decimal d.digits = ds at hne hdigit
  have hlength : 0 < ds.length := List.length_pos_iff.mpr hne
  generalize (-d.exponent).toNat = places at hplaces
  dsimp only
  split
  · refine ⟨_, _, ⟨?_, fun c hc => hdigit c (List.mem_of_mem_take hc)⟩,
      ⟨?_, fun c hc => hdigit c (List.mem_of_mem_drop hc)⟩, rfl⟩
    · exact List.length_pos_iff.mp (by rw [List.length_take]; omega)
    · exact List.length_pos_iff.mp (by rw [List.length_drop]; omega)
  · refine ⟨['0'], _, Number.isDigits_decimal 0, ⟨by simp [hne], fun c hc => ?_⟩, rfl⟩
    rcases List.mem_append.mp hc with hzero | hc
    · rw [List.eq_of_mem_replicate hzero]
      decide
    · exact hdigit c hc

end Decimal

namespace Double

/-- **The shortest decimal of a double rounds to the double**: it lies in its interval.  It has
seventeen digits at most. -/
theorem contains_shortest {x : Double} (h : 0 < x.significand) (tie : Tie) :
    x.basin.Contains (x.shortest tie).toRat ∧
      decimalPlaces x.basin.value x.basin.den - 17 ≤ (x.shortest tie).exponent := by
  have hsome := isSome_onGrid?_seventeen h tie
  rw [show decimalPlaces x.basin.value x.basin.den - 17 =
    decimalPlaces x.basin.value x.basin.den - 1 - ((16 : ℕ) : ℤ) by omega] at hsome
  have hsearch : ∃ j : ℕ, j < 17 ∧ (x.basin.onGrid? tie
      (decimalPlaces x.basin.value x.basin.den - 1 - (j : ℤ))).isSome :=
    ⟨16, by decide, hsome⟩
  obtain ⟨hholds, hexponent⟩ := Basin.holds_search hsearch
  rw [Basin.holds_iff x.den_basin_pos] at hholds
  rw [shortest]
  -- ten on a grid is one on the next
  split
  · rename_i hten
    rw [beq_iff_eq] at hten
    rw [hten] at hholds
    refine ⟨?_, by dsimp only; omega⟩
    rw [Decimal.toRat]
    dsimp only
    rwa [zpow_add_one₀ (by norm_num), Nat.cast_one, one_mul, mul_comm]
  · exact ⟨hholds, by omega⟩

/-! ### The point -/

section Point

variable {x : Double} {tie : Tie}

theorem shortest_bounds (h : 0 < x.significand) (tie : Tie) :
    x.toRat - x.halfGap ≤ (x.shortest tie).toRat ∧
      (x.shortest tie).toRat ≤ x.toRat + x.halfGap := by
  obtain ⟨hlow, hhigh⟩ := (contains_shortest h tie).1.bounds
  rw [low_basin h] at hlow
  rw [high_basin] at hhigh
  exact ⟨by linarith [x.halfGapBelow_le], hhigh⟩

/-- The digits of a number that is not zero are not all zero. -/
theorem digits_shortest_pos (h : 0 < x.significand) (tie : Tie) : 0 < (x.shortest tie).digits := by
  have hlow := (shortest_bounds h tie).1
  have hgap := x.halfGap_pos
  have hle := two_mul_halfGap_le_toRat h
  refine Nat.pos_of_ne_zero fun hzero => ?_
  rw [Decimal.toRat, hzero, Nat.cast_zero, zero_mul] at hlow
  linarith

/-- From `10 ^ 16` on, seventeen digits do not reach behind the point. -/
theorem exponent_shortest_nonneg (h : 10 ^ 16 ≤ x.toRat) (tie : Tie) :
    0 ≤ (x.shortest tie).exponent := by
  have hpos : 0 < x.significand := significand_pos_of_toRat_pos (by linarith)
  have hplaces := (decimalPlaces_spec (value_basin_pos hpos) x.den_basin_pos).2
  have hdigits := (contains_shortest hpos tie).2
  rw [value_basin] at hplaces
  have hlt : (10 : ℚ) ^ (16 : ℤ) < 10 ^ decimalPlaces x.basin.value x.basin.den := by
    exact_mod_cast lt_of_le_of_lt h hplaces
  have := (zpow_lt_zpow_iff_right₀ (by norm_num)).mp hlt
  omega

/-- The shortest decimal of a number that is not whole has digits behind the point: a whole number
in the interval of a double is that double. -/
theorem exponent_shortest_neg (h : ∀ n : ℕ, x.toRat ≠ n) (tie : Tie) :
    (x.shortest tie).exponent < 0 := by
  have hpos : 0 < x.significand := by
    refine Nat.pos_of_ne_zero fun hzero => h 0 ?_
    rw [toRat, hzero, Nat.cast_zero, zero_mul]
  -- a number with a non-negative exponent would be whole
  obtain ⟨n, hn⟩ : ∃ n : ℕ, x.exponent = -(n : ℤ) := by
    by_cases he : 0 ≤ x.exponent
    · obtain ⟨e, he⟩ := Int.eq_ofNat_of_zero_le he
      exact absurd (exists_toRat_eq_natCast he) (h _)
    · exact ⟨(-x.exponent).toNat, by omega⟩
  refine lt_of_not_ge fun hexponent => ?_
  obtain ⟨k, hk⟩ := Int.eq_ofNat_of_zero_le hexponent
  obtain ⟨hlow, hhigh⟩ := shortest_bounds hpos tie
  rw [Decimal.toRat_eq_natCast hk] at hlow hhigh
  generalize (x.shortest tie).digits * 10 ^ k = m at hlow hhigh
  -- In units of the last bit the two differ by a half at most, and both are whole.
  have hscale : x.toRat * 2 ^ n = x.significand := by
    rw [toRat, hn, zpow_neg, zpow_natCast, inv_mul_cancel_right₀ (by positivity)]
  have hhalf : x.halfGap * 2 ^ n = 1 / 2 := by
    have htwo : 2 * x.halfGap * 2 ^ n = 1 := by
      rw [← zpow_exponent, hn, zpow_neg, zpow_natCast, inv_mul_cancel₀ (by positivity)]
    linarith
  have hpow : (0 : ℚ) < 2 ^ n := by positivity
  have hlow' : ((2 * x.significand : ℕ) : ℚ) ≤ (2 * (m * 2 ^ n) + 1 : ℕ) := by
    have := mul_le_mul_of_nonneg_right hlow hpow.le
    push_cast
    linarith
  have hhigh' : ((2 * (m * 2 ^ n) : ℕ) : ℚ) ≤ (2 * x.significand + 1 : ℕ) := by
    have := mul_le_mul_of_nonneg_right hhigh hpow.le
    push_cast
    linarith
  have heq : x.significand = m * 2 ^ n := by
    have h1 := Nat.cast_le.mp hlow'
    have h2 := Nat.cast_le.mp hhigh'
    omega
  refine h m (mul_right_cancel₀ hpow.ne' ?_)
  rw [hscale, heq]
  push_cast
  rfl

/-! ### Whole numbers of 64 bits -/

/-- The shortest decimal of a number below `2 ^ 63` is below it. -/
theorem shortest_lt_two_pow_63 (hlarge : 2 ^ 53 ≤ x.toRat) (h : x.toRat < 2 ^ 63) (tie : Tie) :
    (x.shortest tie).toRat < 2 ^ 63 := by
  have hpos : 0 < x.significand := significand_pos_of_toRat_pos (by linarith)
  obtain ⟨e, he⟩ := exists_exponent_eq hlarge
  have hhigh := (shortest_bounds hpos tie).2
  rw [toRat_eq_natCast he] at h hhigh
  rw [halfGap_eq_natCast he] at hhigh
  have hlt : 2 * x.significand * 2 ^ e < 2 ^ 63 := by exact_mod_cast h
  -- both numbers are multiples of two halves of the distance, so another half fits between them
  have hbound : 2 * x.significand * 2 ^ e + 2 ^ e < 2 ^ 63 := by
    have hle := le_of_two_mul_le hpos hlt.le
    rw [two_pow_63_eq hle] at hlt ⊢
    have hm := lt_of_mul_lt_mul_right hlt (Nat.zero_le _)
    rw [← Nat.succ_mul]
    exact mul_lt_mul_of_pos_right (by omega) (by positivity)
  have hboundQ : ((2 * x.significand * 2 ^ e : ℕ) : ℚ) + (2 ^ e : ℕ) < 2 ^ 63 := by
    exact_mod_cast hbound
  linarith

/-- The shortest decimal of a number above `2 ^ 63` is above it. -/
theorem two_pow_63_lt_shortest (h : 2 ^ 63 < x.toRat) (tie : Tie) :
    2 ^ 63 < (x.shortest tie).toRat := by
  have hpos : 0 < x.significand := significand_pos_of_toRat_pos (by linarith)
  obtain ⟨e, he⟩ := exists_exponent_eq (by linarith)
  have hlow := (shortest_bounds hpos tie).1
  rw [toRat_eq_natCast he] at h hlow
  rw [halfGap_eq_natCast he] at hlow
  have hlt : 2 ^ 63 < 2 * x.significand * 2 ^ e := by exact_mod_cast h
  have hbound : 2 ^ 63 + 2 ^ e < 2 * x.significand * 2 ^ e := by
    by_cases hle : e ≤ 62
    · rw [two_pow_63_eq hle] at hlt ⊢
      have hm := lt_of_mul_lt_mul_right hlt (Nat.zero_le _)
      rw [← Nat.succ_mul]
      exact mul_lt_mul_of_pos_right (by omega) (by positivity)
    · -- the distance alone is more, and the significand is large
      have hpow : 2 ^ 63 ≤ 2 ^ e := Nat.pow_le_pow_right (by decide) (by omega)
      have hm := hiddenBit_le_significand he
      have hmul : 3 * 2 ^ e ≤ 2 * x.significand * 2 ^ e := by
        refine Nat.mul_le_mul_right _ ?_
        rw [hiddenBit] at hm
        omega
      omega
  have hboundQ : (2 : ℚ) ^ 63 + (2 ^ e : ℕ) < (2 * x.significand * 2 ^ e : ℕ) := by
    exact_mod_cast hbound
  linarith

theorem shortest_congr {x y : Double} (h : x.magnitude = y.magnitude) (tie : Tie) :
    x.shortest tie = y.shortest tie := by
  have hsignificand : x.significand = y.significand := by
    unfold significand
    rw [h]
  have hexponent : x.exponent = y.exponent := by
    unfold exponent
    rw [h]
  have hbasin : x.basin = y.basin := by
    unfold basin
    rw [h, hsignificand, hexponent]
  rw [shortest, shortest, hbasin]

/-- The shortest decimal of a number from `2 ^ 63` on is above it; that of `2 ^ 63` is
`9223372036854776000`. -/
theorem two_pow_63_lt_shortest_of_le (h : 2 ^ 63 ≤ x.toRat) (tie : Tie) :
    2 ^ 63 < (x.shortest tie).toRat := by
  rcases lt_or_eq_of_le h with hlt | heq
  · exact two_pow_63_lt_shortest hlt tie
  · have hmagnitude : x.magnitude = (ofMagnitude false 0x43e0000000000000).magnitude :=
      (magnitude_of_toRat_eq heq.symm).trans (by decide)
    have hshortest : (ofMagnitude false 0x43e0000000000000).shortest tie =
        ⟨9223372036854776, 3⟩ := by
      cases tie <;> decide +kernel
    rw [shortest_congr hmagnitude, hshortest, Decimal.toRat]
    norm_num

end Point

end Double

end RecordForms
