import Mathlib.Algebra.Order.Field.Power
import Mathlib.Algebra.Order.Field.Rat
import Mathlib.Tactic.Linarith
import Mathlib.Tactic.NormNum
import Mathlib.Tactic.Positivity
import Mathlib.Tactic.Ring
import RecordForms.Number.Double

/-!
# Doubles as rational numbers

The magnitude of a finite double is a rational number: its significand times a power of two.  Half
of that power is the distance up to which numbers above the double round to it.

## Main definitions

* `Double.toRat x`: the magnitude of a finite double
* `Double.halfGap x`: half of the distance to the next double

## Main results

* `Double.wholePart?_eq_some_iff`: the whole part that is computed is the magnitude
* `Double.toRat_lt`, `Double.two_mul_halfGap_le_toRat`: a double is at least one and less than
  `2 ^ 53` distances from zero
* `Double.exists_exponent_eq`: from `2 ^ 53` on, doubles are even numbers
* `Double.magnitude_of_toRat_eq`: the bits of `2 ^ 63`
-/

namespace RecordForms

/-- An integral power as a quotient of natural numbers, one of which is one. -/
theorem zpow_eq_div (b : ℕ) (k : ℤ) :
    (b : ℚ) ^ k = ((if 0 ≤ k then b ^ k.toNat else 1 : ℕ) : ℚ) /
      ((if 0 ≤ k then 1 else b ^ (-k).toNat : ℕ) : ℚ) := by
  by_cases hk : 0 ≤ k
  · obtain ⟨n, rfl⟩ := Int.eq_ofNat_of_zero_le hk
    simp
  · obtain ⟨n, hn⟩ : ∃ n : ℕ, k = -(n : ℤ) := ⟨(-k).toNat, by omega⟩
    subst hn
    rw [if_neg hk, if_neg hk, neg_neg, Int.toNat_natCast, zpow_neg, zpow_natCast, Nat.cast_one,
      Nat.cast_pow, one_div]

namespace Double

variable {x : Double}

/-- The magnitude of a finite number. -/
def toRat (x : Double) : ℚ :=
  x.significand * 2 ^ x.exponent

theorem toRat_eq_ratio (x : Double) : x.toRat = x.ratio.1 / x.ratio.2 := by
  have hpow := zpow_eq_div 2 x.exponent
  rw [Nat.cast_two] at hpow
  rw [toRat, hpow, ratio]
  split <;> simp [Nat.shiftLeft_eq, div_eq_mul_inv]

theorem wholePart?_eq_some_iff (h : x.isFinite) {n : ℕ} :
    x.wholePart? = some n ↔ x.toRat = n := by
  have hden : x.ratio.2 ≠ 0 := by
    rw [ratio]
    split <;> simp [Nat.shiftLeft_eq]
  have hdenQ : (x.ratio.2 : ℚ) ≠ 0 := Nat.cast_ne_zero.mpr hden
  -- both sides say that the numerator is `n` times the denominator
  rw [toRat_eq_ratio, div_eq_iff hdenQ]
  norm_cast
  have hwhole : x.wholePart? =
      if x.ratio.1 % x.ratio.2 = 0 then some (x.ratio.1 / x.ratio.2) else none := by
    simp [wholePart?, h]
  rw [hwhole]
  constructor
  · intro hw
    split at hw
    · rename_i hmod
      rw [Option.some.injEq] at hw
      rw [← hw, Nat.div_mul_cancel (Nat.dvd_of_mod_eq_zero hmod)]
    · cases hw
  · intro hw
    rw [hw, Nat.mul_mod_left, if_pos rfl, Nat.mul_div_cancel _ (Nat.pos_of_ne_zero hden)]

theorem significand_lt (x : Double) : x.significand < 2 * hiddenBit := by
  unfold significand hiddenBit
  split
  · omega
  · omega

/-- A significand without its leading bit has the least exponent. -/
theorem exponent_eq_of_significand_lt (h : x.significand < hiddenBit) :
    x.exponent = -1074 := by
  unfold significand hiddenBit at h
  unfold exponent hiddenBit
  split at h
  · omega
  · omega

theorem toRat_pos (h : 0 < x.significand) : 0 < x.toRat :=
  mul_pos (Nat.cast_pos.mpr h) (zpow_pos (by norm_num) _)

theorem significand_pos_of_toRat_pos (h : 0 < x.toRat) : 0 < x.significand := by
  refine Nat.pos_of_ne_zero fun hzero => ?_
  rw [toRat, hzero, Nat.cast_zero, zero_mul] at h
  exact lt_irrefl 0 h

/-- A double with a non-negative exponent is a whole number. -/
theorem exists_toRat_eq_natCast {e : ℕ} (he : x.exponent = e) :
    x.toRat = (x.significand * 2 ^ e : ℕ) := by
  rw [toRat, he, zpow_natCast]
  push_cast
  rfl

/-! ### Distances -/

/-- Half of the distance to the number above. -/
def halfGap (x : Double) : ℚ :=
  2 ^ (x.exponent - 1)

theorem halfGap_pos (x : Double) : 0 < x.halfGap :=
  zpow_pos (by norm_num) _

theorem zpow_sub_one_eq (e : ℤ) : (2 : ℚ) ^ (e - 1) = 2 * 2 ^ (e - 2) := by
  rw [show e - 1 = 1 + (e - 2) by ring, zpow_add₀ (by norm_num), zpow_one]

theorem zpow_eq_four_mul (e : ℤ) : (2 : ℚ) ^ e = 4 * 2 ^ (e - 2) := by
  rw [show e = 2 + (e - 2) by ring, zpow_add₀ (by norm_num)]
  norm_num

theorem zpow_exponent (x : Double) : (2 : ℚ) ^ x.exponent = 2 * x.halfGap := by
  rw [halfGap, zpow_eq_four_mul, zpow_sub_one_eq]
  ring

theorem toRat_lt (x : Double) : x.toRat < 2 ^ 54 * x.halfGap := by
  have hlt : (x.significand : ℚ) < 2 ^ 53 := by
    exact_mod_cast x.significand_lt
  have hgap := x.halfGap_pos
  calc x.toRat = x.significand * (2 * x.halfGap) := by rw [toRat, zpow_exponent]
    _ < 2 ^ 53 * (2 * x.halfGap) := mul_lt_mul_of_pos_right hlt (by linarith)
    _ = 2 ^ 54 * x.halfGap := by ring

theorem two_mul_halfGap_le_toRat (h : 0 < x.significand) : 2 * x.halfGap ≤ x.toRat := by
  have hone : (1 : ℚ) ≤ x.significand := by exact_mod_cast h
  rw [toRat, zpow_exponent]
  exact le_mul_of_one_le_left (by linarith [x.halfGap_pos]) hone

/-! ### Large numbers -/

/-- From `2 ^ 53` on, the doubles are even numbers. -/
theorem exists_exponent_eq (h : 2 ^ 53 ≤ x.toRat) : ∃ e : ℕ, x.exponent = e + 1 := by
  have hlt : (x.significand : ℚ) < 2 ^ 53 := by exact_mod_cast x.significand_lt
  suffices 0 < x.exponent from ⟨(x.exponent - 1).toNat, by omega⟩
  -- otherwise the magnitude is at most the significand
  refine lt_of_not_ge fun hle => ?_
  have hpow : (2 : ℚ) ^ x.exponent ≤ 1 := zpow_le_one_of_nonpos₀ (by norm_num) hle
  have hX : x.toRat ≤ x.significand := by
    rw [toRat]
    exact mul_le_of_le_one_right (Nat.cast_nonneg _) hpow
  linarith

theorem halfGap_eq_natCast {e : ℕ} (he : x.exponent = e + 1) : x.halfGap = (2 ^ e : ℕ) := by
  rw [halfGap, he, add_sub_cancel_right, zpow_natCast]
  push_cast
  rfl

theorem toRat_eq_natCast {e : ℕ} (he : x.exponent = e + 1) :
    x.toRat = (2 * x.significand * 2 ^ e : ℕ) := by
  rw [toRat, zpow_exponent, halfGap_eq_natCast he]
  push_cast
  ring

/-- Even numbers have the leading bit in their significands. -/
theorem hiddenBit_le_significand {e : ℕ} (he : x.exponent = e + 1) :
    hiddenBit ≤ x.significand := by
  refine Nat.le_of_not_lt fun hlt => ?_
  have hleast := exponent_eq_of_significand_lt hlt
  omega

theorem le_of_two_mul_le {m e : ℕ} (hm : 0 < m) (h : 2 * m * 2 ^ e ≤ 2 ^ 63) : e ≤ 62 := by
  have hpow : 2 ^ (e + 1) ≤ 2 ^ 63 := by
    calc 2 ^ (e + 1) = 2 * 2 ^ e := Nat.pow_succ'
      _ ≤ 2 * m * 2 ^ e := Nat.mul_le_mul_right _ (by omega)
      _ ≤ 2 ^ 63 := h
  have hle := (Nat.pow_le_pow_iff_right (a := 2) (by decide)).mp hpow
  omega

theorem two_pow_63_eq {e : ℕ} (he : e ≤ 62) : 2 ^ 63 = 2 * 2 ^ (62 - e) * 2 ^ e := by
  rw [Nat.mul_assoc, ← Nat.pow_add, Nat.sub_add_cancel he, ← Nat.pow_succ']

/-- The bits of `2 ^ 63`. -/
theorem magnitude_of_toRat_eq (h : x.toRat = 2 ^ 63) : x.magnitude = 0x43e0000000000000 := by
  have hpos : 0 < x.significand := significand_pos_of_toRat_pos (by linarith)
  obtain ⟨e, he⟩ := exists_exponent_eq (by linarith)
  have heq : 2 * x.significand * 2 ^ e = 2 ^ 63 := by
    rw [toRat_eq_natCast he] at h
    exact_mod_cast h
  have hlt := x.significand_lt
  have hge := hiddenBit_le_significand he
  rw [hiddenBit] at hlt hge
  -- The significand is a power of two, and of the powers only `2 ^ 52` has fifty-three bits.
  have he10 : e = 10 := by
    have hle := le_of_two_mul_le hpos heq.le
    rw [two_pow_63_eq hle] at heq
    have hm : x.significand = 2 ^ (62 - e) := by
      have := Nat.eq_of_mul_eq_mul_right (by positivity) heq
      omega
    rw [hm] at hlt hge
    have hupper := (Nat.pow_lt_pow_iff_right (a := 2) (by decide)).mp
      (show 2 ^ (62 - e) < 2 ^ 53 by omega)
    have hlower := (Nat.pow_le_pow_iff_right (a := 2) (by decide)).mp
      (show 2 ^ 52 ≤ 2 ^ (62 - e) by omega)
    omega
  have hm : x.significand = 2 ^ 52 := by
    rw [he10] at heq
    omega
  rw [exponent, hiddenBit, he10] at he
  rw [significand, hiddenBit] at hm
  split at hm
  · omega
  · omega

end Double

end RecordForms
