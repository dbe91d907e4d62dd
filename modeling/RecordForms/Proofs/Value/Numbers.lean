import Mathlib.Data.List.TakeWhile
import RecordForms.Proofs.Number.Shortest
import RecordForms.Proofs.Reader.Number
import RecordForms.Proofs.Tree.Literal

/-!
# The text of a number

What a number's text is read as.  An integer is read from its text, except the least one, since its
digits without the minus do not fit in 64 bits.  The text of a float has a point, and is read as a
float, except that of a whole number from `10 ^ 16` on: such a number is written with all its
digits and nothing else, as an integer is.

## Main definitions

* `Double.IsWholeFrom x n`: the magnitude of `x` is a whole number, and at least `n`
* `Value.magnitudeText x`: the text of a finite number without its sign

## Main results

* `Value.isPointed_magnitudeText`, `Value.magnitudeText_of_isWholeFrom`: the two forms of that text
* `Value.operand?_int`, `Value.operand?_float`: the operand that the text of a number is
* `Value.literal?_operand?_int`: which integers are read from their texts
* `Value.mem_text_float_iff`: which floats are read as floats
-/

namespace RecordForms

/-- The magnitude of a finite number is whole, and at least `n`. -/
def Double.IsWholeFrom (x : Double) (n : ℕ) : Prop :=
  ∃ m ∈ x.wholePart?, n ≤ m

instance (x : Double) (n : ℕ) : Decidable (x.IsWholeFrom n) :=
  inferInstanceAs (Decidable (∃ m ∈ x.wholePart?, n ≤ m))

namespace Value

open Number Reader

/-! ### Integers -/

/-- The text of an integer is an operand: its digits, with a minus before them if it is negative. -/
theorem operand?_int (n : Int64) : operand? (chars (int n)) = some (intExpr n) := by
  have hneg : decide (n.toInt < 0) = decide (n < 0) :=
    decide_eq_decide.mpr (by rw [Int64.lt_iff_toInt_lt, Int64.toInt_zero])
  have hread := operand?_numeral (.inl (isDigits_decimal n.toInt.natAbs)) (n.toInt < 0)
  simp only [decide_eq_true_eq] at hread
  rw [chars_int, decimalInt_eq, hread, intExpr, hneg]

/-- **An integer is read from its text, unless it is the least one.**  The text is read as its
digits, with an opposite around them if the number is negative; the digits of the least number do
not fit in 64 bits, although with their sign they would. -/
theorem literal?_operand?_int (n : Int64) :
    ∃ e, operand? (chars (int n)) = some e ∧
      e = signed (n < 0) (literal "integer" (readInt? (decimal n.toInt.natAbs))
        (decimal n.toInt.natAbs)) ∧
      (e.literal? = some (int n) ↔ n ≠ Int64.minValue) := by
  refine ⟨intExpr n, operand?_int n, ?_, ?_⟩
  · rw [intExpr, numeral_of_isDigits (isDigits_decimal n.toInt.natAbs)]
  · refine ⟨?_, literal?_intExpr⟩
    rintro hread rfl
    rw [literal?_intExpr_minValue] at hread
    cases hread

/-- The text of the least integer is not read as that integer. -/
theorem literal?_operand?_minValue :
    ¬ ∃ e, operand? (chars (int Int64.minValue)) = some e ∧
      e.literal? = some (int Int64.minValue) := by
  rintro ⟨e, he, hread⟩
  rw [operand?_int, Option.some.injEq] at he
  rw [← he, literal?_intExpr_minValue] at hread
  cases hread

/-! ### The two forms of a float -/

/-- The text of a finite number without its sign. -/
def magnitudeText (x : Double) : List Char :=
  match x.wholePart? with
  | some n => if n < Nat.pow 10 16 then decimal n ++ ".0".toList else (x.shortest .up).positional
  | .none => (x.shortest .up).positional

variable {x : Double}

theorem floatText_eq (hx : x.isFinite) :
    floatText x = (if x.isNegative then ['-'] else []) ++ magnitudeText x := by
  have hlt : x.magnitude < Double.infinityBits := of_decide_eq_true hx
  have hnan : x.isNaN = false := decide_eq_false (Nat.not_lt.mpr hlt.le)
  have hinfinite : x.isInfinite = false := beq_eq_false_iff_ne.mpr hlt.ne
  rw [floatText, hnan, hinfinite, if_neg Bool.false_ne_true, if_neg Bool.false_ne_true,
    magnitudeText]
  cases x.wholePart? with
  | none => rfl
  | some n =>
    dsimp only
    split
    · rw [List.append_assoc]
    · rfl

/-- What is not whole, or below `10 ^ 16`, is written with a point. -/
theorem isPointed_magnitudeText (hx : x.isFinite) (h : ¬ x.IsWholeFrom (10 ^ 16)) :
    IsPointed (magnitudeText x) := by
  unfold magnitudeText
  split
  · rename_i n hn
    have hlt : n < Nat.pow 10 16 := Nat.lt_of_not_le fun hle => h ⟨n, hn, hle⟩
    rw [if_pos hlt]
    exact ⟨decimal n, ['0'], isDigits_decimal n, isDigits_decimal 0, rfl⟩
  · rename_i hnone
    refine Decimal.isPointed_positional (Double.exponent_shortest_neg (fun n hn => ?_) .up)
    rw [← Double.wholePart?_eq_some_iff hx, hnone] at hn
    cases hn

/-- A whole number from `10 ^ 16` on is written as digits only: those of a number that is on the
same side of `2 ^ 63`. -/
theorem magnitudeText_of_isWholeFrom (hx : x.isFinite) (h : x.IsWholeFrom (10 ^ 16)) :
    ∃ n : ℕ, magnitudeText x = decimal n ∧ 0 < n ∧ n ≠ 2 ^ 63 ∧
      (n < 2 ^ 63 ↔ ¬ x.IsWholeFrom (2 ^ 63)) := by
  obtain ⟨m, hm, hle⟩ := h
  have hvalue := (Double.wholePart?_eq_some_iff hx).mp hm
  have hlarge : 10 ^ 16 ≤ x.toRat := by
    rw [hvalue]
    exact_mod_cast hle
  have hpos : 0 < x.significand := Double.significand_pos_of_toRat_pos (by linarith)
  obtain ⟨k, hk⟩ := Int.eq_ofNat_of_zero_le (Double.exponent_shortest_nonneg hlarge .up)
  have hdigits := Double.digits_shortest_pos hpos .up
  have hnatural := Decimal.toRat_eq_natCast hk
  -- The whole part and the shortest decimal are on the same side of `2 ^ 63`.
  have hwhole : x.IsWholeFrom (2 ^ 63) ↔ 2 ^ 63 ≤ m :=
    ⟨fun ⟨l, hl, hle⟩ => by rwa [Option.some.inj (hm.symm.trans hl)], fun hle => ⟨m, hm, hle⟩⟩
  refine ⟨(x.shortest .up).digits * 10 ^ k, ?_, Nat.mul_pos hdigits (by positivity), ?_⟩
  · rw [magnitudeText, hm]
    dsimp only
    rw [if_neg (by rw [Nat.pow_eq]; omega), Decimal.positional_eq_decimal hdigits hk]
  rw [hwhole, Nat.not_le]
  rcases Nat.lt_or_ge m (2 ^ 63) with hlt | hge
  · have hbelow := Double.shortest_lt_two_pow_63 (by linarith)
      (by rw [hvalue]; exact_mod_cast hlt) .up
    rw [hnatural] at hbelow
    have hbelow : (x.shortest .up).digits * 10 ^ k < 2 ^ 63 := by exact_mod_cast hbelow
    exact ⟨hbelow.ne, iff_of_true hbelow hlt⟩
  · have habove := Double.two_pow_63_lt_shortest_of_le
      (by rw [hvalue]; exact_mod_cast hge) .up
    rw [hnatural] at habove
    have habove : 2 ^ 63 < (x.shortest .up).digits * 10 ^ k := by exact_mod_cast habove
    exact ⟨habove.ne', iff_of_false habove.not_gt (Nat.not_lt.mpr hge)⟩

theorem isNumeral_magnitudeText (hx : x.isFinite) : IsNumeral (magnitudeText x) := by
  by_cases h : x.IsWholeFrom (10 ^ 16)
  · obtain ⟨n, hn, -⟩ := magnitudeText_of_isWholeFrom hx h
    exact .inl (hn ▸ isDigits_decimal n)
  · exact .inr (isPointed_magnitudeText hx h)

/-! ### Floats -/

/-- The text of a finite number is an operand: its digits, with a minus before them if the number is
negative. -/
theorem operand?_float (hx : x.isFinite) :
    operand? (chars (float x)) = some (signed x.isNegative (numeral (magnitudeText x))) := by
  rw [chars_float, floatText_eq hx, operand?_numeral (isNumeral_magnitudeText hx)]

theorem read?_of_isPointed {cs : List Char} (h : IsPointed cs) :
    ∃ y, Double.read? cs = some y := by
  obtain ⟨ds, es, hds, hes, rfl⟩ := h
  obtain ⟨n, hn⟩ := (hds.append hes).exists_ofDigits?
  have hpoint : ¬ ('.').isDigit := by decide
  refine ⟨Double.ofDecimal false n (0 - es.length), ?_⟩
  rw [Double.read?, List.takeWhile_append_of_pos hds.2, List.dropWhile_append_of_pos hds.2,
    List.takeWhile_cons_of_neg hpoint, List.dropWhile_cons_of_neg hpoint, List.append_nil]
  simp only [List.takeWhile_eq_self_iff.mpr hes.2, List.dropWhile_eq_nil_iff.mpr hes.2, hn]

/-- Digits with a point among them are a decimal number. -/
theorem readFloat?_of_isPointed {cs : List Char} (h : IsPointed cs) :
    ∃ y, readFloat? cs = some (float y) := by
  obtain ⟨y, hy⟩ := read?_of_isPointed h
  have hungrouped : ungrouped cs = cs := ungrouped_eq_self (h.notMem (by decide) (by decide))
  obtain ⟨ds, es, -, hes, rfl⟩ := h
  -- the last character is a digit, and no sign of an imaginary number
  obtain ⟨e, he⟩ := Option.isSome_iff_exists.mp (List.getLast?_isSome.mpr hes.1)
  have hlast : (ds ++ '.' :: es).getLast? = some e := by
    rw [List.getLast?_append, List.getLast?_cons, he, Option.getD_some, Option.some_or]
  have hdigit : e.isDigit := hes.2 e (List.mem_of_getLast? he)
  refine ⟨y, ?_⟩
  unfold readFloat?
  rw [hlast]
  split
  · rename_i heq
    cases heq
    cases hdigit
  · rename_i heq
    cases heq
    cases hdigit
  · rw [hungrouped, hy, Option.map_some]

theorem literal?_signed_float (isNegative : Bool) (y : Double) :
    ∃ z, (signed isNegative (.constant (float y))).literal? = some (float z) := by
  cases isNegative with
  | false => exact ⟨y, rfl⟩
  | true => exact ⟨y.negate, rfl⟩

/-- Digits without a point are read as no float. -/
theorem literal?_signed_ne_float (isNegative : Bool) (n : ℕ) (y : Double) :
    (signed isNegative (numeral (decimal n))).literal? ≠ some (float y) := by
  rw [numeral_of_isDigits (isDigits_decimal n), readInt?_decimal_eq]
  intro h
  cases hn : int64? n with
  | none =>
    rw [hn] at h
    cases isNegative <;> cases h
  | some m =>
    rw [hn, Option.map_some, literal] at h
    cases isNegative with
    | false => cases h
    | true =>
      rw [signed, if_pos rfl, Expr.literal?, Expr.literal?] at h
      dsimp only at h
      split at h <;> cases h

/-- A float is read from its text as a float just if the text has a point. -/
theorem exists_operand?_float_iff (hx : x.isFinite) :
    (∃ e y, operand? (chars (float x)) = some e ∧ e.literal? = some (float y)) ↔
      ¬ x.IsWholeFrom (10 ^ 16) := by
  rw [operand?_float hx]
  constructor
  · rintro ⟨e, y, he, hread⟩ hwhole
    obtain ⟨n, hn, -⟩ := magnitudeText_of_isWholeFrom hx hwhole
    rw [Option.some.injEq] at he
    rw [← he, hn] at hread
    exact literal?_signed_ne_float x.isNegative n y hread
  · intro h
    have hpointed := isPointed_magnitudeText hx h
    obtain ⟨y, hy⟩ := readFloat?_of_isPointed hpointed
    obtain ⟨z, hz⟩ := literal?_signed_float x.isNegative y
    refine ⟨_, z, rfl, ?_⟩
    rw [numeral, hpointed.contains_point, if_pos rfl, hy, literal, hz]

/-- A whole number from `10 ^ 16` on has the text of an integer. -/
theorem chars_float_of_isWholeFrom (hx : x.isFinite) (h : x.IsWholeFrom (10 ^ 16)) :
    ∃ n : ℤ, chars (float x) = decimalInt n ∧ n.natAbs ≠ 2 ^ 63 ∧
      (n.natAbs < 2 ^ 63 ↔ ¬ x.IsWholeFrom (2 ^ 63)) := by
  obtain ⟨n, hn, hpos, hrest⟩ := magnitudeText_of_isWholeFrom hx h
  have habs : (if x.isNegative then -(n : ℤ) else n).natAbs = n := by
    split <;> omega
  refine ⟨if x.isNegative then -(n : ℤ) else n, ?_, by rwa [habs]⟩
  rw [chars_float, floatText_eq hx, hn, decimalInt_eq, habs]
  -- the integer has a minus just as the float has, since it is not zero
  congr 1
  cases x.isNegative with
  | false => simp
  | true => simp [hpos]

theorem point_mem_chars_float (hx : x.isFinite) (h : ¬ x.IsWholeFrom (10 ^ 16)) :
    '.' ∈ chars (float x) := by
  have hpoint := (isPointed_magnitudeText hx h).contains_point
  rw [List.contains_eq_mem, decide_eq_true_eq] at hpoint
  rw [chars_float, floatText_eq hx]
  exact List.mem_append_right _ hpoint

/-- The floats whose texts are texts of integers. -/
theorem exists_chars_float_eq_iff (hx : x.isFinite) :
    (∃ n : Int64, chars (float x) = chars (int n)) ↔
      x.IsWholeFrom (10 ^ 16) ∧ ¬ x.IsWholeFrom (2 ^ 63) := by
  constructor
  · rintro ⟨n, hn⟩
    -- the text of an integer has no point
    have hwhole : x.IsWholeFrom (10 ^ 16) := by
      by_contra h
      have hpoint := point_mem_chars_float hx h
      rw [hn, chars_int] at hpoint
      exact notMem_decimalInt (by decide) (by decide) hpoint
    -- and only one integer has it, of which the magnitude is at most `2 ^ 63`
    obtain ⟨m, hm, hne, hlt⟩ := chars_float_of_isWholeFrom hx hwhole
    refine ⟨hwhole, hlt.mp ?_⟩
    rw [hm, chars_int] at hn
    have hmin := n.minValue_le_toInt
    have hmax := n.toInt_le
    rw [decimalInt_injective hn] at hne ⊢
    rw [Int64.toInt_minValue] at hmin
    rw [Int64.toInt_maxValue] at hmax
    omega
  · rintro ⟨hwhole, hbelow⟩
    obtain ⟨m, hm, -, hlt⟩ := chars_float_of_isWholeFrom hx hwhole
    have hfits := hlt.mpr hbelow
    refine ⟨Int64.ofInt m, ?_⟩
    rw [hm, chars_int, Int64.toInt_ofInt_of_le (by omega) (by omega)]

/-- **Which finite floats are read as floats**: all but the whole numbers from `10 ^ 16` on.
Exactly those have neither a point nor an exponent in their texts, and below `2 ^ 63` their texts
are texts of integers. -/
theorem mem_text_float_iff (hx : x.isFinite) :
    ((∃ c ∈ (float x).text.toList, c = '.' ∨ c = 'e' ∨ c = 'E') ↔ ¬ x.IsWholeFrom (10 ^ 16)) ∧
      ((∃ e y, operand? (float x).text.toList = some e ∧ e.literal? = some (float y)) ↔
        ¬ x.IsWholeFrom (10 ^ 16)) ∧
      ((∃ n : Int64, (float x).text = (int n).text) ↔
        x.IsWholeFrom (10 ^ 16) ∧ ¬ x.IsWholeFrom (2 ^ 63)) := by
  simp only [text, String.toList_ofList, String.ofList_inj]
  refine ⟨⟨?_, fun h => ⟨'.', point_mem_chars_float hx h, .inl rfl⟩⟩,
    exists_operand?_float_iff hx, exists_chars_float_eq_iff hx⟩
  rintro ⟨c, hmem, hc⟩ hwhole
  obtain ⟨n, hn, -⟩ := chars_float_of_isWholeFrom hx hwhole
  rw [hn] at hmem
  refine notMem_decimalInt ?_ ?_ hmem
  · rcases hc with rfl | rfl | rfl <;> decide
  · rcases hc with rfl | rfl | rfl <;> decide

/-- A quarter is written with a point, is read as a float, and has not the text of any integer. -/
theorem mem_text_float_iff_quarter :
    Double.isFinite ⟨0x3fd0000000000000⟩ ∧
      (∃ c ∈ (float ⟨0x3fd0000000000000⟩).text.toList, c = '.' ∨ c = 'e' ∨ c = 'E') ∧
      (∃ e y, operand? (float ⟨0x3fd0000000000000⟩).text.toList = some e ∧
        e.literal? = some (float y)) ∧
      ¬ ∃ n : Int64, (float ⟨0x3fd0000000000000⟩).text = (int n).text := by
  have hx : Double.isFinite ⟨0x3fd0000000000000⟩ := by decide
  have hwhole : ¬ Double.IsWholeFrom ⟨0x3fd0000000000000⟩ (10 ^ 16) := by decide +kernel
  obtain ⟨hmark, hread, hint⟩ := mem_text_float_iff hx
  exact ⟨hx, hmark.mpr hwhole, hread.mpr hwhole, fun h => hwhole (hint.mp h).1⟩

/-- The float `10 ^ 16` has the text of the integer `10 ^ 16`. -/
theorem text_float_eq_text_int : Double.isFinite ⟨0x4341c37937e08000⟩ ∧
    (float ⟨0x4341c37937e08000⟩).text = (int 10000000000000000).text := by
  refine ⟨by decide, ?_⟩
  decide +kernel

end Value

end RecordForms
