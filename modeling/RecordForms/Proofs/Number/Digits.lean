import RecordForms.Number.Digits

/-!
# Digits and back

Reading a number inverts writing it, for naturals without a bound, for the integers of 64 bits and
for bytes in base sixteen.

## Main definitions

* `IsDigits`, `IsPointed`: digits, and digits on both sides of a point
* `IsNumeral`: the spellings of numbers without a sign

## Main results

* `ofDigits?_decimal`: the decimal digits of a natural number spell it
* `decimalInt_injective`: different integers have different digits
* `int64OfDecimal?_decimalInt`: the decimal digits of a 64-bit integer spell it, with its sign
* `ofSignedDigits?_hexPair`: the two digits of a byte in base sixteen spell it
-/

namespace RecordForms.Number

/-- Decimal digits, of which there is at least one. -/
def IsDigits (cs : List Char) : Prop :=
  cs ≠ [] ∧ ∀ c ∈ cs, c.isDigit

/-- Digits on both sides of a point. -/
def IsPointed (cs : List Char) : Prop :=
  ∃ ds es, IsDigits ds ∧ IsDigits es ∧ cs = ds ++ '.' :: es

/-- The spellings of numbers without a sign and without an exponent. -/
def IsNumeral (cs : List Char) : Prop :=
  IsDigits cs ∨ IsPointed cs

theorem isDigit_of_mem_decimal {n : Nat} {c : Char} (h : c ∈ decimal n) : c.isDigit :=
  Nat.isDigit_of_mem_toDigits (by decide) (by decide) h

theorem decimal_ne_nil (n : Nat) : decimal n ≠ [] :=
  Nat.toDigits_ne_nil

theorem isDigits_decimal (n : Nat) : IsDigits (decimal n) :=
  ⟨decimal_ne_nil n, fun _ => isDigit_of_mem_decimal⟩

theorem IsDigits.notMem {cs : List Char} (h : IsDigits cs) {c : Char} (hc : ¬ c.isDigit) :
    c ∉ cs :=
  fun hmem => hc (h.2 c hmem)

/-- There is no point among digits. -/
theorem IsDigits.contains_point {cs : List Char} (h : IsDigits cs) : cs.contains '.' = false := by
  rw [List.contains_eq_mem, decide_eq_false (h.notMem (by decide))]

theorem IsPointed.contains_point {cs : List Char} (h : IsPointed cs) : cs.contains '.' = true := by
  obtain ⟨ds, es, -, -, rfl⟩ := h
  simp

theorem IsPointed.notMem {cs : List Char} (h : IsPointed cs) {c : Char} (hc : ¬ c.isDigit)
    (hpoint : c ≠ '.') : c ∉ cs := by
  obtain ⟨ds, es, hds, hes, rfl⟩ := h
  rw [List.mem_append, List.mem_cons]
  rintro (hmem | rfl | hmem)
  · exact hds.notMem hc hmem
  · exact hpoint rfl
  · exact hes.notMem hc hmem

theorem IsDigits.append {ds es : List Char} (hds : IsDigits ds) (hes : IsDigits es) :
    IsDigits (ds ++ es) :=
  ⟨List.append_ne_nil_of_left_ne_nil hds.1 es, List.forall_mem_append.mpr ⟨hds.2, hes.2⟩⟩

/-- A numeral begins with a digit. -/
theorem IsNumeral.exists_cons {cs : List Char} (h : IsNumeral cs) :
    ∃ d tail, cs = d :: tail ∧ d.isDigit := by
  rcases h with ⟨hne, hcs⟩ | ⟨ds, es, ⟨hne, hds⟩, -, rfl⟩
  · obtain ⟨d, tail, rfl⟩ := List.exists_cons_of_ne_nil hne
    exact ⟨d, tail, rfl, hcs d List.mem_cons_self⟩
  · obtain ⟨d, tail, rfl⟩ := List.exists_cons_of_ne_nil hne
    exact ⟨d, tail ++ '.' :: es, rfl, hds d List.mem_cons_self⟩

theorem toNat_lt_of_isDigit {c : Char} (h : c.isDigit) : c.toNat - '0'.toNat < 10 := by
  have hle : c.toNat ≤ 57 := (Char.isDigit_iff_toNat.mp h).2
  change c.toNat - 48 < 10
  omega

theorem readDigits_eq_ofDigitChars {cs : List Char} (h : ∀ c ∈ cs, c.isDigit) (acc : Nat) :
    readDigits 10 acc cs = some (Nat.ofDigitChars 10 cs acc) := by
  induction cs generalizing acc with
  | nil => simp [readDigits]
  | cons c cs ih =>
    have hc := h c List.mem_cons_self
    rw [readDigits, digitValue?, if_pos hc, Nat.ofDigitChars_cons]
    simp only [toNat_lt_of_isDigit hc, if_true]
    rw [ih fun d hd => h d (List.mem_cons_of_mem c hd), Nat.mul_comm]

theorem IsDigits.exists_ofDigits? {cs : List Char} (h : IsDigits cs) :
    ∃ n, ofDigits? 10 cs = some n := by
  have hne : ¬ cs.isEmpty := by simpa using h.1
  exact ⟨_, by rw [ofDigits?, if_neg hne, readDigits_eq_ofDigitChars h.2]⟩

theorem ofDigits?_decimal (n : Nat) : ofDigits? 10 (decimal n) = some n := by
  have hne : ¬ (decimal n).isEmpty := by
    simpa using decimal_ne_nil n
  rw [ofDigits?, if_neg hne, readDigits_eq_ofDigitChars fun c hc => isDigit_of_mem_decimal hc]
  exact congrArg some (Nat.ofDigitChars_toDigits (by decide) (by decide))

theorem decimal_injective {m n : Nat} (h : decimal m = decimal n) : m = n := by
  have hm := ofDigits?_decimal m
  rw [h, ofDigits?_decimal, Option.some.injEq] at hm
  exact hm.symm

/-- The digits of an integer are those of its magnitude, after a minus if it is negative. -/
theorem decimalInt_eq (n : Int) :
    decimalInt n = (if n < 0 then ['-'] else []) ++ decimal n.natAbs := by
  cases n with
  | ofNat m =>
    have hneg : ¬ Int.ofNat m < 0 := by simp
    rw [decimalInt, if_neg hneg, List.nil_append]
    rfl
  | negSucc m =>
    rw [decimalInt, if_pos (Int.negSucc_lt_zero m)]
    rfl

theorem notMem_decimalInt {n : Int} {c : Char} (hdigit : ¬ c.isDigit) (hminus : c ≠ '-') :
    c ∉ decimalInt n := by
  rw [decimalInt_eq, List.mem_append]
  rintro (hmem | hmem)
  · split at hmem
    · exact hminus (List.mem_singleton.mp hmem)
    · cases hmem
  · exact (isDigits_decimal n.natAbs).notMem hdigit hmem

theorem decimalInt_injective {m n : Int} (h : decimalInt m = decimalInt n) : m = n := by
  -- no digit is a minus
  have hhead (k : Nat) (cs : List Char) : decimal k ≠ '-' :: cs := fun heq =>
    (isDigits_decimal k).notMem (c := '-') (by decide) (heq ▸ List.mem_cons_self)
  cases m with
  | ofNat m =>
    cases n with
    | ofNat n => exact congrArg Int.ofNat (decimal_injective h)
    | negSucc n => exact absurd h (hhead m _)
  | negSucc m =>
    cases n with
    | ofNat n => exact absurd h.symm (hhead n _)
    | negSucc n =>
      have hdigits := decimal_injective (List.cons.inj h).2
      rw [Nat.succ.inj hdigits]

theorem readDigits_eq_none {c : Char} (h : ¬ c.isDigit) (acc : Nat) (cs : List Char) :
    readDigits 10 acc (c :: cs) = none := by
  rw [readDigits, digitValue?, if_neg h]
  by_cases hlower : ('a' ≤ c && c ≤ 'f') = true
  · simp only [hlower, if_true]
    exact if_neg (by omega)
  · by_cases hupper : ('A' ≤ c && c ≤ 'F') = true
    · simp only [hlower, hupper, if_true, if_false, Bool.false_eq_true]
      exact if_neg (by omega)
    · simp [hlower, hupper]

theorem int64?_eq_some {n : Int} (hmin : Int64.minValue.toInt ≤ n)
    (hmax : n ≤ Int64.maxValue.toInt) : int64? n = some (Int64.ofInt n) := by
  rw [int64?, decide_eq_true hmin, decide_eq_true hmax, Bool.and_self, if_pos rfl]

theorem int64?_eq_none_of_lt {n : Int} (h : Int64.maxValue.toInt < n) : int64? n = none := by
  rw [int64?, decide_eq_false (by omega : ¬ n ≤ Int64.maxValue.toInt), Bool.and_false,
    if_neg Bool.false_ne_true]

theorem int64?_toInt (n : Int64) : int64? n.toInt = some n := by
  rw [int64?_eq_some n.minValue_le_toInt n.toInt_le, Int64.ofInt_toInt]

theorem int64OfDecimal?_of_isDigit {cs : List Char} (h : ∀ c ∈ cs, c.isDigit) :
    int64OfDecimal? cs = (ofDigits? 10 cs).bind fun n => int64? n := by
  unfold int64OfDecimal?
  split
  · exact absurd (h '-' List.mem_cons_self) (by decide)
  · exact absurd (h '+' List.mem_cons_self) (by decide)
  · rfl

/-- The decimal digits of a 64-bit integer spell it, the least one included. -/
theorem int64OfDecimal?_decimalInt (n : Int64) : int64OfDecimal? (decimalInt n.toInt) = some n := by
  have hfits := int64?_toInt n
  cases hn : n.toInt with
  | ofNat m =>
    rw [hn, Int.ofNat_eq_natCast] at hfits
    rw [decimalInt, int64OfDecimal?_of_isDigit fun c hc => isDigit_of_mem_decimal hc,
      ofDigits?_decimal, Option.bind_some, hfits]
  | negSucc m =>
    rw [hn, Int.negSucc_eq] at hfits
    rw [decimalInt, int64OfDecimal?, ofDigits?_decimal, Option.bind_some, Int.natCast_add_one,
      hfits]

/-- A word that begins with neither a digit nor a sign is no integer. -/
theorem int64OfDecimal?_eq_none {c : Char} (hdigit : ¬ c.isDigit) (hminus : c ≠ '-')
    (hplus : c ≠ '+') (cs : List Char) : int64OfDecimal? (c :: cs) = none := by
  unfold int64OfDecimal?
  split
  · rename_i h
    exact absurd (List.cons.inj h).1 hminus
  · rename_i h
    exact absurd (List.cons.inj h).1 hplus
  · rw [ofDigits?, readDigits_eq_none hdigit]
    simp

/-! ### Base sixteen -/

theorem digitValue?_digitChar : ∀ d < 16, digitValue? (Nat.digitChar d) = some d := by
  decide

theorem digitChar_ne_plus : ∀ d < 16, Nat.digitChar d ≠ '+' := by
  decide

/-- The two digits of a byte in base sixteen spell it. -/
theorem ofSignedDigits?_hexPair {n : Nat} (h : n < 256) :
    ofSignedDigits? 16 (hexPair n) = some n := by
  have hhigh : n / 16 % 16 < 16 := Nat.mod_lt _ (by decide)
  have hlow : n % 16 < 16 := Nat.mod_lt _ (by decide)
  have hread : ofSignedDigits? 16 (hexPair n) = ofDigits? 16 (hexPair n) := by
    -- a plus would stand before the digits
    unfold ofSignedDigits?
    split
    · rename_i hplus
      exact absurd (List.cons.inj hplus).1 (digitChar_ne_plus _ hhigh)
    · rfl
  rw [hread, ofDigits?, hexPair, if_neg (by simp)]
  simp only [readDigits, digitValue?_digitChar _ hhigh, digitValue?_digitChar _ hlow, hhigh, hlow,
    if_true, Option.some.injEq]
  omega

end RecordForms.Number
