import RecordForms.Json.Parser
import RecordForms.Proofs.Number.Digits

/-!
# JSON numerals and back

What is read as a number is read alike before the end of a value, and an integer of 64 bits, with or
without a sign, is read from its digits.

## Main definitions

* `Json.EndsValue`: the texts that may come after a value inside another
* `Json.Steady`: the readers that a value's end does not disturb

## Main results

* `Json.steady_numeral?`: a number is read alike before the end of a value
* `Json.numeral?_decimalInt`: an integer is read from its digits
-/

namespace RecordForms.Json

open Number

/-- The texts that may come after a value inside another: they begin with a comma or with the
bracket that closes the other. -/
def EndsValue (rest : List Char) : Prop :=
  ∀ c tail, rest = c :: tail → c = ',' ∨ c = ']' ∨ c = '\x7d'

theorem endsValue_nil : EndsValue [] :=
  nofun

theorem endsValue_cons {c : Char} (h : c = ',' ∨ c = ']' ∨ c = '\x7d') (tail : List Char) :
    EndsValue (c :: tail) := by
  rintro d tail ⟨⟩
  exact h

theorem EndsValue.eq_nil_or {rest : List Char} (h : EndsValue rest) :
    rest = [] ∨ ∃ tail, rest = ',' :: tail ∨ rest = ']' :: tail ∨ rest = '\x7d' :: tail := by
  cases rest with
  | nil => exact Or.inl rfl
  | cons c tail => obtain rfl | rfl | rfl := h c tail rfl <;> simp

/-! ### Before the end of a value -/

/-- A reader that reads the same whether the text is over or a value ends there. -/
def Steady {α : Type} (read : List Char → Option (α × List Char)) : Prop :=
  ∀ ⦃rest⦄, EndsValue rest → ∀ cs, read (cs ++ rest) = (read cs).map fun p => (p.1, p.2 ++ rest)

theorem steady_some {α : Type} (a : α) : Steady fun cs => some (a, cs) :=
  fun _ _ _ => rfl

namespace Steady

theorem map {α β : Type} {read : List Char → Option (α × List Char)} (h : Steady read)
    (f : α → β) : Steady fun cs => (read cs).map fun (a, rest) => (f a, rest) := by
  intro rest hrest cs
  simp only [h hrest, Option.map_map]
  rfl

theorem bind {α β : Type} {read : List Char → Option (α × List Char)}
    {next : α → List Char → Option (β × List Char)} (h : Steady read)
    (hnext : ∀ a, Steady (next a)) : Steady fun cs => (read cs).bind fun (a, cs) => next a cs := by
  intro rest hrest cs
  simp only [h hrest]
  cases read cs with
  | none => rfl
  | some p => exact hnext p.1 hrest p.2

end Steady

theorem takeWhile_isDigit_append {rest : List Char} (h : EndsValue rest) (cs : List Char) :
    (cs ++ rest).takeWhile Char.isDigit = cs.takeWhile Char.isDigit := by
  induction cs with
  | nil =>
    obtain rfl | ⟨tail, rfl | rfl | rfl⟩ := h.eq_nil_or <;> rfl
  | cons c cs ih => simp only [List.cons_append, List.takeWhile_cons, ih]

theorem dropWhile_isDigit_append {rest : List Char} (h : EndsValue rest) (cs : List Char) :
    (cs ++ rest).dropWhile Char.isDigit = cs.dropWhile Char.isDigit ++ rest := by
  induction cs with
  | nil =>
    obtain rfl | ⟨tail, rfl | rfl | rfl⟩ := h.eq_nil_or <;> rfl
  | cons c cs ih =>
    simp only [List.cons_append, List.dropWhile_cons, ih]
    split <;> rfl

theorem steady_digits? : Steady digits? := by
  intro rest hrest cs
  simp only [digits?, takeWhile_isDigit_append hrest, dropWhile_isDigit_append hrest]
  split <;> rfl

theorem steady_whole? : Steady whole? := by
  intro rest hrest cs
  simp only [whole?, steady_digits? hrest]
  cases digits? cs with
  | none => rfl
  | some p =>
    obtain ⟨_ | ⟨_ | d, _ | ⟨d', ds⟩⟩, tail⟩ := p <;> rfl

theorem steady_fraction? : Steady fraction? := by
  intro rest hrest cs
  cases cs with
  | nil =>
    obtain rfl | ⟨tail, rfl | rfl | rfl⟩ := hrest.eq_nil_or <;> rfl
  | cons c cs =>
    by_cases hc : c = '.'
    · subst hc
      exact steady_digits? hrest cs
    · simp [fraction?, hc]

theorem signedExponent?_cons {c : Char} (hminus : c ≠ '-') (hplus : c ≠ '+') (cs : List Char) :
    signedExponent? (c :: cs) =
      (digits? (c :: cs)).map fun (ds, rest) => ((ofDigits ds : Int), rest) := by
  rw [signedExponent?]
  · simpa using hminus
  · simpa using hplus

theorem steady_signedExponent? : Steady signedExponent? := by
  intro rest hrest cs
  cases cs with
  | nil =>
    obtain rfl | ⟨tail, rfl | rfl | rfl⟩ := hrest.eq_nil_or <;> rfl
  | cons c cs =>
    by_cases hminus : c = '-'
    · subst hminus
      exact steady_digits?.map (fun ds => -(ofDigits ds : Int)) hrest cs
    by_cases hplus : c = '+'
    · subst hplus
      exact steady_digits?.map (fun ds => (ofDigits ds : Int)) hrest cs
    · rw [List.cons_append, signedExponent?_cons hminus hplus, signedExponent?_cons hminus hplus]
      exact steady_digits?.map (fun ds => (ofDigits ds : Int)) hrest (c :: cs)

theorem steady_exponent? : Steady exponent? := by
  intro rest hrest cs
  cases cs with
  | nil =>
    obtain rfl | ⟨tail, rfl | rfl | rfl⟩ := hrest.eq_nil_or <;> rfl
  | cons c cs =>
    by_cases hlower : c = 'e'
    · subst hlower
      exact steady_signedExponent?.map some hrest cs
    by_cases hupper : c = 'E'
    · subst hupper
      exact steady_signedExponent?.map some hrest cs
    · simp [exponent?, hlower, hupper]

theorem steady_unsigned? (negative : Bool) : Steady (unsigned? negative) := by
  have hparts := steady_whole?.bind fun whole => steady_fraction?.bind fun fraction =>
    steady_exponent?.bind fun exponent => steady_some (Numeral.mk negative whole fraction exponent)
  exact hparts

theorem numeral?_cons {c : Char} (hminus : c ≠ '-') (cs : List Char) :
    numeral? (c :: cs) = unsigned? false (c :: cs) := by
  rw [numeral?]
  simpa using hminus

/-- A number is read alike before the end of a value. -/
theorem steady_numeral? : Steady numeral? := by
  intro rest hrest cs
  cases cs with
  | nil =>
    obtain rfl | ⟨tail, rfl | rfl | rfl⟩ := hrest.eq_nil_or <;> rfl
  | cons c cs =>
    by_cases hminus : c = '-'
    · subst hminus
      exact steady_unsigned? true hrest cs
    · rw [List.cons_append, numeral?_cons hminus, numeral?_cons hminus]
      exact steady_unsigned? false hrest (c :: cs)

/-! ### Integers -/

/-- The digits of a number do not begin with a zero that could be left out. -/
theorem decimal_ne_zero_cons (n : Nat) (c : Char) (cs : List Char) :
    decimal n ≠ '0' :: c :: cs := by
  -- By strong induction: all digits but the last one are those of a smaller number.
  induction n using Nat.strongRecOn generalizing c cs with
  | ind n ih =>
    intro h
    by_cases hn : n < 10
    · simp [decimal, Nat.toDigits_of_lt_base hn] at h
    · have hdigits : decimal n = decimal (n / 10) ++ [Nat.digitChar (n % 10)] :=
        Nat.toDigits_of_base_le (by decide) (by omega)
      rw [hdigits] at h
      match hrest : decimal (n / 10) with
      | [] => exact decimal_ne_nil _ hrest
      | [d] =>
        -- A zero alone would be the digits of zero, but there is something before the last digit.
        have hd : d = '0' := by
          rw [hrest] at h
          exact (List.cons.inj h).1
        have hvalue := ofDigits?_decimal (n / 10)
        rw [hrest, hd] at hvalue
        have hzero : n / 10 = 0 := (Option.some.inj hvalue).symm
        omega
      | d :: d' :: ds =>
        have hd : d = '0' := by
          rw [hrest] at h
          exact (List.cons.inj h).1
        exact ih (n / 10) (by omega) d' ds (hd ▸ hrest)

theorem acc_le_ofDigitChars (cs : List Char) (acc : Nat) : acc ≤ Nat.ofDigitChars 10 cs acc := by
  induction cs generalizing acc with
  | nil => simp
  | cons c cs ih =>
    rw [Nat.ofDigitChars_cons]
    exact Nat.le_trans (by omega) (ih _)

theorem filterMap_digitValue? {cs : List Char} (h : ∀ c ∈ cs, c.isDigit) :
    cs.filterMap digitValue? = cs.map fun c => c.toNat - '0'.toNat := by
  induction cs with
  | nil => rfl
  | cons c cs ih =>
    rw [List.forall_mem_cons] at h
    have hdigit : digitValue? c = some (c.toNat - '0'.toNat) := if_pos h.1
    rw [List.filterMap_cons, hdigit, List.map_cons, ih h.2]

/-- Digits are gathered one by one, and all of them if their number fits. -/
theorem gather_digits {cs : List Char} (h : ∀ c ∈ cs, c.isDigit) {acc : Nat}
    (hfits : Nat.ofDigitChars 10 cs acc < UInt64.size) :
    Numeral.gather acc (cs.filterMap digitValue?) = (Nat.ofDigitChars 10 cs acc, cs.length) := by
  induction cs generalizing acc with
  | nil => simp [Numeral.gather]
  | cons c cs ih =>
    rw [List.forall_mem_cons] at h
    have hdigit : digitValue? c = some (c.toNat - '0'.toNat) := if_pos h.1
    -- The number only grows with more digits, so the first ones fit if all of them do.
    rw [Nat.ofDigitChars_cons] at hfits ⊢
    have hacc := acc_le_ofDigitChars cs (10 * acc + (c.toNat - '0'.toNat))
    rw [List.filterMap_cons, hdigit]
    simp only [Numeral.gather]
    rw [Nat.mul_comm acc, if_pos (by omega), ih h.2 hfits]
    rfl

theorem digits?_decimal (n : Nat) :
    digits? (decimal n) = some ((decimal n).filterMap digitValue?, []) := by
  have hdigits : ∀ c ∈ decimal n, c.isDigit := fun c hc => isDigit_of_mem_decimal hc
  have htake : (decimal n ++ []).takeWhile Char.isDigit = decimal n ++ [] :=
    List.takeWhile_append_of_pos hdigits
  have hdrop : (decimal n ++ []).dropWhile Char.isDigit = [] :=
    List.dropWhile_append_of_pos hdigits
  rw [List.append_nil] at htake hdrop
  simp [digits?, htake, hdrop, decimal_ne_nil]

theorem whole?_decimal (n : Nat) :
    whole? (decimal n) = some ((decimal n).filterMap digitValue?, []) := by
  have hdigits : ∀ c ∈ decimal n, c.isDigit := fun c hc => isDigit_of_mem_decimal hc
  rw [whole?, digits?_decimal]
  split
  · -- Digits are refused only if a zero stands before others.
    rename_i d ds rest h
    rw [Option.some.injEq, Prod.mk.injEq, filterMap_digitValue? hdigits] at h
    obtain ⟨c, cs, hdecimal, hc, hcs⟩ := List.map_eq_cons_iff.mp h.1
    obtain ⟨c', cs', rfl, -⟩ := List.map_eq_cons_iff.mp hcs
    have hzero : c = '0' := by
      have hle := (Char.isDigit_iff_toNat.mp (hdigits c (hdecimal ▸ List.mem_cons_self))).1
      have hge : '0'.toNat = 48 := rfl
      exact Char.toNat_inj.mp (by omega)
    exact absurd (hzero ▸ hdecimal) (decimal_ne_zero_cons n c' cs')
  · rfl

/-- The digits of a number that fits are gathered as a whole number, with its sign. -/
theorem value_decimal {n : Nat} (hfits : n < UInt64.size) {negative : Bool} {i : Int}
    (h : Numeral.integer? negative n = some i) :
    Numeral.value ⟨negative, (decimal n).filterMap digitValue?, [], none⟩ = .int i := by
  have hdigits : ∀ c ∈ decimal n, c.isDigit := fun c hc => isDigit_of_mem_decimal hc
  have hvalue : Nat.ofDigitChars 10 (decimal n) 0 = n :=
    Nat.ofDigitChars_toDigits (by decide) (by decide)
  have hgather := gather_digits hdigits (hvalue.symm ▸ hfits)
  have hlength : ((decimal n).filterMap digitValue?).length = (decimal n).length := by
    rw [filterMap_digitValue? hdigits, List.length_map]
  rw [hvalue] at hgather
  simp [Numeral.value, hgather, hlength, h]

theorem unsigned?_decimal (negative : Bool) (n : Nat) :
    unsigned? negative (decimal n) =
      some (⟨negative, (decimal n).filterMap digitValue?, [], none⟩, []) := by
  rw [unsigned?, whole?_decimal]
  rfl

/-- An integer of 64 bits, with or without a sign, is read from its digits. -/
theorem numeral?_decimalInt {n : Int} (hmin : Int64.minValue.toInt ≤ n) (hmax : n < UInt64.size) :
    ∃ numeral, numeral? (decimalInt n) = some (numeral, []) ∧ numeral.value = .int n := by
  cases n with
  | ofNat n =>
    -- Digits are no minus, so they are read without a sign.
    have hinteger : Numeral.integer? false n = some (Int.ofNat n) := rfl
    refine ⟨_, ?_, value_decimal (Int.ofNat_lt.mp hmax) hinteger⟩
    match hdecimal : decimal n with
    | [] => exact absurd hdecimal (decimal_ne_nil n)
    | c :: cs =>
      have hdigit : c.isDigit := isDigit_of_mem_decimal (hdecimal ▸ List.mem_cons_self)
      have hminus : c ≠ '-' := fun h => absurd (h ▸ hdigit) (by decide)
      rw [decimalInt, hdecimal, numeral?_cons hminus, ← hdecimal, unsigned?_decimal]
  | negSucc n =>
    -- After the minus the digits are those of a positive number, never of a negative zero.
    have hle : -((n + 1 : Nat) : Int) = Int.negSucc n := rfl
    have hbound : Int64.minValue.toInt = -9223372036854775808 := rfl
    have hsize : UInt64.size = 18446744073709551616 := rfl
    refine ⟨_, unsigned?_decimal true (n + 1), value_decimal (by omega) ?_⟩
    have hfits : ¬ ((decide (n + 1 = 0) ||
        decide (-((n + 1 : Nat) : Int) < Int64.minValue.toInt)) = true) := by
      rw [Bool.or_eq_true, decide_eq_true_iff, decide_eq_true_iff]
      omega
    rw [Numeral.integer?, if_neg (by decide), if_neg hfits, hle]

end RecordForms.Json
