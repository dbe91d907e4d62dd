import Mathlib.Data.Nat.Digits.Defs
import Mathlib.Tactic.Ring
import RecordForms.Proofs.Number.Digits
import RecordForms.Text.CharClass

/-!
# Spellings of natural numbers

A natural number is spelled by its digits in base ten, or by a zero, a letter that names another
base, and its digits in that base.  Letters are of either case, there may be zeros in front, and
underscores may stand anywhere after the first digit or the letter.

## Main definitions

* `AreDigits base ds cs`: the characters `cs` are the digits `ds` in a base, with underscores among
  them
* `baseOf? letter`: the base that a letter names
* `IsSpelling n cs`: the characters `cs` spell the number `n`

## Main results

* `AreDigits.map_toLower`: the characters that digits are, without underscores and letter case
* `ofDigits?_map_digitChar`: the number that digits make
* `exists_areDigits`: characters that are digits or underscores are digits
-/

namespace RecordForms.Number

/-- Whether the characters `cs` are the digits `ds` in a base, of either letter case, with
underscores anywhere among them. -/
inductive AreDigits (base : Nat) : List Nat → List Char → Prop
  | nil : AreDigits base [] []
  | digit {d : Nat} {c : Char} {ds : List Nat} {cs : List Char} (hd : d < base)
      (hc : c.toLower = Nat.digitChar d) (h : AreDigits base ds cs) :
      AreDigits base (d :: ds) (c :: cs)
  | underscore {ds : List Nat} {cs : List Char} (h : AreDigits base ds cs) :
      AreDigits base ds ('_' :: cs)

/-- The base that the letter after a zero names. -/
def baseOf? : Char → Option Nat
  | 'x' | 'X' => some 16
  | 'o' | 'O' => some 8
  | 'b' | 'B' => some 2
  | _ => none

/-- Whether the characters `cs` spell the number `n`.  The digits of a number stand with the most
significant one first. -/
inductive IsSpelling : Nat → List Char → Prop
  | decimal {c : Char} {ds : List Nat} {cs : List Char} (hc : c ≠ '_')
      (h : AreDigits 10 ds (c :: cs)) : IsSpelling (Nat.ofDigits 10 ds.reverse) (c :: cs)
  | based {letter : Char} {base : Nat} {ds : List Nat} {cs : List Char}
      (hbase : baseOf? letter = some base) (hne : ds ≠ []) (h : AreDigits base ds cs) :
      IsSpelling (Nat.ofDigits base ds.reverse) ('0' :: letter :: cs)

variable {base d : Nat} {c : Char} {ds : List Nat} {cs : List Char}

theorem of_baseOf? {letter : Char} (h : baseOf? letter = some base) :
    (letter ∈ ['x', 'X'] ∧ base = 16) ∨ (letter ∈ ['o', 'O'] ∧ base = 8) ∨
      (letter ∈ ['b', 'B'] ∧ base = 2) := by
  unfold baseOf? at h
  split at h
  · exact .inl ⟨by decide, (Option.some.inj h).symm⟩
  · exact .inl ⟨by decide, (Option.some.inj h).symm⟩
  · exact .inr (.inl ⟨by decide, (Option.some.inj h).symm⟩)
  · exact .inr (.inl ⟨by decide, (Option.some.inj h).symm⟩)
  · exact .inr (.inr ⟨by decide, (Option.some.inj h).symm⟩)
  · exact .inr (.inr ⟨by decide, (Option.some.inj h).symm⟩)
  · cases h

/-! ### The characters of digits -/

theorem ne_underscore_of_digit (hd : d < 16) (hc : c.toLower = Nat.digitChar d) : c ≠ '_' := by
  have hdigits : ∀ d < 16, Nat.digitChar d ≠ '_' := by decide
  rintro rfl
  exact hdigits d hd hc.symm

theorem isDigit_digitChar (hd : d < 10) : (Nat.digitChar d).isDigit := by
  have hdigits : ∀ d < 10, (Nat.digitChar d).isDigit := by decide
  exact hdigits d hd

namespace AreDigits

theorem forall_lt (h : AreDigits base ds cs) : ∀ d ∈ ds, d < base := by
  induction h with
  | nil => nofun
  | digit hd _ _ ih => exact List.forall_mem_cons.mpr ⟨hd, ih⟩
  | underscore _ ih => exact ih

/-- Without underscores and letter case the characters are those of the digits. -/
theorem map_toLower (hbase : base ≤ 16) (h : AreDigits base ds cs) :
    (cs.filter (· ≠ '_')).map Char.toLower = ds.map Nat.digitChar := by
  induction h with
  | nil => rfl
  | digit hd hc _ ih =>
    have hne := ne_underscore_of_digit (Nat.lt_of_lt_of_le hd hbase) hc
    rw [List.filter_cons, if_pos (decide_eq_true hne), List.map_cons, List.map_cons, hc, ih]
  | underscore _ ih =>
    rw [List.filter_cons, if_neg (by decide)]
    exact ih

end AreDigits

/-- Digits as they are usually written. -/
theorem areDigits_map_digitChar (hbase : base ≤ 16) (h : ∀ d ∈ ds, d < base) :
    AreDigits base ds (ds.map Nat.digitChar) := by
  have hlower : ∀ d < 16, (Nat.digitChar d).toLower = Nat.digitChar d := by decide
  induction ds with
  | nil => exact .nil
  | cons d ds ih =>
    obtain ⟨hd, hds⟩ := List.forall_mem_cons.mp h
    exact .digit hd (hlower d (Nat.lt_of_lt_of_le hd hbase)) (ih hds)

/-! ### The number that digits make -/

theorem readDigits_map_digitChar (hbase : base ≤ 16) (h : ∀ d ∈ ds, d < base) (acc : Nat) :
    readDigits base acc (ds.map Nat.digitChar) =
      some (acc * base ^ ds.length + Nat.ofDigits base ds.reverse) := by
  -- Along the digits: what has been read so far is moved up by one place for each of them.
  induction ds generalizing acc with
  | nil => simp [readDigits]
  | cons d ds ih =>
    obtain ⟨hd, hds⟩ := List.forall_mem_cons.mp h
    have hvalue := digitValue?_digitChar d (Nat.lt_of_lt_of_le hd hbase)
    rw [List.map_cons, readDigits, hvalue]
    dsimp only
    rw [if_pos hd, ih hds, List.reverse_cons, Nat.ofDigits_append, Nat.ofDigits_singleton,
      List.length_reverse, List.length_cons]
    congr 1
    ring

/-- Digits make the number that they are the digits of. -/
theorem ofDigits?_map_digitChar (hbase : base ≤ 16) (hne : ds ≠ []) (h : ∀ d ∈ ds, d < base) :
    ofDigits? base (ds.map Nat.digitChar) = some (Nat.ofDigits base ds.reverse) := by
  have hempty : ¬ (ds.map Nat.digitChar).isEmpty := by simpa using hne
  rw [ofDigits?, if_neg hempty, readDigits_map_digitChar hbase h, Nat.zero_mul, Nat.zero_add]

/-! ### Characters that are digits -/

/-- Characters that follow each other as the digits do. -/
theorem exists_digit_of_bounds (low first count : Nat)
    (hall : ∀ d < count, (Char.ofNat (low + d)).toLower = Nat.digitChar (first + d))
    (hlow : low ≤ c.toNat) (hhigh : c.toNat < low + count) :
    ∃ d < first + count, c.toLower = Nat.digitChar d := by
  have hd : c.toNat - low < count := by omega
  refine ⟨first + (c.toNat - low), by omega, ?_⟩
  rw [← hall _ hd, Nat.add_sub_cancel' hlow, Char.ofNat_toNat]

theorem exists_digit_of_isDigit (h : c.isDigit) : ∃ d < 10, c.toLower = Nat.digitChar d := by
  have hlow : 48 ≤ c.toNat := (Char.isDigit_iff_toNat.mp h).1
  have hhigh : c.toNat ≤ 57 := (Char.isDigit_iff_toNat.mp h).2
  exact exists_digit_of_bounds 48 0 10 (by decide) hlow (Nat.lt_succ_of_le hhigh)

theorem exists_digit_of_isHex (h : Text.isHex c) : ∃ d < 16, c.toLower = Nat.digitChar d := by
  simp only [Text.isHex, Bool.or_eq_true, Bool.and_eq_true, decide_eq_true_eq] at h
  rcases h with (hdigit | hsmall) | hcapital
  · obtain ⟨d, hd, hc⟩ := exists_digit_of_isDigit hdigit
    exact ⟨d, Nat.lt_trans hd (by decide), hc⟩
  · have hlow : 97 ≤ c.toNat := hsmall.1
    have hhigh : c.toNat ≤ 102 := hsmall.2
    exact exists_digit_of_bounds 97 10 6 (by decide) hlow (Nat.lt_succ_of_le hhigh)
  · have hlow : 65 ≤ c.toNat := hcapital.1
    have hhigh : c.toNat ≤ 70 := hcapital.2
    exact exists_digit_of_bounds 65 10 6 (by decide) hlow (Nat.lt_succ_of_le hhigh)

theorem exists_digit_of_isOctal (h : Text.isOctal c) : ∃ d < 8, c.toLower = Nat.digitChar d := by
  simp only [Text.isOctal, Bool.and_eq_true, decide_eq_true_eq] at h
  have hlow : 48 ≤ c.toNat := h.1
  have hhigh : c.toNat ≤ 55 := h.2
  exact exists_digit_of_bounds 48 0 8 (by decide) hlow (Nat.lt_succ_of_le hhigh)

theorem exists_digit_of_isBinary (h : Text.isBinary c) : ∃ d < 2, c.toLower = Nat.digitChar d := by
  simp only [Text.isBinary, Bool.or_eq_true, beq_iff_eq] at h
  rcases h with rfl | rfl
  · exact ⟨0, by decide, by decide⟩
  · exact ⟨1, by decide, by decide⟩

/-- Characters that are digits or underscores are digits, and there is one among these if one of the
characters is a digit. -/
theorem exists_areDigits {p : Char → Bool}
    (hp : ∀ c, p c → ∃ d < base, c.toLower = Nat.digitChar d) (h : ∀ c ∈ cs, p c ∨ c = '_') :
    ∃ ds, AreDigits base ds cs ∧ ((∃ c ∈ cs, p c) → ds ≠ []) := by
  induction cs with
  | nil => exact ⟨[], .nil, by simp⟩
  | cons c cs ih =>
    obtain ⟨hc, hcs⟩ := List.forall_mem_cons.mp h
    obtain ⟨ds, hds, hne⟩ := ih hcs
    by_cases hdigit : p c
    · obtain ⟨d, hd, heq⟩ := hp c hdigit
      exact ⟨d :: ds, .digit hd heq hds, fun _ => List.cons_ne_nil d ds⟩
    · obtain rfl := hc.resolve_left hdigit
      refine ⟨ds, .underscore hds, ?_⟩
      rintro ⟨e, he, hpe⟩
      rcases List.mem_cons.mp he with rfl | he
      · exact absurd hpe hdigit
      · exact hne ⟨e, he, hpe⟩

end RecordForms.Number
