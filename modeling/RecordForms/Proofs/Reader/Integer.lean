import RecordForms.Proofs.Number.Spelling
import RecordForms.Proofs.Reader.Number

/-!
# What the rule for whole numbers takes

A rule that succeeds has taken characters from the beginning of the text that was left.  Those that
the rule for whole numbers takes spell a number, and one letter may stand after them.

## Main definitions

* `Cursor.Takes c d cs`: from `c` to `d` the characters `cs` are taken
* `IsIntegerToken cs`: a spelling of a number, and one letter after it perhaps

## Main results

* `Cursor.Takes.charsTo`: the text between two places is what was taken
* `takes_of_integer`: what the rule for whole numbers takes is a spelling of a number
-/

namespace RecordForms.Reader

open Number

/-- Whether the characters `cs` are taken from `c` to `d`. -/
structure Cursor.Takes (c d : Cursor) (cs : List Char) : Prop where
  /-- The characters stand at the first place, and what is left at the second stands after them. -/
  rest : c.rest = cs ++ d.rest
  /-- The second place is as many characters on. -/
  drop : d = c.drop cs.length

variable {c d e : Cursor} {cs letters : List Char} {isDigit : Char → Bool}

namespace Cursor.Takes

theorem nil (c : Cursor) : c.Takes c [] :=
  ⟨rfl, rfl⟩

theorem trans {as bs : List Char} (h : c.Takes d as) (h' : d.Takes e bs) :
    c.Takes e (as ++ bs) := by
  constructor
  · rw [h.rest, h'.rest, List.append_assoc]
  · rw [h'.drop, h.drop, Cursor.drop_drop, List.length_append]

/-- The text between two places is what was taken. -/
theorem charsTo (h : c.Takes d cs) : c.charsTo d = cs := by
  have hle : cs.length ≤ c.rest.length := by
    rw [h.rest, List.length_append]
    omega
  rw [h.drop, Cursor.charsTo_drop hle, h.rest, List.take_left]

/-- Moving on takes the characters on the way. -/
theorem of_drop {n : Nat} (h : n ≤ c.rest.length) : c.Takes (c.drop n) (c.rest.take n) := by
  constructor
  · rw [Cursor.rest_drop, List.take_append_drop]
  · rw [List.length_take, Nat.min_eq_left h]

end Cursor.Takes

/-! ### The parts of a number -/

theorem takes_of_eat {lead : String} {u : Unit} (h : Parse.eat lead c = some (u, d)) :
    c.Takes d lead.toList := by
  rw [Parse.eat] at h
  split at h
  · rename_i hsees
    obtain ⟨rest, hrest⟩ := List.isPrefixOf_iff_prefix.mp hsees
    obtain rfl : c.drop lead.length = d := congrArg Prod.snd (Option.some.inj h)
    have hlength : lead.length = lead.toList.length := String.length_toList.symm
    have htake : c.rest.take lead.length = lead.toList := by
      rw [← hrest, hlength, List.take_left]
    have hle : lead.length ≤ c.rest.length := by
      rw [← hrest, hlength, List.length_append]
      omega
    have htakes := Cursor.Takes.of_drop hle
    rwa [htake] at htakes
  · cases h

theorem takes_of_anyOf {u : Unit} (h : Parse.anyOf letters c = some (u, d)) :
    ∃ l ∈ letters, c.Takes d [l] := by
  unfold Parse.anyOf at h
  split at h
  · rename_i l rest hrest
    split at h
    · rename_i hmem
      obtain rfl : c.step = d := congrArg Prod.snd (Option.some.inj h)
      refine ⟨l, List.contains_iff_mem.mp hmem, ?_, rfl⟩
      rw [Cursor.rest_step, hrest, List.drop_one, List.tail_cons, List.singleton_append]
    · cases h
  · cases h

theorem takes_of_attempt_anyOf {o : Option Unit}
    (h : Parse.attempt (Parse.anyOf letters) c = some (o, d)) :
    c.Takes d [] ∨ ∃ l ∈ letters, c.Takes d [l] := by
  cases hletter : Parse.anyOf letters c with
  | none =>
    rw [run_attempt_none hletter] at h
    obtain rfl : c = d := congrArg Prod.snd (Option.some.inj h)
    exact .inl (.nil c)
  | some r =>
    rw [run_attempt_some hletter] at h
    obtain rfl : r.2 = d := congrArg Prod.snd (Option.some.inj h)
    exact .inr (takes_of_anyOf hletter)

theorem takes_of_some? {n : Nat} {u : Unit} (hle : n ≤ c.rest.length)
    (h : Parse.some? n c = some (u, d)) : n ≠ 0 ∧ c.Takes d (c.rest.take n) := by
  rw [Parse.some?] at h
  split at h
  · cases h
  · rename_i hne
    obtain rfl : c.drop n = d := congrArg Prod.snd (Option.some.inj h)
    exact ⟨hne, .of_drop hle⟩

/-! ### Digits -/

theorem digitsLength_le (wasDigit : Bool) (cs : List Char) :
    digitsLength wasDigit cs ≤ cs.length := by
  induction cs generalizing wasDigit with
  | nil => exact Nat.le_refl 0
  | cons c cs ih =>
    rw [digitsLength, List.length_cons]
    split
    · exact Nat.succ_le_succ (ih true)
    · split
      · exact Nat.succ_le_succ (ih false)
      · exact Nat.zero_le _

/-- The characters that count as digits in base ten. -/
theorem forall_mem_take_digitsLength (wasDigit : Bool) (cs : List Char) :
    ∀ c ∈ cs.take (digitsLength wasDigit cs), c.isDigit ∨ c = '_' := by
  induction cs generalizing wasDigit with
  | nil => exact List.forall_mem_nil _
  | cons c cs ih =>
    rw [digitsLength]
    split
    · rename_i hdigit
      exact List.forall_mem_cons.mpr ⟨.inl hdigit, ih true⟩
    · split
      · rename_i hgroup
        rw [Bool.and_eq_true, decide_eq_true_eq] at hgroup
        exact List.forall_mem_cons.mpr ⟨.inr hgroup.1, ih false⟩
      · exact List.forall_mem_nil _

/-- Digits in base ten begin with a digit. -/
theorem exists_take_digitsLength_eq (h : digitsLength false cs ≠ 0) :
    ∃ d ds, d.isDigit ∧ cs.take (digitsLength false cs) = d :: ds := by
  cases cs with
  | nil => exact absurd rfl h
  | cons d cs =>
    by_cases hdigit : d.isDigit
    · refine ⟨d, cs.take (digitsLength true cs), hdigit, ?_⟩
      rw [digitsLength, if_pos hdigit, List.take_succ_cons]
    · rw [digitsLength, if_neg hdigit, Bool.and_false, if_neg Bool.false_ne_true] at h
      exact absurd rfl h

theorem groupedLength_le (isDigit : Char → Bool) (cs : List Char) :
    groupedLength isDigit cs ≤ cs.length := by
  fun_induction groupedLength isDigit cs with
  | case1 c cs _ ih => exact Nat.add_le_add_right ih 2
  | case2 c cs _ => exact Nat.zero_le _
  | case3 c cs _ _ ih => exact Nat.add_le_add_right ih 1
  | case4 c cs _ _ => exact Nat.zero_le _
  | case5 => exact Nat.le_refl 0

/-- The characters that count as digits in a base. -/
theorem forall_mem_take_groupedLength (isDigit : Char → Bool) (cs : List Char) :
    ∀ c ∈ cs.take (groupedLength isDigit cs), isDigit c ∨ c = '_' := by
  fun_induction groupedLength isDigit cs with
  | case1 c cs hdigit ih =>
    exact List.forall_mem_cons.mpr ⟨.inr rfl, List.forall_mem_cons.mpr ⟨.inl hdigit, ih⟩⟩
  | case2 c cs _ => exact List.forall_mem_nil _
  | case3 c cs _ hdigit ih => exact List.forall_mem_cons.mpr ⟨.inl hdigit, ih⟩
  | case4 c cs _ _ => exact List.forall_mem_nil _
  | case5 => exact List.forall_mem_nil _

/-- Among the characters that count as digits in a base there is a digit. -/
theorem exists_mem_take_groupedLength (h : groupedLength isDigit cs ≠ 0) :
    ∃ c ∈ cs.take (groupedLength isDigit cs), isDigit c := by
  fun_induction groupedLength isDigit cs with
  | case1 c cs hdigit _ => exact ⟨c, List.mem_cons_of_mem _ List.mem_cons_self, hdigit⟩
  | case2 c cs _ => exact absurd rfl h
  | case3 c cs _ hdigit _ => exact ⟨c, List.mem_cons_self, hdigit⟩
  | case4 c cs _ _ => exact absurd rfl h
  | case5 => exact absurd rfl h

/-! ### Whole numbers -/

/-- A spelling of a number, and one letter after it perhaps. -/
def IsIntegerToken (cs : List Char) : Prop :=
  ∃ n digits suffix, IsSpelling n digits ∧ cs = digits ++ suffix ∧
    (suffix = [] ∨ ∃ l ∈ ['l', 'L', 'j', 'J'], suffix = [l])

/-- Digits are taken, and then a letter if there is one. -/
theorem Cursor.Takes.isIntegerToken {n : Nat} {o : Option Unit} (hdigits : c.Takes d cs)
    (hspelling : IsSpelling n cs) (hletters : letters ⊆ ['l', 'L', 'j', 'J'])
    (hsuffix : Parse.attempt (Parse.anyOf letters) d = some (o, e)) :
    ∃ cs, c.Takes e cs ∧ IsIntegerToken cs := by
  rcases takes_of_attempt_anyOf hsuffix with hnone | ⟨l, hl, hletter⟩
  · exact ⟨_, hdigits.trans hnone, n, cs, [], hspelling, rfl, .inl rfl⟩
  · exact ⟨_, hdigits.trans hletter, n, cs, [l], hspelling, rfl, .inr ⟨l, hletters hl, rfl⟩⟩

theorem takes_of_decimal {u : Unit} (h : Parse.decimal c = some (u, d)) :
    ∃ cs, c.Takes d cs ∧ IsIntegerToken cs := by
  rw [Parse.decimal, run_bind] at h
  obtain ⟨⟨_, c₁⟩, hdigits, h⟩ := Option.bind_eq_some_iff.mp h
  rw [run_bind] at h
  obtain ⟨⟨_, c₂⟩, hsuffix, h⟩ := Option.bind_eq_some_iff.mp h
  obtain rfl : c₂ = d := congrArg Prod.snd (Option.some.inj h)
  obtain ⟨hne, hfirst⟩ := takes_of_some? (digitsLength_le false c.rest) hdigits
  -- the digits, of which the first one is no underscore
  obtain ⟨l, ls, hl, hcs⟩ := exists_take_digitsLength_eq hne
  have hall := forall_mem_take_digitsLength false c.rest
  rw [hcs] at hfirst hall
  obtain ⟨ds, hds, -⟩ := exists_areDigits (fun _ => exists_digit_of_isDigit) hall
  have hgroup : l ≠ '_' := by
    rintro rfl
    cases hl
  exact hfirst.isIntegerToken (.decimal hgroup hds) (List.Subset.refl _) hsuffix

theorem takes_of_based {base : Nat} {u : Unit}
    (hletters : letters.all fun l => baseOf? l = some base)
    (hisDigit : ∀ c, isDigit c → ∃ d < base, c.toLower = Nat.digitChar d)
    (h : Parse.based letters isDigit c = some (u, d)) : ∃ cs, c.Takes d cs ∧ IsIntegerToken cs := by
  rw [Parse.based, run_bind] at h
  obtain ⟨⟨_, c₁⟩, hzero, h⟩ := Option.bind_eq_some_iff.mp h
  rw [run_bind] at h
  obtain ⟨⟨_, c₂⟩, hletter, h⟩ := Option.bind_eq_some_iff.mp h
  rw [run_bind, run_here, Option.bind_some, run_bind] at h
  obtain ⟨⟨_, c₃⟩, hdigits, h⟩ := Option.bind_eq_some_iff.mp h
  rw [run_bind] at h
  obtain ⟨⟨_, c₄⟩, hsuffix, h⟩ := Option.bind_eq_some_iff.mp h
  obtain rfl : c₄ = d := congrArg Prod.snd (Option.some.inj h)
  -- the zero, the letter, and the digits
  obtain ⟨letter, hmem, hletter⟩ := takes_of_anyOf hletter
  obtain ⟨hne, hdigits⟩ := takes_of_some? (groupedLength_le isDigit c₂.rest) hdigits
  obtain ⟨ds, hds, hsome⟩ :=
    exists_areDigits hisDigit (forall_mem_take_groupedLength isDigit c₂.rest)
  have hbase : baseOf? letter = some base :=
    of_decide_eq_true (List.all_eq_true.mp hletters letter hmem)
  have hspelling := IsSpelling.based hbase
    (hsome (exists_mem_take_groupedLength hne)) hds
  have hfirst := ((takes_of_eat hzero).trans hletter).trans hdigits
  exact hfirst.isIntegerToken hspelling (List.subset_append_left ['l', 'L'] ['j', 'J']) hsuffix

/-- **The rule for whole numbers takes a spelling of a number**, and one letter after it perhaps. -/
theorem takes_of_integer {u : Unit} (h : Parse.integer c = some (u, d)) :
    ∃ cs, c.Takes d cs ∧ IsIntegerToken cs := by
  rw [Parse.integer, run_orElse, run_orElse, run_orElse, Option.or_eq_some_iff,
    Option.or_eq_some_iff, Option.or_eq_some_iff] at h
  rcases h with h | ⟨-, h | ⟨-, h | ⟨-, h⟩⟩⟩
  · exact takes_of_based (by decide) (fun _ => exists_digit_of_isHex) h
  · exact takes_of_based (by decide) (fun _ => exists_digit_of_isOctal) h
  · exact takes_of_based (by decide) (fun _ => exists_digit_of_isBinary) h
  · exact takes_of_decimal h

end RecordForms.Reader
