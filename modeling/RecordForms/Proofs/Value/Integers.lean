import RecordForms.Proofs.Number.Spelling
import RecordForms.Proofs.Reader.Integer
import RecordForms.Proofs.Tree.Literal
import RecordForms.Proofs.Value.StringLiteral

/-!
# Whole numbers are read exactly

A whole number is read from its spelling by dropping the underscores, making the letters small, and
telling the base from what the spelling begins with.  What is read is the number that is spelled, in
64 bits, or nothing if it does not fit.

## Main results

* `Value.readInt?_eq_of_isSpelling`: a spelling is read as the number that it spells, if that fits
* `Value.readInt?_eq_none_of_mem`: a spelling with one more letter is not read
* `Value.readInt?_of_isSpelling`: every spelling, and every token for a whole number
-/

namespace RecordForms.Value

open Number Reader

variable {n : Nat} {cs : List Char}

/-- What a spelling with a letter for its base is read as: what its digits are in that base. -/
theorem readInt?_based {letter : Char} {base : Nat} {ds : List Char}
    (hbase : baseOf? letter = some base) (hds : (ungrouped cs).map Char.toLower = ds) :
    readInt? ('0' :: letter :: cs) =
      ((ofDigits? base ds).bind fun n => int64? n).map int := by
  rw [ungrouped] at hds
  obtain ⟨hletter, rfl⟩ | ⟨hletter, rfl⟩ | ⟨hletter, rfl⟩ := of_baseOf? hbase
  all_goals
    rw [List.mem_cons, List.mem_singleton] at hletter
    rcases hletter with rfl | rfl <;> rw [← hds] <;> rfl

/-- A spelling is read as the number that it spells, if that fits in 64 bits. -/
theorem readInt?_eq_of_isSpelling (h : IsSpelling n cs) : readInt? cs = (int64? n).map int := by
  cases h with
  | @decimal c ds cs hc h =>
    have hne : ds ≠ [] := by
      rintro rfl
      cases h
      exact hc rfl
    have hcs := h.map_toLower (by decide)
    have hdigits : ∀ d ∈ ds.map Nat.digitChar, d.isDigit := by
      rw [List.forall_mem_map]
      exact fun d hd => isDigit_digitChar (h.forall_lt d hd)
    rw [readInt?_of_isDigit hcs hdigits, ofDigits?_map_digitChar (by decide) hne h.forall_lt,
      Option.bind_some]
  | @based letter base ds cs hbase hne h =>
    have hle : base ≤ 16 := by
      obtain ⟨-, rfl⟩ | ⟨-, rfl⟩ | ⟨-, rfl⟩ := of_baseOf? hbase <;> decide
    rw [readInt?_based hbase (h.map_toLower hle), ofDigits?_map_digitChar hle hne h.forall_lt,
      Option.bind_some]

/-- Whatever is read is read as digits in some base, after characters that name the base. -/
theorem exists_readInt?_eq (cs : List Char) : ∃ lead base ds,
    (ungrouped cs).map Char.toLower = lead ++ ds ∧ lead ⊆ ['0', 'x', 'o', 'b'] ∧
      readInt? cs = ((ofDigits? base ds).bind fun n => int64? n).map int := by
  unfold readInt?
  dsimp only
  split
  · rename_i ds hds
    exact ⟨['0', 'x'], 16, ds, hds, by simp, rfl⟩
  · rename_i ds hds
    exact ⟨['0', 'o'], 8, ds, hds, by simp, rfl⟩
  · rename_i ds hds
    exact ⟨['0', 'b'], 2, ds, hds, by simp, rfl⟩
  · exact ⟨[], 10, _, rfl, List.nil_subset _, rfl⟩

/-- What has a letter of a long or an imaginary number in it is not read. -/
theorem readInt?_eq_none_of_mem {l : Char} (hl : l ∈ ['l', 'L', 'j', 'J']) (h : l ∈ cs) :
    readInt? cs = .none := by
  have hletters : ['l', 'L', 'j', 'J'].all fun l =>
      l != '_' && !Text.isHex l.toLower && !(['0', 'x', 'o', 'b'].contains l.toLower) := by decide
  obtain ⟨⟨hgroup, hhex⟩, hother⟩ :
      (l ≠ '_' ∧ ¬ Text.isHex l.toLower) ∧ l.toLower ∉ ['0', 'x', 'o', 'b'] := by
    simpa using List.all_eq_true.mp hletters l hl
  have hlower : l.toLower ∈ (ungrouped cs).map Char.toLower :=
    List.mem_map_of_mem (List.mem_filter.mpr ⟨h, decide_eq_true hgroup⟩)
  -- The letter names no base, so it stands among the digits, and it is a digit of no base.
  obtain ⟨lead, base, ds, hcs, hlead, hread⟩ := exists_readInt?_eq cs
  rw [hcs] at hlower
  have hmem : l.toLower ∈ ds :=
    (List.mem_append.mp hlower).resolve_left fun hmem => hother (hlead hmem)
  have hnone : ofDigits? base ds = .none := by
    rw [Option.eq_none_iff_forall_ne_some]
    exact fun n hn => hhex (isHex_of_ofDigits? hn _ hmem)
  rw [hread, hnone, Option.bind_none, Option.map_none]

theorem readInt?_of_le (h : IsSpelling n cs) (hn : n ≤ 2 ^ 63 - 1) :
    ∃ m : Int64, m.toInt = n ∧ readInt? cs = some (int m) := by
  have hmin : Int64.minValue.toInt ≤ (n : Int) := by
    rw [Int64.toInt_minValue]
    omega
  have hmax : (n : Int) ≤ Int64.maxValue.toInt := by
    rw [Int64.toInt_maxValue]
    omega
  refine ⟨Int64.ofInt n, Int64.toInt_ofInt_of_le (by omega) (by omega), ?_⟩
  rw [readInt?_eq_of_isSpelling h, int64?_eq_some hmin hmax, Option.map_some]

theorem readInt?_of_lt (h : IsSpelling n cs) (hn : 2 ^ 63 - 1 < n) : readInt? cs = .none := by
  have hmax : Int64.maxValue.toInt < (n : Int) := by
    rw [Int64.toInt_maxValue]
    omega
  rw [readInt?_eq_of_isSpelling h, int64?_eq_none_of_lt hmax, Option.map_none]

/-- **Whole numbers are read exactly or not at all.**  Every spelling of a natural number is read as
that number if it fits in 64 bits, and not read otherwise; and each token that the rule for whole
numbers takes is either not read, or spells the number that it is read as. -/
theorem readInt?_of_isSpelling :
    (∀ n cs, IsSpelling n cs →
      (n ≤ 2 ^ 63 - 1 → ∃ m : Int64, m.toInt = n ∧ readInt? cs = some (int m)) ∧
      (2 ^ 63 - 1 < n → readInt? cs = .none)) ∧
    ∀ c d, Parse.integer c = some ((), d) →
      readInt? (c.charsTo d) = .none ∨ ∃ (n : Nat) (m : Int64),
        IsSpelling n (c.charsTo d) ∧ m.toInt = n ∧ readInt? (c.charsTo d) = some (int m) := by
  refine ⟨fun n cs h => ⟨readInt?_of_le h, readInt?_of_lt h⟩, ?_⟩
  intro c d h
  obtain ⟨cs, htakes, n, digits, suffix, hspelling, rfl, hsuffix⟩ := takes_of_integer h
  rw [htakes.charsTo]
  rcases hsuffix with rfl | ⟨l, hl, rfl⟩
  · rw [List.append_nil]
    rcases Nat.lt_or_ge (2 ^ 63 - 1) n with hlt | hle
    · exact .inl (readInt?_of_lt hspelling hlt)
    · obtain ⟨m, hm, hread⟩ := readInt?_of_le hspelling hle
      exact .inr ⟨n, m, hspelling, hm, hread⟩
  · have hmem : l ∈ digits ++ [l] := List.mem_append_right digits (List.mem_singleton_self l)
    exact .inl (readInt?_eq_none_of_mem hl hmem)

/-- Letters of either case and an underscore, the least number that does not fit, and a token. -/
theorem readInt?_of_isSpelling_hex :
    IsSpelling 255 ['0', 'X', 'f', '_', 'F'] ∧
      (∃ m : Int64, m.toInt = 255 ∧ readInt? ['0', 'X', 'f', '_', 'F'] = some (int m)) ∧
      IsSpelling (2 ^ 63) ('0' :: 'x' :: (8 :: List.replicate 15 0).map Nat.digitChar) ∧
      readInt? ('0' :: 'x' :: (8 :: List.replicate 15 0).map Nat.digitChar) = .none ∧
      Parse.integer (.ofString "10_0") = some ((), (Cursor.ofString "10_0").drop 4) ∧
      (readInt? ((Cursor.ofString "10_0").charsTo ((Cursor.ofString "10_0").drop 4)) = .none ∨
        ∃ (n : Nat) (m : Int64),
          IsSpelling n ((Cursor.ofString "10_0").charsTo ((Cursor.ofString "10_0").drop 4)) ∧
          m.toInt = n ∧
          readInt? ((Cursor.ofString "10_0").charsTo ((Cursor.ofString "10_0").drop 4)) =
            some (int m)) := by
  have hdigits : AreDigits 16 [15, 15] ['f', '_', 'F'] :=
    .digit (by decide) (by decide) (.underscore (.digit (by decide) (by decide) .nil))
  have hfits : IsSpelling 255 ['0', 'X', 'f', '_', 'F'] := .based rfl (by decide) hdigits
  have hplaces : AreDigits 16 (8 :: List.replicate 15 0)
      ((8 :: List.replicate 15 0).map Nat.digitChar) :=
    areDigits_map_digitChar (by decide) (by decide)
  have hlarge : IsSpelling (2 ^ 63) ('0' :: 'x' :: (8 :: List.replicate 15 0).map Nat.digitChar) :=
    .based rfl (by decide) hplaces
  have htoken : Parse.integer (.ofString "10_0") = some ((), (Cursor.ofString "10_0").drop 4) := rfl
  obtain ⟨hspelling, hread⟩ := readInt?_of_isSpelling
  exact ⟨hfits, (hspelling _ _ hfits).1 (by decide), hlarge, (hspelling _ _ hlarge).2 (by decide),
    htoken, hread _ _ htoken⟩

end RecordForms.Value
