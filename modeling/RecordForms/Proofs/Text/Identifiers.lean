import RecordForms.Proofs.Text.Names
import RecordForms.Reader.Grammar

/-!
# Identifiers of a source file

A source file takes its names by the Unicode properties of identifiers, and a text in quotes is read
by letters and digits.  The two agree on how a name may begin, and not on how it may go on: an
identifier may hold marks that are neither letters nor digits.

Whether two long tables of ranges fit together is settled by going through both at once.

## Main definitions

* `isSourceIdentifier`, `isSourcePath`: identifiers of a source file, and identifiers with dots
  between them
* `uncovered as bs`: the ranges of `as` that are not found to lie within one of `bs`

## Main results

* `isSourceIdentifier_nameChars`: the names that are read from a source file are such identifiers
* `isNameStart_of_isIdentifierStart`: what an identifier begins with is a letter or an underscore,
  if it can stand in a name at all
* `isDotted_of_isSourcePath`: a source path whose characters can stand in a name is a dotted name
-/

namespace RecordForms.Text

/-- A character that begins an identifier, and then characters that go on with it. -/
def isSourceIdentifier : List Char → Bool
  | [] => false
  | c :: cs => isIdentifierStart c && cs.all isIdentifierContinue

/-- Identifiers of a source file with dots between them. -/
def isSourcePath (cs : List Char) : Bool :=
  (splitAt '.' cs).all isSourceIdentifier

/-- A name that is read from a source file is an identifier. -/
theorem isSourceIdentifier_nameChars {c : Reader.Cursor} (h : c.nameChars ≠ []) :
    isSourceIdentifier c.nameChars := by
  unfold Reader.Cursor.nameChars at h ⊢
  split at h
  · rename_i d tail hrest
    split at h
    · rename_i hstart
      rw [hrest] at h ⊢
      simp only [if_pos hstart]
      -- the name goes on as long as its characters may, and its first one may begin it
      by_cases hd : Reader.isNamePart d
      · rw [List.takeWhile_cons_of_pos hd, isSourceIdentifier, Bool.and_eq_true, List.all_eq_true]
        refine ⟨by simpa [Reader.isNameStart, isIdentifierStart] using hstart, fun e he => ?_⟩
        have hpart := List.all_eq_true.mp List.all_takeWhile e he
        simpa [Reader.isNamePart, isIdentifierContinue] using hpart
      · exact absurd (List.takeWhile_cons_of_neg hd) h
    · exact absurd rfl h
  · exact absurd rfl h

/-! ### Tables of ranges -/

/-- The ranges of the first list that are not found to lie within one of the second.  In ascending
lists a range that ends too early for one range is of no use to those after it. -/
def uncovered : List (Nat × Nat) → List (Nat × Nat) → List (Nat × Nat)
  | [], _ => []
  | a :: as, bs =>
    match bs.dropWhile (·.2 < a.2) with
    | [] => a :: as
    | b :: bs => if b.1 ≤ a.1 then uncovered as (b :: bs) else a :: uncovered as (b :: bs)

/-- A range that is not left over lies within one of the second list.  The lists need not ascend. -/
theorem mem_uncovered_or_exists {a : Nat × Nat} {as : List (Nat × Nat)} (ha : a ∈ as)
    (bs : List (Nat × Nat)) :
    a ∈ uncovered as bs ∨ ∃ b ∈ bs, b.1 ≤ a.1 ∧ a.2 ≤ b.2 := by
  induction as generalizing bs with
  | nil => cases ha
  | cons d as ih =>
    have hkept : bs.dropWhile (·.2 < d.2) ⊆ bs := List.dropWhile_subset _
    have hhead := List.head?_dropWhile_not (·.2 < d.2) bs
    rw [uncovered]
    cases hdrop : bs.dropWhile (·.2 < d.2) with
    | nil => exact Or.inl ha
    | cons b rest =>
      rw [hdrop] at hkept hhead
      -- the range at the head was not dropped, so it reaches as far as `d`
      have hreach : d.2 ≤ b.2 := by simpa using hhead
      have hlater : a ∈ as →
          a ∈ uncovered as (b :: rest) ∨ ∃ b ∈ bs, b.1 ≤ a.1 ∧ a.2 ≤ b.2 := by
        intro hmem
        exact (ih hmem _).imp_right fun ⟨c, hc, hwithin⟩ => ⟨c, hkept hc, hwithin⟩
      simp only
      split
      · rename_i hbegin
        rcases List.mem_cons.mp ha with rfl | hmem
        · exact Or.inr ⟨b, hkept List.mem_cons_self, hbegin, hreach⟩
        · exact hlater hmem
      · rcases List.mem_cons.mp ha with rfl | hmem
        · exact Or.inl List.mem_cons_self
        · exact (hlater hmem).imp_left (List.mem_cons_of_mem d)

theorem inRanges_iff {ranges : Array (Nat × Nat)} {c : Char} :
    inRanges ranges c ↔ ∃ p ∈ ranges.toList, p.1 ≤ c.toNat ∧ c.toNat ≤ p.2 := by
  simp only [inRanges, ← Array.any_toList, List.any_eq_true, Bool.and_eq_true, decide_eq_true_eq]

/-- What lies in a table lies in a second one, or else in a range that is left over. -/
theorem inRanges_or_eq_false {as bs others : Array (Nat × Nat)} {c : Char}
    (hleft : ∀ a ∈ uncovered as.toList bs.toList, ∀ p ∈ others.toList, p.2 < a.1 ∨ a.2 < p.1)
    (h : inRanges as c) : inRanges bs c ∨ inRanges others c = false := by
  obtain ⟨a, ha, hlo, hhi⟩ := inRanges_iff.mp h
  rcases mem_uncovered_or_exists ha bs.toList with hmem | ⟨b, hb, hlo', hhi'⟩
  · exact Or.inr (inRanges_eq_false (hleft a hmem) hlo hhi)
  · exact Or.inl (inRanges_iff.mpr ⟨b, hb, Nat.le_trans hlo' hlo, Nat.le_trans hhi hhi'⟩)

/-! ### Beginnings of identifiers -/

/-- No number is among the ranges in which an identifier may begin with what is no letter. -/
theorem numericRanges_uncovered :
    ∀ a ∈ uncovered identifierStartRanges.toList alphabeticRanges.toList,
      ∀ p ∈ numericRanges.toList, p.2 < a.1 ∨ a.2 < p.1 := by
  decide +kernel

/-- What an identifier begins with is a letter or an underscore, if it can stand in a name at
all. -/
theorem isNameStart_of_isIdentifierStart {c : Char} (h : isIdentifierStart c)
    (hpart : isNamePart c) : isNameStart c := by
  have hcases : isAlphabetic c ∨ isNumeric c = false ∨ c = '_' := by
    simp only [isIdentifierStart, Bool.or_eq_true, beq_iff_eq] at h
    rcases h with hunderscore | h
    · exact Or.inr (Or.inr hunderscore)
    · rw [isAlphabetic, isNumeric]
      split at h
      · exact Or.inl (by rwa [if_pos ‹_›])
      · rw [if_neg ‹_›, if_neg ‹_›]
        exact (inRanges_or_eq_false numericRanges_uncovered h).imp_right Or.inl
  simp only [isNamePart, isAlphanumeric, Bool.or_eq_true, beq_iff_eq] at hpart
  simp only [isNameStart, Bool.or_eq_true, beq_iff_eq]
  rcases hcases with hletter | hnumber | hunderscore
  · exact Or.inl hletter
  · -- the character is no number, so it can stand in a name as a letter or an underscore only
    simpa [hnumber] using hpart
  · exact Or.inr hunderscore

/-! ### Source paths -/

/-- The characters of a source path are those of its identifiers and dots. -/
theorem eq_dot_or_of_isSourcePath {cs : List Char} (h : isSourcePath cs) {c : Char} (hc : c ∈ cs) :
    c = '.' ∨ isIdentifierStart c ∨ isIdentifierContinue c := by
  rcases eq_or_ne c '.' with hdot | hdot
  · exact Or.inl hdot
  · obtain ⟨piece, hpiece, hmem⟩ := (mem_iff_exists_mem_splitAt hdot cs).mp hc
    have hident := List.all_eq_true.mp h piece hpiece
    cases piece with
    | nil => cases hmem
    | cons d tail =>
      rw [isSourceIdentifier, Bool.and_eq_true, List.all_eq_true] at hident
      rcases List.mem_cons.mp hmem with rfl | hmem
      · exact Or.inr (Or.inl hident.1)
      · exact Or.inr (Or.inr (hident.2 c hmem))

/-- A source path whose characters can stand in a name is a dotted name. -/
theorem isDotted_of_isSourcePath {cs : List Char} (h : isSourcePath cs)
    (hcs : ∀ c ∈ cs, isNamePart c ∨ c = '.') : isDotted cs := by
  rw [isDotted_iff, startsSegments, List.all_eq_true]
  refine ⟨fun piece hpiece => ?_, hcs⟩
  have hident := List.all_eq_true.mp h piece hpiece
  cases piece with
  | nil => cases hident
  | cons c tail =>
    rw [isSourceIdentifier, Bool.and_eq_true] at hident
    have hdot : c ≠ '.' := by
      rintro rfl
      exact absurd hident.1 (by decide)
    have hmem := (mem_iff_exists_mem_splitAt hdot cs).mpr ⟨_, hpiece, List.mem_cons_self⟩
    exact isNameStart_of_isIdentifierStart hident.1 ((hcs c hmem).resolve_right hdot)

end RecordForms.Text
