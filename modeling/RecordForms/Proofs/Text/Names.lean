import Mathlib.Tactic.ByContra
import RecordForms.Text.Pieces

/-!
# Names

Identifiers and dotted names as lists of characters.  No character of a name is a blank, in whatever
script, so a name at the beginning of a text is not touched when blanks are taken off.  A dotted
name is told from left to right: what may follow depends on the last character alone.  The reader of
types is less strict: for it a segment after the first may begin with a digit.

## Main definitions

* `isNameStart`, `isNamePart`: what an identifier begins with, and what it goes on with
* `isIdentifier`, `isDotted`: identifiers, and identifiers with dots between them
* `isDottedTail`: what may follow a character of a dotted name
* `isReadName`, `isReadTail`: the same for names with digits at the beginning of later segments
* `startsSegments`: a letter or an underscore at the beginning of every segment

## Main results

* `isBlank_eq_false_of_isNamePart`: no character of a name is a blank
* `isDotted_cons`, `isDottedTail_cons`: a dotted name, character by character
* `isReadName_cons`, `isReadTail_cons`: the same for the less strict names
* `isDotted_iff`: dotted names by the beginnings of their segments and by their characters
* `getLast?_ne_dot_of_isReadName`: a name does not end with a dot
-/

namespace RecordForms.Text

/-- A letter or an underscore. -/
def isNameStart (c : Char) : Bool :=
  isAlphabetic c || c == '_'

/-- A letter, a digit or an underscore. -/
def isNamePart (c : Char) : Bool :=
  isAlphanumeric c || c == '_'

/-- A letter or an underscore, and then letters, digits and underscores. -/
def isIdentifier : List Char → Bool
  | [] => false
  | c :: cs => isNameStart c && cs.all isNamePart

/-- Identifiers with dots between them. -/
def isDotted (cs : List Char) : Bool :=
  (splitAt '.' cs).all isIdentifier

theorem isAlpha_iff {c : Char} :
    c.isAlpha ↔ 65 ≤ c.toNat ∧ c.toNat ≤ 90 ∨ 97 ≤ c.toNat ∧ c.toNat ≤ 122 := by
  have h : c.isAlpha = (decide (65 ≤ c.toNat ∧ c.toNat ≤ 90) ||
      decide (97 ≤ c.toNat) && decide (c.toNat ≤ 122)) := rfl
  simp [h]

theorem isNamePart_of_isNameStart {c : Char} (h : isNameStart c) : isNamePart c := by
  simp only [isNameStart, Bool.or_eq_true] at h
  simp only [isNamePart, isAlphanumeric, Bool.or_eq_true]
  exact h.imp_left Or.inl

/-! ### Blanks -/

/-- The blanks beyond code point 128, as closed ranges. -/
def wideBlanks : List (Nat × Nat) :=
  [(0x85, 0x85), (0xa0, 0xa0), (0x1680, 0x1680), (0x2000, 0x200a), (0x2028, 0x2029),
    (0x202f, 0x202f), (0x205f, 0x205f), (0x3000, 0x3000)]

theorem isBlank_cases {c : Char} (h : isBlank c) :
    (9 ≤ c.toNat ∧ c.toNat ≤ 13 ∨ c.toNat = 0x20) ∨
      ∃ b ∈ wideBlanks, b.1 ≤ c.toNat ∧ c.toNat ≤ b.2 := by
  simp only [isBlank, Bool.or_eq_true, Bool.and_eq_true, decide_eq_true_eq, beq_iff_eq] at h
  simp only [wideBlanks, List.mem_cons, List.not_mem_nil, or_false, exists_eq_or_imp,
    exists_eq_left]
  omega

theorem inRanges_eq_false {ranges : Array (Nat × Nat)} {b : Nat × Nat} {c : Char}
    (h : ∀ p ∈ ranges.toList, p.2 < b.1 ∨ b.2 < p.1) (hl : b.1 ≤ c.toNat) (hr : c.toNat ≤ b.2) :
    inRanges ranges c = false := by
  rw [inRanges, ← Array.any_toList, List.any_eq_false]
  intro p hp
  have := h p hp
  simp only [Bool.and_eq_true, decide_eq_true_eq]
  omega

theorem alphabeticRanges_wideBlanks :
    ∀ b ∈ wideBlanks, ∀ p ∈ alphabeticRanges.toList, p.2 < b.1 ∨ b.2 < p.1 := by
  decide +kernel

theorem numericRanges_wideBlanks :
    ∀ b ∈ wideBlanks, ∀ p ∈ numericRanges.toList, p.2 < b.1 ∨ b.2 < p.1 := by
  decide +kernel

theorem wideBlanks_ge : ∀ b ∈ wideBlanks, 128 ≤ b.1 := by
  decide

theorem isAlphanumeric_cases {c : Char} (h : isAlphanumeric c) :
    (48 ≤ c.toNat ∧ c.toNat ≤ 57 ∨ 65 ≤ c.toNat ∧ c.toNat ≤ 90 ∨ 97 ≤ c.toNat ∧ c.toNat ≤ 122) ∨
      128 ≤ c.toNat ∧ (inRanges alphabeticRanges c ∨ inRanges numericRanges c) := by
  simp only [isAlphanumeric, isAlphabetic, isNumeric] at h
  split at h
  · rw [Bool.or_eq_true, isAlpha_iff, Char.isDigit_iff_toNat] at h
    change _ ∨ 48 ≤ c.toNat ∧ c.toNat ≤ 57 at h
    omega
  · exact Or.inr ⟨by omega, by simpa using h⟩

theorem isBlank_eq_false_of_isNamePart {c : Char} (h : isNamePart c) : isBlank c = false := by
  by_contra hb
  have hblank : isBlank c := by simpa using hb
  have hword : isAlphanumeric c := by
    simp only [isNamePart, Bool.or_eq_true, beq_iff_eq] at h
    rcases h with h | rfl
    · exact h
    · exact absurd rfl hb
  rcases isBlank_cases hblank with hsmall | ⟨b, hmem, hl, hr⟩
  · have := isAlphanumeric_cases hword
    omega
  · -- beyond code point 128 both are ranges of a table, and the tables are disjoint
    have hge := wideBlanks_ge b hmem
    have hletter := inRanges_eq_false (alphabeticRanges_wideBlanks b hmem) hl hr
    have hnumber := inRanges_eq_false (numericRanges_wideBlanks b hmem) hl hr
    rcases isAlphanumeric_cases hword with hsmall | ⟨-, h | h⟩
    · omega
    · simp [hletter] at h
    · simp [hnumber] at h

theorem not_isDigit_of_isNameStart {c : Char} (h : isNameStart c) : ¬ c.isDigit := by
  intro hdigit
  rw [Char.isDigit_iff_toNat] at hdigit
  change 48 ≤ c.toNat ∧ c.toNat ≤ 57 at hdigit
  have hlt : c.toNat < 128 := by omega
  have hne : c ≠ '_' := by
    rintro rfl
    exact absurd hdigit.2 (by decide)
  rw [isNameStart, isAlphabetic, if_pos hlt, beq_false_of_ne hne, Bool.or_false, isAlpha_iff] at h
  omega

/-! ### Dotted names, character by character -/

/-- What may follow a character of a dotted name. -/
def isDottedTail (cs : List Char) : Bool :=
  (splitAt '.' cs).head?.all (·.all isNamePart) && (splitAt '.' cs).tail.all isIdentifier

@[simp] theorem isDotted_nil : isDotted [] = false := rfl

@[simp] theorem isDottedTail_nil : isDottedTail [] = true := rfl

theorem isDotted_cons (c : Char) (cs : List Char) :
    isDotted (c :: cs) = (isNameStart c && isDottedTail cs) := by
  obtain ⟨piece, pieces, hsplit, -⟩ := exists_splitAt '.' cs
  by_cases hc : c = '.'
  · subst hc
    rfl
  · simp [isDotted, isDottedTail, splitAt, hc, hsplit, isIdentifier, Bool.and_assoc]

theorem isDottedTail_cons (c : Char) (cs : List Char) :
    isDottedTail (c :: cs) = if c = '.' then isDotted cs else isNamePart c && isDottedTail cs := by
  obtain ⟨piece, pieces, hsplit, -⟩ := exists_splitAt '.' cs
  split
  · simp [isDottedTail, splitAt, isDotted, *]
  · simp [isDottedTail, splitAt, Bool.and_assoc, *]

theorem isNameStart_ne_dot {c : Char} (h : isNameStart c) : c ≠ '.' := by
  rintro rfl
  exact absurd h (by decide)

theorem isDottedTail_of_isDotted {cs : List Char} (h : isDotted cs) : isDottedTail cs := by
  cases cs with
  | nil => rfl
  | cons c cs =>
    rw [isDotted_cons, Bool.and_eq_true] at h
    rw [isDottedTail_cons, if_neg (isNameStart_ne_dot h.1), Bool.and_eq_true]
    exact ⟨isNamePart_of_isNameStart h.1, h.2⟩

theorem exists_cons_of_isDotted {cs : List Char} (h : isDotted cs) :
    ∃ c tail, cs = c :: tail ∧ isNameStart c ∧ isDottedTail tail := by
  cases cs with
  | nil => simp at h
  | cons c tail =>
    rw [isDotted_cons, Bool.and_eq_true] at h
    exact ⟨c, tail, rfl, h⟩

/-! ### Names with digits after a dot -/

/-- Letters, digits and underscores, in any order. -/
def isSegment (cs : List Char) : Bool :=
  !cs.isEmpty && cs.all isNamePart

/-- Segments with dots between them. -/
def areSegments (cs : List Char) : Bool :=
  (splitAt '.' cs).all isSegment

/-- What may follow a character of a name. -/
def isReadTail (cs : List Char) : Bool :=
  (splitAt '.' cs).head?.all (·.all isNamePart) && (splitAt '.' cs).tail.all isSegment

/-- An identifier, and after each dot a segment, which may begin with a digit. -/
def isReadName (cs : List Char) : Bool :=
  (splitAt '.' cs).head?.all isIdentifier && (splitAt '.' cs).tail.all isSegment

@[simp] theorem isReadName_nil : isReadName [] = false := rfl

@[simp] theorem isReadTail_nil : isReadTail [] = true := rfl

@[simp] theorem areSegments_nil : areSegments [] = false := rfl

theorem isReadName_cons (c : Char) (cs : List Char) :
    isReadName (c :: cs) = (isNameStart c && isReadTail cs) := by
  obtain ⟨piece, pieces, hsplit, -⟩ := exists_splitAt '.' cs
  by_cases hc : c = '.'
  · subst hc
    rfl
  · simp [isReadName, isReadTail, splitAt, hc, hsplit, isIdentifier, Bool.and_assoc]

theorem areSegments_cons (c : Char) (cs : List Char) :
    areSegments (c :: cs) = (isNamePart c && isReadTail cs) := by
  obtain ⟨piece, pieces, hsplit, -⟩ := exists_splitAt '.' cs
  by_cases hc : c = '.'
  · subst hc
    rfl
  · simp [areSegments, isReadTail, splitAt, hc, hsplit, isSegment, Bool.and_assoc]

theorem isReadTail_cons (c : Char) (cs : List Char) :
    isReadTail (c :: cs) = if c = '.' then areSegments cs else isNamePart c && isReadTail cs := by
  obtain ⟨piece, pieces, hsplit, -⟩ := exists_splitAt '.' cs
  split
  · simp [isReadTail, splitAt, areSegments, *]
  · simp [isReadTail, splitAt, Bool.and_assoc, *]

theorem isNamePart_ne_dot {c : Char} (h : isNamePart c) : c ≠ '.' := by
  rintro rfl
  exact absurd h (by decide)

theorem isReadTail_of_areSegments {cs : List Char} (h : areSegments cs) : isReadTail cs := by
  cases cs with
  | nil => rfl
  | cons c cs =>
    rw [areSegments_cons, Bool.and_eq_true] at h
    rw [isReadTail_cons, if_neg (isNamePart_ne_dot h.1), Bool.and_eq_true]
    exact h

theorem areSegments_of_isReadName {cs : List Char} (h : isReadName cs) : areSegments cs := by
  cases cs with
  | nil => cases h
  | cons c cs =>
    rw [isReadName_cons, Bool.and_eq_true] at h
    rw [areSegments_cons, Bool.and_eq_true]
    exact ⟨isNamePart_of_isNameStart h.1, h.2⟩

theorem isIdentifier_iff {cs : List Char} :
    isIdentifier cs ↔ cs.head?.any isNameStart ∧ ∀ c ∈ cs, isNamePart c := by
  cases cs with
  | nil => simp [isIdentifier]
  | cons c cs =>
    rw [isIdentifier, Bool.and_eq_true, List.all_eq_true, List.head?_cons, Option.any_some,
      List.forall_mem_cons]
    exact ⟨fun h => ⟨h.1, isNamePart_of_isNameStart h.1, h.2⟩, fun h => ⟨h.1, h.2.2⟩⟩

theorem isSegment_of_isIdentifier {cs : List Char} (h : isIdentifier cs) : isSegment cs := by
  rw [isSegment, Bool.and_eq_true, List.all_eq_true]
  refine ⟨?_, (isIdentifier_iff.mp h).2⟩
  cases cs with
  | nil => cases h
  | cons c cs => rfl

theorem isReadName_of_isDotted {cs : List Char} (h : isDotted cs) : isReadName cs := by
  obtain ⟨piece, pieces, hsplit, -⟩ := exists_splitAt '.' cs
  rw [isDotted, hsplit, List.all_eq_true, List.forall_mem_cons] at h
  rw [isReadName, hsplit, Bool.and_eq_true, List.all_eq_true]
  exact ⟨h.1, fun segment hsegment => isSegment_of_isIdentifier (h.2 segment hsegment)⟩

theorem isReadTail_of_isDottedTail {cs : List Char} (h : isDottedTail cs) : isReadTail cs := by
  rw [isDottedTail, Bool.and_eq_true, List.all_eq_true] at h
  rw [isReadTail, Bool.and_eq_true, List.all_eq_true]
  exact ⟨h.1, fun segment hsegment => isSegment_of_isIdentifier (h.2 segment hsegment)⟩

/-- A name is made of letters, digits, underscores and dots. -/
theorem forall_mem_of_isReadTail {cs : List Char} (h : isReadTail cs) :
    ∀ c ∈ cs, isNamePart c ∨ c = '.' := by
  induction cs with
  | nil => exact List.forall_mem_nil _
  | cons c cs ih =>
    rw [isReadTail_cons] at h
    rw [List.forall_mem_cons]
    split at h
    · rename_i hc
      exact ⟨Or.inr hc, ih (isReadTail_of_areSegments h)⟩
    · rw [Bool.and_eq_true] at h
      exact ⟨Or.inl h.1, ih h.2⟩

theorem getLast?_ne_dot_of_isReadTail {cs : List Char} (h : isReadTail cs) :
    cs.getLast? ≠ some '.' := by
  -- A dot is followed by a character of a segment, so it is never the last one.
  induction cs with
  | nil => simp
  | cons c cs ih =>
    rw [isReadTail_cons] at h
    cases cs with
    | nil =>
      split at h
      · cases h
      · simpa
    | cons d tail =>
      rw [List.getLast?_cons_cons]
      split at h
      · exact ih (isReadTail_of_areSegments h)
      · rw [Bool.and_eq_true] at h
        exact ih h.2

theorem isReadTail_of_isReadName {cs : List Char} (h : isReadName cs) : isReadTail cs :=
  isReadTail_of_areSegments (areSegments_of_isReadName h)

/-- A name does not end with a dot. -/
theorem getLast?_ne_dot_of_isReadName {cs : List Char} (h : isReadName cs) :
    cs.getLast? ≠ some '.' :=
  getLast?_ne_dot_of_isReadTail (isReadTail_of_isReadName h)

theorem not_infix_of_isReadTail {cs : List Char} (h : isReadTail cs) : ¬ ['.', '.'] <:+: cs := by
  induction cs with
  | nil => simp
  | cons c cs ih =>
    rw [List.infix_cons_iff, not_or]
    rw [isReadTail_cons] at h
    split at h
    · -- what comes after a dot is a segment, which begins with no dot
      refine ⟨?_, ih (isReadTail_of_areSegments h)⟩
      rintro ⟨tail, htail⟩
      obtain ⟨rfl, rfl⟩ := List.cons.inj htail
      have hdot : areSegments ('.' :: tail) = false := by
        rw [areSegments_cons, show isNamePart '.' = false by decide, Bool.false_and]
      exact absurd h (by simpa using hdot)
    · rename_i hc
      rw [Bool.and_eq_true] at h
      refine ⟨?_, ih h.2⟩
      rintro ⟨tail, htail⟩
      exact hc (List.cons.inj htail).1.symm

/-- A name has no two dots in a row. -/
theorem not_infix_of_isReadName {cs : List Char} (h : isReadName cs) : ¬ ['.', '.'] <:+: cs :=
  not_infix_of_isReadTail (isReadTail_of_isReadName h)

/-! ### The beginnings of segments -/

/-- Whether a letter or an underscore stands at the beginning of every segment. -/
def startsSegments (cs : List Char) : Bool :=
  (splitAt '.' cs).all fun segment => segment.head?.any isNameStart

theorem mem_iff_exists_mem_splitAt {sep c : Char} (hne : c ≠ sep) (cs : List Char) :
    c ∈ cs ↔ ∃ piece ∈ splitAt sep cs, c ∈ piece := by
  obtain ⟨piece, pieces, hsplit, hjoin⟩ := exists_splitAt sep cs
  rw [hsplit, ← hjoin]
  simp [hne]

theorem not_mem_of_mem_splitAt {sep : Char} {cs piece : List Char} (h : piece ∈ splitAt sep cs) :
    sep ∉ piece := by
  induction cs generalizing piece with
  | nil =>
    rw [splitAt, List.mem_singleton] at h
    rw [h]
    exact List.not_mem_nil
  | cons c cs ih =>
    obtain ⟨first, rest, hsplit, -⟩ := exists_splitAt sep cs
    rw [splitAt] at h
    split at h
    · rcases List.mem_cons.mp h with rfl | h
      · exact List.not_mem_nil
      · exact ih h
    · rename_i hc
      rw [hsplit] at h ih
      rcases List.mem_cons.mp h with rfl | h
      · rw [List.mem_cons, not_or]
        exact ⟨fun heq => hc heq.symm, ih List.mem_cons_self⟩
      · exact ih (List.mem_cons_of_mem first h)

/-- Dotted names are made of letters, digits, underscores and dots, and no segment of them is empty
or begins with a digit. -/
theorem isDotted_iff {cs : List Char} :
    isDotted cs ↔ startsSegments cs ∧ ∀ c ∈ cs, isNamePart c ∨ c = '.' := by
  rw [startsSegments, List.all_eq_true]
  constructor
  · intro h
    refine ⟨fun segment hsegment => ?_, forall_mem_of_isReadTail ?_⟩
    · exact (isIdentifier_iff.mp (List.all_eq_true.mp h segment hsegment)).1
    · exact isReadTail_of_isReadName (isReadName_of_isDotted h)
  · rintro ⟨hstarts, hcs⟩
    rw [isDotted, List.all_eq_true]
    intro segment hsegment
    refine isIdentifier_iff.mpr ⟨hstarts segment hsegment, fun c hc => ?_⟩
    have hdot : c ≠ '.' := fun heq => not_mem_of_mem_splitAt hsegment (heq ▸ hc)
    have hmem := (mem_iff_exists_mem_splitAt hdot cs).mpr ⟨segment, hsegment, hc⟩
    exact (hcs c hmem).resolve_right hdot

end RecordForms.Text
