import RecordForms.Proofs.Text.Lines
import RecordForms.Proofs.Value.Numbers
import RecordForms.Proofs.Value.Quoted

/-!
# Values on one line

Whatever texts and bytes a value holds, at any depth, its expression stands on one line: they are
written in literals, and a literal holds no character that breaks a line.  Only the names of objects
are written as they are.

## Main definitions

* `Value.symbols v`: the names of objects in `v`

## Main results

* `Value.isOneLine_quoted`, `Value.isOneLine_quotedBytes`: literals, of any text and any bytes
* `Value.isOneLine_floatText`: the text of any float
* `Value.isOneLine_chars`: the expression of any value
-/

namespace RecordForms

open RecordForms.Text RecordForms.Number

/-! ### Numbers -/

theorem Text.isBreak_eq_false_of_isDigit {c : Char} (h : c.isDigit) : isBreak c = false := by
  rw [isBreak, Bool.or_eq_false_iff, beq_eq_false_iff_ne, beq_eq_false_iff_ne]
  refine ⟨?_, ?_⟩
  · rintro rfl
    exact absurd h (by decide)
  · rintro rfl
    exact absurd h (by decide)

theorem Number.IsDigits.isOneLine {cs : List Char} (h : IsDigits cs) : IsOneLine cs :=
  fun c hc => isBreak_eq_false_of_isDigit (h.2 c hc)

theorem Number.IsNumeral.isOneLine {cs : List Char} (h : IsNumeral cs) : IsOneLine cs := by
  rcases h with hdigits | ⟨ds, es, hds, hes, rfl⟩
  · exact hdigits.isOneLine
  · rw [isOneLine_append, isOneLine_cons]
    exact ⟨hds.isOneLine, rfl, hes.isOneLine⟩

theorem Number.isOneLine_decimalInt (n : Int) : IsOneLine (decimalInt n) := by
  rw [decimalInt_eq, isOneLine_append]
  refine ⟨?_, (isDigits_decimal n.natAbs).isOneLine⟩
  split <;> decide

theorem Number.isOneLine_hexPair (n : Nat) : IsOneLine (hexPair n) := by
  have hdigit : ∀ d < 16, isBreak (Nat.digitChar d) = false := by decide
  rw [hexPair, isOneLine_cons, isOneLine_cons]
  exact ⟨hdigit _ (Nat.mod_lt _ (by decide)), hdigit _ (Nat.mod_lt _ (by decide)), isOneLine_nil⟩

namespace Value

/-- The text of any float, finite or not. -/
theorem isOneLine_floatText (x : Double) : IsOneLine (floatText x) := by
  have hsign : IsOneLine (if x.isNegative then ['-'] else []) := by
    split <;> decide
  by_cases hx : x.isFinite
  · rw [floatText_eq hx, isOneLine_append]
    exact ⟨hsign, (isNumeral_magnitudeText hx).isOneLine⟩
  · -- what is not finite is no number or infinite, and is written as a call
    rw [floatText]
    split
    · decide
    · rename_i hnan
      have hinfinite : x.isInfinite := by
        simp only [Double.isFinite, Double.isNaN, Double.isInfinite, decide_eq_true_eq,
          beq_iff_eq] at hx hnan ⊢
        omega
      rw [if_pos hinfinite, isOneLine_append]
      exact ⟨hsign, by decide⟩

/-! ### Literals -/

theorem isBreak_quoteOf (s : List Char) : isBreak (quoteOf s) = false := by
  rw [quoteOf]
  split <;> rfl

/-- No character breaks the line inside a literal: those that would are escaped. -/
theorem isOneLine_escaped (quote c : Char) : IsOneLine (escaped quote c) := by
  by_cases hc : isBreak c
  · -- instead of the character its letter is written, whatever the quote is
    rw [isBreak, Bool.or_eq_true, beq_iff_eq, beq_iff_eq] at hc
    rcases hc with rfl | rfl
    · exact (by decide : IsOneLine ['\\', 'n'])
    · exact (by decide : IsOneLine ['\\', 'r'])
  · have hplain : IsOneLine [c] := by simpa using hc
    unfold escaped
    split_ifs
    · decide
    · decide
    · decide
    · decide
    · exact isOneLine_cons.mpr ⟨rfl, hplain⟩
    · exact hplain

/-- The literal of any text. -/
theorem isOneLine_quoted (s : List Char) : IsOneLine (quoted s) := by
  have hquote := isBreak_quoteOf s
  rw [quoted, isOneLine_append, isOneLine_cons, isOneLine_flatMap]
  exact ⟨⟨hquote, fun c _ => isOneLine_escaped _ c⟩, isOneLine_cons.mpr ⟨hquote, isOneLine_nil⟩⟩

theorem isOneLine_escapedByte (b : UInt8) : IsOneLine (escapedByte b) := by
  unfold escapedByte
  split_ifs with _ _ hfeed hprintable
  · decide
  · decide
  · decide
  · -- only printable bytes are left, and a carriage return is not one of them
    have hreturn : b ≠ 0x0d := by
      rintro rfl
      exact absurd hprintable (by decide)
    have hfeed : Char.ofNat b.toNat ≠ '\n' := ofNat_byte_ne hfeed
    have hreturn : Char.ofNat b.toNat ≠ '\r' := ofNat_byte_ne hreturn
    simp [isBreak, hfeed, hreturn]
  · rw [isOneLine_cons, isOneLine_cons]
    exact ⟨rfl, rfl, isOneLine_hexPair b.toNat⟩

/-- The literal of any bytes. -/
theorem isOneLine_quotedBytes (bs : List UInt8) : IsOneLine (quotedBytes bs) := by
  rw [quotedBytes, isOneLine_append, isOneLine_cons, isOneLine_cons, isOneLine_flatMap]
  exact ⟨⟨rfl, rfl, fun b _ => isOneLine_escapedByte b⟩, by decide⟩

/-! ### Values -/

mutual

/-- The names of objects in a value, in the order of its text. -/
def symbols : Value → List String
  | tuple items | list items | set items | frozenSet items => itemSymbols items
  | dict pairs => pairSymbols pairs
  | symbol path => [path]
  | _ => []

/-- The names of objects in the items of a container. -/
def itemSymbols : List Value → List String
  | [] => []
  | v :: vs => symbols v ++ itemSymbols vs

/-- The names of objects in the entries of a dict. -/
def pairSymbols : List (Value × Value) → List String
  | [] => []
  | (k, v) :: rest => symbols k ++ symbols v ++ pairSymbols rest

end

theorem isOneLine_commaSeparated {items : List (List Char)} (h : ∀ cs ∈ items, IsOneLine cs) :
    IsOneLine (commaSeparated items) :=
  isOneLine_intercalate (by decide) h

mutual

/-- The expression of any value, if the names of objects in it stand on one line. -/
theorem isOneLine_chars (v : Value) (h : ∀ path ∈ v.symbols, IsLine path) :
    IsOneLine v.chars := by
  cases v with
  | none => decide
  | bool b => cases b <;> decide
  | int n => exact isOneLine_decimalInt n.toInt
  | float x => exact isOneLine_floatText x
  | str s => exact isOneLine_quoted s.toList
  | bytes bs => exact isOneLine_quotedBytes bs
  | ellipsis => decide
  | tuple items =>
    rw [chars_tuple, isOneLine_append, isOneLine_cons]
    refine ⟨⟨rfl, isOneLine_commaSeparated (isOneLine_itemChars items h)⟩, ?_⟩
    split <;> decide
  | list items =>
    rw [chars_list, isOneLine_append, isOneLine_cons]
    exact ⟨⟨rfl, isOneLine_commaSeparated (isOneLine_itemChars items h)⟩, by decide⟩
  | dict pairs =>
    rw [chars_dict, isOneLine_append, isOneLine_cons]
    exact ⟨⟨rfl, isOneLine_commaSeparated (isOneLine_pairChars pairs h)⟩, by decide⟩
  | set items =>
    cases items with
    | nil => decide
    | cons item items =>
      rw [chars_set_cons, isOneLine_append, isOneLine_cons]
      exact ⟨⟨rfl, isOneLine_commaSeparated (isOneLine_itemChars (item :: items) h)⟩, by decide⟩
  | frozenSet items =>
    cases items with
    | nil => decide
    | cons item items =>
      rw [chars_frozenSet_cons, isOneLine_append, isOneLine_append, isOneLine_cons]
      exact ⟨⟨by decide, rfl,
        isOneLine_commaSeparated (isOneLine_itemChars (item :: items) h)⟩, by decide⟩
  | symbol path => exact h path List.mem_cons_self

theorem isOneLine_itemChars (vs : List Value) (h : ∀ path ∈ itemSymbols vs, IsLine path) :
    ∀ cs ∈ itemChars vs, IsOneLine cs := by
  match vs with
  | [] => nofun
  | v :: vs =>
    obtain ⟨hv, hvs⟩ := List.forall_mem_append.mp h
    exact List.forall_mem_cons.mpr ⟨isOneLine_chars v hv, isOneLine_itemChars vs hvs⟩

theorem isOneLine_pairChars (ps : List (Value × Value))
    (h : ∀ path ∈ pairSymbols ps, IsLine path) : ∀ cs ∈ pairChars ps, IsOneLine cs := by
  match ps with
  | [] => nofun
  | (k, v) :: ps =>
    obtain ⟨hpair, hps⟩ := List.forall_mem_append.mp h
    obtain ⟨hk, hv⟩ := List.forall_mem_append.mp hpair
    refine List.forall_mem_cons.mpr ⟨?_, isOneLine_pairChars ps hps⟩
    rw [isOneLine_append, isOneLine_append]
    exact ⟨⟨isOneLine_chars k hk, by decide⟩, isOneLine_chars v hv⟩

end

theorem isLine_text {v : Value} (h : ∀ path ∈ v.symbols, IsLine path) : IsLine v.text :=
  isLine_ofList.mpr (isOneLine_chars v h)

end Value

end RecordForms
