import Mathlib.Tactic.SplitIfs
import RecordForms.Json.Parser
import RecordForms.Json.Printer
import RecordForms.Proofs.Number.Digits

/-!
# JSON text literals and back

## Main results

* `Json.units?_escaped`: a character as it is written inside a literal is read as one unit
* `Json.string?_quoted`: every text is read from its literal
-/

namespace RecordForms.Json

open Number

/-- A control character is read from the number that it is escaped by. -/
theorem ofCode_toNat {c : Char} (h : c < ' ') : TextUnit.ofCode c.toNat = .char c := by
  -- far below the halves of surrogate pairs
  have hc : c.toNat < 32 := h
  have hhigh : ¬ 0xd800 ≤ c.toNat := by omega
  have hlow : ¬ 0xdc00 ≤ c.toNat := by omega
  simp [TextUnit.ofCode, hhigh, hlow]

theorem ofDigits?_hexPair {n : Nat} (h : n < 256) :
    ofDigits? 16 ('0' :: '0' :: hexPair n) = some n := by
  have hzero : digitValue? '0' = some 0 := by decide
  have hhigh : n / 16 % 16 < 16 := Nat.mod_lt _ (by decide)
  have hlow : n % 16 < 16 := Nat.mod_lt _ (by decide)
  have hvalue : n / 16 % 16 * 16 + n % 16 = n := by omega
  simp [ofDigits?, hexPair, readDigits, hzero, digitValue?_digitChar _ hhigh,
    digitValue?_digitChar _ hlow, hhigh, hlow, hvalue]

theorem units?_letter {e c : Char} (h : escape? e = some c) (hu : e ≠ 'u') (rest : List Char) :
    units? ('\\' :: e :: rest) = (units? rest).map fun (us, rest) => (.char c :: us, rest) := by
  rw [units?]
  · rw [h, Option.map_eq_bind]
    rfl
  · intro a b d d' tail he _
    exact hu he

theorem units?_number {c : Char} (h : c < ' ') (rest : List Char) :
    units? ('\\' :: 'u' :: '0' :: '0' :: hexPair c.toNat ++ rest) =
      (units? rest).map fun (us, rest) => (.char c :: us, rest) := by
  have hc : c.toNat < 32 := h
  have hcode : ofDigits? 16 ('0' :: '0' :: hexPair c.toNat) = some c.toNat :=
    ofDigits?_hexPair (by omega)
  have hunit := ofCode_toNat h
  rw [hexPair] at hcode ⊢
  simp only [List.cons_append, List.nil_append]
  rw [units?, hcode, Option.map_eq_bind, ← hunit]
  rfl

theorem units?_cons {c : Char} (hquote : c ≠ '"') (hslash : c ≠ '\\') (hc : ¬ c < ' ')
    (rest : List Char) :
    units? (c :: rest) = (units? rest).map fun (us, rest) => (.char c :: us, rest) := by
  rw [units?, if_neg (by simp [hslash, hc]), Option.map_eq_bind]
  · rfl
  · exact hquote
  · exact fun _ _ _ _ _ he _ => hslash he
  · exact fun _ _ he _ => hslash he

/-- A character as it is written inside a literal is read as one unit. -/
theorem units?_escaped (c : Char) (rest : List Char) :
    units? (escaped c ++ rest) = (units? rest).map fun (us, rest) => (.char c :: us, rest) := by
  unfold escaped
  -- Seven characters are escaped by a letter, other control characters by their number.
  split_ifs with hquote hslash hb hf hn hr ht hcontrol
  · subst hquote
    exact units?_letter rfl (by decide) rest
  · subst hslash
    exact units?_letter rfl (by decide) rest
  · subst hb
    exact units?_letter rfl (by decide) rest
  · subst hf
    exact units?_letter rfl (by decide) rest
  · subst hn
    exact units?_letter rfl (by decide) rest
  · subst hr
    exact units?_letter rfl (by decide) rest
  · subst ht
    exact units?_letter rfl (by decide) rest
  · exact units?_number hcontrol rest
  · exact units?_cons hquote hslash hcontrol rest

theorem units?_flatMap_escaped (cs rest : List Char) :
    units? (cs.flatMap escaped ++ '"' :: rest) = some (cs.map .char, rest) := by
  induction cs with
  | nil => rw [List.flatMap_nil, List.nil_append, units?, List.map_nil]
  | cons c cs ih => rw [List.flatMap_cons, List.append_assoc, units?_escaped, ih]; rfl

theorem joinUnits?_map_char (cs : List Char) : joinUnits? (cs.map .char) = some cs := by
  induction cs with
  | nil => rfl
  | cons c cs ih => rw [List.map_cons, joinUnits?, ih, Option.map_some]

/-- Every text is read from its literal. -/
theorem string?_quoted (s : String) (rest : List Char) :
    string? (s.toList.flatMap escaped ++ '"' :: rest) = some (some s, rest) := by
  rw [string?, units?_flatMap_escaped]
  simp only [Option.map_some, joinUnits?_map_char, String.ofList_toList]

end RecordForms.Json
