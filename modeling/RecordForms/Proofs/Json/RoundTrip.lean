import Mathlib.Data.List.DropRight
import Mathlib.Tactic.ByContra
import RecordForms.Proofs.Json.Numeral
import RecordForms.Proofs.Json.Parts
import RecordForms.Proofs.Json.Quoted

/-!
# JSON texts and back

A value is read from its text, if this holds of every float in it.

## Main definitions

* `Json.ReadsBack`: the floats that are read from their texts
* `Json.Lossless`: the values whose integers fit in 64 bits and whose floats are read back

## Main results

* `Json.value?_text`: a lossless value is read from its text
-/

namespace RecordForms.Json

open Number

/-- The floats that are read from their texts. -/
def ReadsBack (x : Double) : Prop :=
  value? (floatChars x) = some (.float x, [])

/-- The values whose integers fit in 64 bits, with or without a sign, and whose floats are read
back, at any depth. -/
inductive Lossless : Json → Prop
  | null : Lossless null
  | bool (b : Bool) : Lossless (bool b)
  | int {n : Int} (hmin : Int64.minValue.toInt ≤ n) (hmax : n < UInt64.size) : Lossless (int n)
  | float {x : Double} (hx : ReadsBack x) : Lossless (float x)
  | str (s : String) : Lossless (str s)
  | arr {items : List Json} (hitems : ∀ j ∈ items, Lossless j) : Lossless (arr items)
  | obj {entries : List (String × Json)} (hentries : ∀ p ∈ entries, Lossless p.2) :
    Lossless (obj entries)

theorem lossless_ofParts {kind : String} {parts : List (String × Json)}
    (h : ∀ p ∈ parts, p.2.Lossless) : (ofParts kind parts).Lossless :=
  .obj (List.forall_mem_cons.mpr ⟨.str kind, h⟩)

theorem lossless_tagged {kind : String} {content : Json} (h : content.Lossless) :
    (tagged kind content).Lossless :=
  lossless_ofParts (List.forall_mem_singleton.mpr h)

theorem lossless_arr_map {α : Type} {write : α → Json} {as : List α}
    (h : ∀ a ∈ as, (write a).Lossless) : (arr (as.map write)).Lossless :=
  .arr (List.forall_mem_map.mpr h)

/-! ### Blanks -/

theorem skipBlanks_cons {c : Char} (h : isBlank c = false) (cs : List Char) :
    skipBlanks (c :: cs) = c :: cs :=
  List.dropWhile_cons_of_neg (by simp [h])

theorem skipBlanks_skipBlanks (cs : List Char) : skipBlanks (skipBlanks cs) = skipBlanks cs :=
  List.dropWhile_idempotent isBlank cs

theorem valueWith?_skipBlanks (fuel : Nat) (cs : List Char) :
    valueWith? fuel (skipBlanks cs) = valueWith? fuel cs := by
  cases fuel with
  | zero => rw [valueWith?, valueWith?]
  | succ fuel => rw [valueWith?, valueWith?, skipBlanks_skipBlanks]

theorem itemsWith?_skipBlanks (fuel : Nat) (cs : List Char) :
    itemsWith? fuel (skipBlanks cs) = itemsWith? fuel cs := by
  cases fuel with
  | zero => rw [itemsWith?, itemsWith?]
  | succ fuel => rw [itemsWith?, itemsWith?, valueWith?_skipBlanks]

theorem entriesWith?_skipBlanks (fuel : Nat) (cs : List Char) :
    entriesWith? fuel (skipBlanks cs) = entriesWith? fuel cs := by
  cases fuel with
  | zero => rw [entriesWith?, entriesWith?]
  | succ fuel => rw [entriesWith?, entriesWith?, skipBlanks_skipBlanks]

/-! ### Numbers -/

/-- A number begins with a minus or a digit. -/
def opensNumber (c : Char) : Bool :=
  c = '-' || c.isDigit

theorem isBlank_of_opensNumber {c : Char} (h : opensNumber c) : isBlank c = false := by
  by_contra hblank
  simp only [isBlank, Bool.not_eq_false, Bool.or_eq_true, decide_eq_true_eq] at hblank
  obtain ((rfl | rfl) | rfl) | rfl := hblank <;> exact absurd h (by decide)

theorem exists_cons_of_numeral? {cs : List Char} {p : Numeral × List Char}
    (h : numeral? cs = some p) : ∃ c tail, cs = c :: tail ∧ opensNumber c := by
  cases cs with
  | nil => cases h
  | cons c tail =>
    refine ⟨c, tail, rfl, ?_⟩
    by_contra hopens
    simp only [opensNumber, Bool.or_eq_true, decide_eq_true_eq, not_or] at hopens
    have hdigits : digits? (c :: tail) = none := by
      simp [digits?, hopens.2]
    rw [numeral?_cons hopens.1, unsigned?, whole?, hdigits] at h
    cases h

theorem valueWith?_number {c : Char} (h : opensNumber c) (fuel : Nat) (tail : List Char) :
    valueWith? (fuel + 1) (c :: tail) =
      (numeral? (c :: tail)).map fun (n, rest) => (n.value, rest) := by
  rw [valueWith?, skipBlanks_cons (isBlank_of_opensNumber h)]
  split
  case h_7 => rfl
  all_goals
    rename_i heq
    cases heq
    exact absurd h (by decide)

/-- A float that is read is read as a number. -/
theorem numeral?_of_valueWith? {fuel : Nat} {cs : List Char} {x : Double}
    (h : valueWith? fuel cs = some (.float x, [])) :
    ∃ n, numeral? (skipBlanks cs) = some (n, []) ∧ n.value = .float x := by
  cases fuel with
  | zero => cases h
  | succ fuel =>
    -- Whatever begins like another value is one, and that is no float.
    rw [valueWith?] at h
    split at h
    · cases h
    · cases h
    · cases h
    · obtain ⟨⟨s, rest⟩, -, heq⟩ := Option.map_eq_some_iff.mp h
      cases s <;> cases heq
    · split at h
      · cases h
      · obtain ⟨p, -, heq⟩ := Option.map_eq_some_iff.mp h
        cases heq
    · split at h
      · cases h
      · obtain ⟨⟨entries, rest⟩, -, heq⟩ := Option.map_eq_some_iff.mp h
        simp only [ofEntries] at heq
        split at heq <;> cases heq
    · obtain ⟨⟨n, rest⟩, hnumeral, heq⟩ := Option.map_eq_some_iff.mp h
      rw [Prod.mk.injEq] at heq
      exact ⟨n, heq.2 ▸ hnumeral, heq.1⟩

/-- What is read as a number is read as it before the end of a value. -/
theorem valueWith?_of_numeral? {cs rest : List Char} {n : Numeral}
    (h : numeral? (skipBlanks cs) = some (n, [])) (hrest : EndsValue rest) {fuel : Nat}
    (hfuel : 0 < fuel) : valueWith? fuel (cs ++ rest) = some (n.value, rest) := by
  obtain ⟨c, tail, hcs, hopens⟩ := exists_cons_of_numeral? h
  -- The number is there after the blanks, so the end of the text comes after all of it.
  have hskip : skipBlanks (cs ++ rest) = c :: (tail ++ rest) := by
    rw [skipBlanks] at hcs ⊢
    rw [List.dropWhile_append, hcs]
    rfl
  obtain ⟨fuel, rfl⟩ := Nat.exists_eq_add_of_lt hfuel
  rw [← valueWith?_skipBlanks, hskip, Nat.zero_add, valueWith?_number hopens, ← List.cons_append,
    steady_numeral? hrest, ← hcs, h]
  rfl

/-- A float that is read from its text is read from it before the end of a value. -/
theorem valueWith?_float {x : Double} (hx : ReadsBack x) {rest : List Char}
    (hrest : EndsValue rest) {fuel : Nat} (hfuel : 0 < fuel) :
    valueWith? fuel (floatChars x ++ rest) = some (.float x, rest) := by
  obtain ⟨n, hnumeral, hn⟩ := numeral?_of_valueWith? hx
  rw [valueWith?_of_numeral? hnumeral hrest hfuel, hn]

theorem valueWith?_int {n : Int} (hmin : Int64.minValue.toInt ≤ n) (hmax : n < UInt64.size)
    {rest : List Char} (hrest : EndsValue rest) {fuel : Nat} (hfuel : 0 < fuel) :
    valueWith? fuel (decimalInt n ++ rest) = some (.int n, rest) := by
  obtain ⟨numeral, hread, hvalue⟩ := numeral?_decimalInt hmin hmax
  obtain ⟨c, tail, hcs, hopens⟩ := exists_cons_of_numeral? hread
  have hskip : skipBlanks (decimalInt n) = decimalInt n := by
    rw [hcs, skipBlanks_cons (isBlank_of_opensNumber hopens)]
  rw [valueWith?_of_numeral? (hskip.symm ▸ hread) hrest hfuel, hvalue]

/-! ### Values -/

/-- The values that are read from their texts before the end of a value. -/
def Reads (j : Json) : Prop :=
  ∀ ⦃fuel rest⦄, 2 * j.chars.length < fuel → EndsValue rest →
    valueWith? fuel (j.chars ++ rest) = some (j, rest)

theorem joined_singleton (x : List Char) : joined [x] = x :=
  List.intercalate_singleton

theorem joined_cons_cons (x y : List Char) (ys : List (List Char)) :
    joined (x :: y :: ys) = x ++ ',' :: joined (y :: ys) := by
  rw [joined, joined, List.intercalate_cons_cons, List.append_assoc]
  rfl

theorem skipBlanks_comma (cs : List Char) : skipBlanks (',' :: cs) = ',' :: cs :=
  skipBlanks_cons rfl cs

theorem skipBlanks_colon (cs : List Char) : skipBlanks (':' :: cs) = ':' :: cs :=
  skipBlanks_cons rfl cs

theorem skipBlanks_bracket (cs : List Char) : skipBlanks (']' :: cs) = ']' :: cs :=
  skipBlanks_cons rfl cs

theorem skipBlanks_brace (cs : List Char) : skipBlanks ('\x7d' :: cs) = '\x7d' :: cs :=
  skipBlanks_cons rfl cs

/-- The items of an array are read from their texts. -/
theorem itemsWith?_joined {first : Json} {items : List Json} (hfirst : first.Reads)
    (hitems : ∀ j ∈ items, j.Reads) {fuel : Nat} {rest : List Char}
    (hfuel : 2 * (joined (itemChars (first :: items))).length + 2 < fuel) :
    itemsWith? fuel (joined (itemChars (first :: items)) ++ ']' :: rest) =
      some (first :: items, rest) := by
  -- Along the items: an item takes one step and the characters of its text two steps each, and so
  -- does the comma before the next one.
  induction items generalizing first fuel with
  | nil =>
    cases fuel with
    | zero => cases hfuel
    | succ fuel =>
      rw [itemChars, itemChars, joined_singleton] at hfuel ⊢
      rw [itemsWith?, hfirst (by omega) (endsValue_cons (by decide) rest)]
      simp only [Option.bind_eq_bind, Option.bind_some, skipBlanks_bracket]
  | cons next items ih =>
    cases fuel with
    | zero => cases hfuel
    | succ fuel =>
      rw [List.forall_mem_cons] at hitems
      rw [itemChars, itemChars, joined_cons_cons] at hfuel ⊢
      rw [List.length_append, List.length_cons] at hfuel
      have hrest : itemsWith? fuel (joined (next.chars :: itemChars items) ++ ']' :: rest) =
          some (next :: items, rest) := ih hitems.1 hitems.2 (by rw [itemChars]; omega)
      rw [List.append_assoc, List.cons_append, itemsWith?,
        hfirst (by omega) (endsValue_cons (by decide) _)]
      simp only [Option.bind_eq_bind, Option.bind_some, skipBlanks_comma, hrest]

theorem quoted_append (s : String) (rest : List Char) :
    quoted s ++ rest = '"' :: (s.toList.flatMap escaped ++ '"' :: rest) := by
  simp [quoted]

/-- An entry is read from its text, and what comes after it says whether more entries do. -/
theorem entriesWith?_entry (key : String) {j : Json} (hj : j.Reads) {fuel : Nat} {tail : List Char}
    (hfuel : 2 * j.chars.length < fuel) (htail : EndsValue tail) :
    entriesWith? (fuel + 1) (quoted key ++ ':' :: j.chars ++ tail) =
      match skipBlanks tail with
      | '\x7d' :: rest => some ([(some key, j)], rest)
      | ',' :: rest => (entriesWith? fuel rest).bind fun (entries, rest) =>
        some ((some key, j) :: entries, rest)
      | _ => none := by
  rw [List.append_assoc, List.cons_append, quoted_append, entriesWith?,
    skipBlanks_cons (by decide)]
  simp only [string?_quoted, Option.bind_eq_bind, Option.bind_some, skipBlanks_colon]
  rw [hj hfuel htail]
  rfl

/-- The entries of an object are read from their texts, each with its key. -/
theorem entriesWith?_joined {first : String × Json} {entries : List (String × Json)}
    (hfirst : first.2.Reads) (hentries : ∀ p ∈ entries, p.2.Reads) {fuel : Nat} {rest : List Char}
    (hfuel : 2 * (joined (entryChars (first :: entries))).length + 2 < fuel) :
    entriesWith? fuel (joined (entryChars (first :: entries)) ++ '\x7d' :: rest) =
      some ((first :: entries).map fun p => (some p.1, p.2), rest) := by
  induction entries generalizing first fuel with
  | nil =>
    cases fuel with
    | zero => cases hfuel
    | succ fuel =>
      rw [entryChars, entryChars, joined_singleton] at hfuel ⊢
      rw [List.length_append, List.length_cons] at hfuel
      rw [entriesWith?_entry _ hfirst (by omega) (endsValue_cons (by decide) rest),
        skipBlanks_brace]
      rfl
  | cons next entries ih =>
    cases fuel with
    | zero => cases hfuel
    | succ fuel =>
      rw [List.forall_mem_cons] at hentries
      rw [entryChars, entryChars, joined_cons_cons] at hfuel ⊢
      simp only [List.length_append, List.length_cons] at hfuel
      have hrest : entriesWith? fuel (joined
          ((quoted next.1 ++ ':' :: next.2.chars) :: entryChars entries) ++ '\x7d' :: rest) =
            some ((next :: entries).map fun p => (some p.1, p.2), rest) :=
        ih hentries.1 hentries.2 (by rw [entryChars]; omega)
      rw [List.append_assoc, List.cons_append,
        entriesWith?_entry _ hfirst (by omega) (endsValue_cons (by decide) _), skipBlanks_comma]
      simp only [hrest, Option.bind_some, List.map_cons]

/-- Entries whose keys have values make an object. -/
theorem ofEntries_map (entries : List (String × Json)) :
    ofEntries (entries.map fun p => (some p.1, p.2)) = obj entries := by
  have hread : (entries.map fun p => (some p.1, p.2)).mapM
      (fun (p : Option String × Json) => p.1.map fun key => (key, p.2)) = some entries :=
    mapM_map_eq_some fun p _ => rfl
  simp only [ofEntries, hread]

theorem reads_of_succ {j : Json} (h : ∀ ⦃fuel rest⦄, 2 * j.chars.length ≤ fuel → EndsValue rest →
    valueWith? (fuel + 1) (j.chars ++ rest) = some (j, rest)) : j.Reads := by
  intro fuel rest hfuel hrest
  cases fuel with
  | zero => cases hfuel
  | succ fuel => exact h (by omega) hrest

theorem itemsWith?_bracket (fuel : Nat) (rest : List Char) :
    itemsWith? fuel (']' :: rest) = none := by
  rcases fuel with _ | _ | fuel <;> rfl

theorem entriesWith?_brace (fuel : Nat) (rest : List Char) :
    entriesWith? fuel ('\x7d' :: rest) = none := by
  cases fuel <;> rfl

theorem reads_arr {items : List Json} (h : ∀ j ∈ items, j.Reads) : (arr items).Reads := by
  refine reads_of_succ fun fuel rest hfuel hrest => ?_
  cases items with
  | nil => rfl
  | cons first items =>
    rw [List.forall_mem_cons] at h
    rw [chars] at hfuel ⊢
    simp only [List.cons_append, List.length_cons, List.length_append, List.length_nil] at hfuel
    have hitems : itemsWith? fuel (joined (itemChars (first :: items)) ++ ']' :: rest) =
        some (first :: items, rest) := itemsWith?_joined h.1 h.2 (by omega)
    rw [List.cons_append, List.cons_append, List.append_assoc, valueWith?,
      skipBlanks_cons (by decide)]
    simp only [List.singleton_append]
    split
    · rename_i tail hclosed
      -- no item begins with the bracket that closes the array
      rw [← itemsWith?_skipBlanks, hclosed, itemsWith?_bracket] at hitems
      cases hitems
    · rw [itemsWith?_skipBlanks, hitems]
      rfl

theorem reads_obj {entries : List (String × Json)} (h : ∀ p ∈ entries, p.2.Reads) :
    (obj entries).Reads := by
  refine reads_of_succ fun fuel rest hfuel hrest => ?_
  cases entries with
  | nil => rfl
  | cons first entries =>
    rw [List.forall_mem_cons] at h
    rw [chars] at hfuel ⊢
    simp only [List.cons_append, List.length_cons, List.length_append, List.length_nil] at hfuel
    have hentries : entriesWith? fuel (joined (entryChars (first :: entries)) ++ '\x7d' :: rest) =
        some ((first :: entries).map fun p => (some p.1, p.2), rest) :=
      entriesWith?_joined h.1 h.2 (by omega)
    rw [List.cons_append, List.cons_append, List.append_assoc, valueWith?,
      skipBlanks_cons (by decide)]
    simp only [List.singleton_append]
    split
    · rename_i tail hclosed
      -- an entry begins with the quote of its key
      rw [← entriesWith?_skipBlanks, hclosed, entriesWith?_brace] at hentries
      cases hentries
    · rw [entriesWith?_skipBlanks, hentries, Option.map_some, ofEntries_map]

/-- A lossless value is read from its text before the end of a value. -/
theorem Lossless.reads {j : Json} (h : j.Lossless) : j.Reads := by
  -- The induction is on what the value holds; only numbers could run into the text after them.
  induction h with
  | null => exact reads_of_succ fun _ _ _ _ => rfl
  | bool b => exact reads_of_succ fun _ _ _ _ => by cases b <;> rfl
  | int hmin hmax => exact reads_of_succ fun _ _ _ hrest => valueWith?_int hmin hmax hrest (by simp)
  | float hx => exact reads_of_succ fun _ _ _ hrest => valueWith?_float hx hrest (by simp)
  | str s =>
    refine reads_of_succ fun fuel rest _ _ => ?_
    rw [chars, quoted_append, valueWith?, skipBlanks_cons (by decide)]
    simp only [string?_quoted, Option.map_some]
  | arr _ ih => exact reads_arr ih
  | obj _ ih => exact reads_obj ih

/-- A lossless value is read from its text. -/
theorem value?_text {j : Json} (h : j.Lossless) : value? j.text.toList = some (j, []) := by
  have hread := h.reads (Nat.lt_succ_self (2 * j.chars.length)) endsValue_nil
  rw [List.append_nil] at hread
  rw [text, String.toList_ofList]
  exact hread

end RecordForms.Json
