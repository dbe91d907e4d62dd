import RecordForms.Proofs.Number.Digits
import RecordForms.Reader.Rules
import RecordForms.Tree.Literal

/-!
# Numbers read from a source file

The rule for numbers takes the digits of a numeral, all of them and nothing else, as long as what
comes after them could not belong to a number; a point among the digits makes the number a float.  A
sign before a numeral is read as an operator of its own.

## Main definitions

* `EndsNumber rest`: nothing at the beginning of `rest` goes on with a number
* `operand? cs`: the operand that a text is, if all of it is one

## Main results

* `number_of_numeral`: a numeral is read as the literal that it is
* `operand?_numeral`: a numeral, perhaps with a minus before it, is an operand
-/

namespace RecordForms.Reader

open Number

/-! ### Running rules -/

section Running

variable {α β : Type} {p q : Parse α} {c : Cursor}

theorem run_bind (p : Parse α) (q : α → Parse β) (c : Cursor) :
    (p >>= q) c = (p c).bind fun r => q r.1 r.2 := rfl

theorem run_pure (a : α) (c : Cursor) : (pure a : Parse α) c = some (a, c) := rfl

theorem run_here (c : Cursor) : Parse.here c = some (c, c) := rfl

theorem run_sees (lead : String) (c : Cursor) : Parse.sees lead c = some (c.sees lead, c) := rfl

theorem run_ensure_true (c : Cursor) : Parse.ensure true c = some ((), c) := rfl

theorem run_orElse (p q : Parse α) (c : Cursor) : (p <|> q) c = (p c).or (q c) := by
  change StateT.orElse p (fun _ => q) c = (p c).or (q c)
  cases h : p c <;> simp [StateT.orElse, h]

theorem run_attempt_some {r : α × Cursor} (h : p c = some r) :
    Parse.attempt p c = some (some r.1, r.2) := by
  rw [Parse.attempt, h]

theorem run_attempt_none (h : p c = none) : Parse.attempt p c = some (none, c) := by
  rw [Parse.attempt, h]

end Running

/-! ### Moving a cursor -/

namespace Cursor

theorem rest_step (c : Cursor) : c.step.rest = c.rest.drop 1 := by
  unfold step
  split <;> simp_all

theorem offset_step {c : Cursor} (h : c.rest ≠ []) : c.step.offset = c.offset + 1 := by
  unfold step
  split <;> simp_all

theorem rest_drop (c : Cursor) (n : Nat) : (c.drop n).rest = c.rest.drop n := by
  induction n generalizing c with
  | zero => rfl
  | succ n ih => rw [drop, ih, rest_step, List.drop_drop, Nat.add_comm]

theorem offset_drop {c : Cursor} {n : Nat} (h : n ≤ c.rest.length) :
    (c.drop n).offset = c.offset + n := by
  induction n generalizing c with
  | zero => rfl
  | succ n ih =>
    have hne : c.rest ≠ [] := by
      rintro hnil
      simp [hnil] at h
    have hle : n ≤ c.step.rest.length := by
      rw [rest_step, List.length_drop]
      omega
    rw [drop, ih hle, offset_step hne]
    omega

theorem drop_drop (c : Cursor) (m n : Nat) : (c.drop m).drop n = c.drop (m + n) := by
  induction m generalizing c with
  | zero => rw [drop, Nat.zero_add]
  | succ m ih => rw [drop, ih, Nat.succ_add, drop]

theorem charsTo_drop {c : Cursor} {n : Nat} (h : n ≤ c.rest.length) :
    c.charsTo (c.drop n) = c.rest.take n := by
  rw [charsTo, offset_drop h, Nat.add_sub_cancel_left]

end Cursor

/-! ### Numerals -/

/-- Whether nothing at the beginning of `rest` could go on with a number. -/
def EndsNumber (rest : List Char) : Prop :=
  ∀ d ∈ rest.head?, d ≠ '.' ∧ isNamePart d = false

/-- What a numeral is called: with a point in it, it is a float. -/
def numeralKind (cs : List Char) : String :=
  if cs.contains '.' then "float" else "integer"

section Number

variable {ds es rest letters : List Char} {c : Cursor}

theorem endsNumber_nil : EndsNumber [] := nofun

theorem isNamePart_of_isDigit {d : Char} (h : d.isDigit) : isNamePart d := by
  have hle : d.toNat ≤ 57 := (Char.isDigit_iff_toNat.mp h).2
  have hlt : d.toNat < 128 := by omega
  simp [isNamePart, Text.isIdentifierContinue, hlt, Char.isAlphanum, h]

theorem digitsLength_append (wasDigit : Bool) (hds : ∀ d ∈ ds, d.isDigit)
    (hrest : ∀ d ∈ rest.head?, ¬ d.isDigit ∧ d ≠ '_') :
    digitsLength wasDigit (ds ++ rest) = ds.length := by
  induction ds generalizing wasDigit with
  | nil =>
    cases rest with
    | nil => rfl
    | cons d rest =>
      obtain ⟨hdigit, hgroup⟩ := hrest d rfl
      simp [digitsLength, hdigit, hgroup]
  | cons d ds ih =>
    rw [List.forall_mem_cons] at hds
    rw [List.cons_append, digitsLength, if_pos hds.1, ih true hds.2, List.length_cons]

/-- Digits are taken, all of them and nothing else. -/
theorem run_digits (hds : IsDigits ds) (hc : c.rest = ds ++ rest)
    (hrest : ∀ d ∈ rest.head?, ¬ d.isDigit ∧ d ≠ '_') :
    Parse.digits c = some ((), c.drop ds.length) := by
  have hlength : ds.length ≠ 0 := by simpa using hds.1
  rw [Parse.digits, Parse.some?, hc, digitsLength_append false hds.2 hrest, if_neg hlength]

theorem run_anyOf_none (h : ∀ d ∈ c.rest.head?, d ∉ letters) : Parse.anyOf letters c = none := by
  unfold Parse.anyOf
  split
  · rename_i d rest hc
    have hd : d ∉ letters := h d (by rw [hc]; rfl)
    rw [List.contains_eq_mem, decide_eq_false hd, if_neg Bool.false_ne_true]
  · rfl

theorem run_sees_point (hc : c.rest = '.' :: rest) : c.sees "." = true := by
  simp [Cursor.sees, hc]

theorem EndsNumber.sees_point (h : EndsNumber c.rest) : c.sees "." = false := by
  cases hc : c.rest with
  | nil => simp [Cursor.sees, hc]
  | cons d rest =>
    have hd : d ≠ '.' := (h d (by rw [hc]; rfl)).1
    simp [Cursor.sees, hc, List.isPrefixOf, hd.symm]

theorem EndsNumber.not_digit (h : EndsNumber rest) : ∀ d ∈ rest.head?, ¬ d.isDigit ∧ d ≠ '_' := by
  intro d hd
  have hpart := (h d hd).2
  refine ⟨fun hdigit => ?_, ?_⟩
  · rw [isNamePart_of_isDigit hdigit] at hpart
    cases hpart
  · rintro rfl
    cases hpart

/-- Neither a digit nor what ends a number is one of the letters that may stand in a number. -/
theorem EndsNumber.head_notMem (h : EndsNumber rest) (hds : ∀ d ∈ ds, d.isDigit)
    (hletters : letters.all fun l => isNamePart l && !l.isDigit) :
    ∀ d ∈ (ds ++ rest).head?, d ∉ letters := by
  intro d hd hmem
  obtain ⟨hletter, hdigit⟩ : isNamePart d ∧ ¬ d.isDigit := by
    simpa using List.all_eq_true.mp hletters d hmem
  cases ds with
  | nil =>
    have hpart := (h d hd).2
    rw [hletter] at hpart
    cases hpart
  | cons e ds =>
    obtain rfl : e = d := by simpa using hd
    exact hdigit (hds e List.mem_cons_self)

/-- A numeral without a letter after its first digit is of no other base. -/
theorem run_based_none {isDigit : Char → Bool} (hds : ∀ d ∈ ds, d.isDigit)
    (hc : c.rest = ds ++ rest) (hrest : EndsNumber rest)
    (hletters : letters.all fun l => isNamePart l && !l.isDigit) :
    Parse.based letters isDigit c = none := by
  -- the numeral may begin with a zero, but what comes next is no letter of a base
  rw [Parse.based, run_bind, Parse.eat]
  split
  · have hnext : ∀ d ∈ (c.drop "0".length).rest.head?, d ∉ letters := by
      rw [Cursor.rest_drop, hc]
      cases ds with
      | nil =>
        rename_i hsees
        cases rest with
        | nil => simp [Cursor.sees, hc] at hsees
        | cons d rest =>
          obtain rfl : '0' = d := by simpa [Cursor.sees, hc] using hsees
          exact absurd rfl (hrest.not_digit '0' rfl).1
      | cons d ds =>
        exact hrest.head_notMem (fun e he => hds e (List.mem_cons_of_mem d he)) hletters
    rw [Option.bind_some, run_bind, run_anyOf_none hnext, Option.bind_none]
  · rfl

theorem EndsNumber.run_anyOf_none (h : EndsNumber c.rest)
    (hletters : letters.all fun l => isNamePart l && !l.isDigit) : Parse.anyOf letters c = none :=
  Reader.run_anyOf_none (h.head_notMem (List.forall_mem_nil _) hletters)

theorem EndsNumber.run_exponent_none (h : EndsNumber c.rest) : Parse.exponent c = none := by
  rw [Parse.exponent, run_bind, h.run_anyOf_none (by decide), Option.bind_none]

theorem run_literal {kind : String} {read : List Char → Option Value} {n : Nat}
    (h : n ≤ c.rest.length) : Parse.literal kind c read (c.drop n) =
      some (⟨kind, c, Value.literal kind (read (c.rest.take n)) (c.rest.take n)⟩, c.drop n) := by
  rw [Parse.literal, Cursor.charsTo_drop h]
  cases hread : read (c.rest.take n) with
  | some v => rfl
  | none => simp only [Parse.kept, Cursor.textTo, Cursor.charsTo_drop h, Value.literal]

/-- Digits without a point are no float. -/
theorem run_float_none (hds : IsDigits ds) (hc : c.rest = ds ++ rest) (hrest : EndsNumber rest) :
    Parse.float c = none := by
  -- after the digits there is neither a point nor an exponent
  have hends : EndsNumber (c.drop ds.length).rest := by
    rwa [Cursor.rest_drop, hc, List.drop_left]
  rw [Parse.float, run_bind, run_attempt_some (run_digits hds hc hrest.not_digit),
    Option.bind_some, run_bind, run_sees, Option.bind_some, hends.sees_point,
    if_neg Bool.false_ne_true, run_bind, Option.isSome_some, run_ensure_true, Option.bind_some,
    run_bind, hends.run_exponent_none, Option.bind_none]

/-- Digits on both sides of a point are a float. -/
theorem run_float (hds : IsDigits ds) (hes : IsDigits es) (hc : c.rest = ds ++ '.' :: (es ++ rest))
    (hrest : EndsNumber rest) : Parse.float c = some ((), c.drop (ds ++ '.' :: es).length) := by
  have hpoint : ∀ d ∈ ('.' :: (es ++ rest)).head?, ¬ d.isDigit ∧ d ≠ '_' := by
    rintro d ⟨rfl⟩
    decide
  -- the digits before the point, the point, and the digits after it
  have hwhole := run_digits hds hc hpoint
  have hrest₁ : (c.drop ds.length).rest = '.' :: (es ++ rest) := by
    rw [Cursor.rest_drop, hc, List.drop_left]
  have hrest₂ : ((c.drop ds.length).drop 1).rest = es ++ rest := by
    rw [Cursor.rest_drop, hrest₁, List.drop_one, List.tail_cons]
  have hfraction := run_digits hes hrest₂ hrest.not_digit
  have hlength : ds.length + 1 + es.length = (ds ++ '.' :: es).length := by
    rw [List.length_append, List.length_cons]
    omega
  rw [Cursor.drop_drop, Cursor.drop_drop, hlength] at hfraction
  -- neither an exponent nor a letter follows
  have hends : EndsNumber (c.drop (ds ++ '.' :: es).length).rest := by
    rw [Cursor.rest_drop, hc]
    simpa using hrest
  have heat : Parse.eat "." (c.drop ds.length) = some ((), c.drop (ds.length + 1)) := by
    rw [Parse.eat, run_sees_point hrest₁, if_pos rfl, ← Cursor.drop_drop]
    rfl
  have hletter : Parse.anyOf ['j', 'J'] (c.drop (ds ++ '.' :: es).length) = none :=
    hends.run_anyOf_none (by decide)
  rw [Parse.float, run_bind, run_attempt_some hwhole, Option.bind_some, run_bind, run_sees,
    Option.bind_some, run_sees_point hrest₁, if_pos rfl, run_bind, heat, Option.bind_some, run_bind,
    run_attempt_some hfraction, Option.bind_some, run_bind]
  simp only [Option.isSome_some, Bool.or_self, run_ensure_true, Option.bind_some, run_bind,
    run_attempt_none hends.run_exponent_none, run_attempt_none hletter, run_pure]

/-- Digits without a point are a whole number. -/
theorem run_integer (hds : IsDigits ds) (hc : c.rest = ds ++ rest) (hrest : EndsNumber rest) :
    Parse.integer c = some ((), c.drop ds.length) := by
  have hends : EndsNumber (c.drop ds.length).rest := by
    rwa [Cursor.rest_drop, hc, List.drop_left]
  have hletter : Parse.anyOf ['l', 'L', 'j', 'J'] (c.drop ds.length) = none :=
    hends.run_anyOf_none (by decide)
  have hdecimal : Parse.decimal c = some ((), c.drop ds.length) := by
    rw [Parse.decimal, run_bind, run_digits hds hc hrest.not_digit, Option.bind_some, run_bind,
      run_attempt_none hletter, Option.bind_some, run_pure]
  rw [Parse.integer, run_orElse, run_orElse, run_orElse, hdecimal,
    run_based_none hds.2 hc hrest (by decide), run_based_none hds.2 hc hrest (by decide),
    run_based_none hds.2 hc hrest (by decide), Option.none_or, Option.none_or, Option.none_or]

/-- A numeral is read as the literal that it is. -/
theorem number_of_numeral {cs : List Char} (h : IsNumeral cs) (hc : c.rest = cs ++ rest)
    (hrest : EndsNumber rest) : Parse.number c =
      some (⟨numeralKind cs, c, Value.numeral cs⟩, c.drop cs.length) := by
  have hle : cs.length ≤ c.rest.length := by
    rw [hc, List.length_append]
    omega
  have htake : c.rest.take cs.length = cs := by
    rw [hc, List.take_left]
  rcases h with h | h
  · rw [Parse.number, run_bind, run_here, Option.bind_some, run_bind,
      run_attempt_none (run_float_none h hc hrest), Option.bind_some]
    dsimp only
    rw [run_bind, run_integer h hc hrest, Option.bind_some, run_literal hle, htake, numeralKind,
      Value.numeral, h.contains_point, if_neg Bool.false_ne_true, if_neg Bool.false_ne_true]
  · obtain ⟨ds, es, hds, hes, hcs⟩ := id h
    have hc' : c.rest = ds ++ '.' :: (es ++ rest) := by
      rw [hc, hcs, List.append_assoc, List.cons_append]
    rw [Parse.number, run_bind, run_here, Option.bind_some, run_bind,
      run_attempt_some (run_float hds hes hc' hrest), ← hcs, Option.bind_some]
    dsimp only
    rw [run_literal hle, htake, numeralKind, Value.numeral, h.contains_point, if_pos rfl,
      if_pos rfl]

/-! ### Operands -/

theorem sees_eq_false {lead : String} {l : Char} {ls : List Char} (hlead : lead.toList = l :: ls)
    (h : c.rest.head? ≠ some l) : c.sees lead = false := by
  rw [Cursor.sees, hlead]
  cases hc : c.rest with
  | nil => rfl
  | cons d rest =>
    have hne : l ≠ d := by
      rintro rfl
      exact h (by rw [hc]; rfl)
    simp [List.isPrefixOf, hne]

theorem run_eat_none {lead : String} {l : Char} {ls : List Char} (hlead : lead.toList = l :: ls)
    (h : c.rest.head? ≠ some l) : Parse.eat lead c = none := by
  rw [Parse.eat, sees_eq_false hlead h, if_neg Bool.false_ne_true]

/-- An operand that nothing follows is not continued. -/
theorem run_repeated_trailer {r : Rules} {f : Follow} {p : Piece} (h : c.proceed? f = none) :
    Parse.repeated (Parse.trailer r f) p c = some (p, c) := by
  have htrailer : Parse.trailer r f p c = none := by
    rw [Parse.trailer, run_bind, Parse.proceed, h]
    rfl
  rw [Parse.repeated]
  cases c.rest with
  | nil => rfl
  | cons d rest =>
    rw [Parse.iterate, run_bind, run_attempt_none htrailer, Option.bind_some]
    rfl

section Digit

variable {d : Char} {tail : List Char} {r : Rules} {f : Follow}

theorem head?_ne_of_digit (hc : c.rest = d :: tail) (hd : d.isDigit) {l : Char}
    (hl : ¬ l.isDigit) : c.rest.head? ≠ some l := by
  rw [hc, List.head?_cons, ne_eq, Option.some.injEq]
  rintro rfl
  exact hl hd

theorem run_starred_none {kind : String} {atom : Parse Piece} (hc : c.rest = d :: tail)
    (hd : d.isDigit) : Parse.starred r f kind atom c = none := by
  have hstar := head?_ne_of_digit hc hd (l := '*') (by decide)
  rw [Parse.starred, run_bind, run_here, Option.bind_some, run_bind, sees_eq_false rfl hstar,
    Bool.not_false, run_ensure_true, Option.bind_some, run_bind, run_eat_none rfl hstar,
    Option.bind_none]

theorem run_atom_of_digit (hc : c.rest = d :: tail) (hd : d.isDigit) :
    Parse.atom r f c = Parse.number c := by
  have hhead {l : Char} (hl : ¬ l.isDigit) : c.rest.head? ≠ some l := head?_ne_of_digit hc hd hl
  rw [Parse.atom, run_bind, run_here, Option.bind_some]
  refine congrFun (?_ : _ = Parse.number) c
  split
  · rename_i hrest
    exact absurd (by rw [hrest]; rfl) (hhead (l := '(') (by decide))
  · rename_i hrest
    exact absurd (by rw [hrest]; rfl) (hhead (l := '[') (by decide))
  · rename_i hrest
    exact absurd (by rw [hrest]; rfl) (hhead (l := '\x7b') (by decide))
  · rename_i hrest
    obtain ⟨rfl, -⟩ := List.cons.inj (hrest.symm.trans hc)
    rw [if_pos hd]
  · rename_i hrest
    rw [hrest] at hc
    cases hc

theorem run_sign_none (hc : c.rest = d :: tail) (hd : d.isDigit) : Parse.sign c = none := by
  have hhead {l : Char} (hl : ¬ l.isDigit) : c.rest.head? ≠ some l := head?_ne_of_digit hc hd hl
  rw [Parse.sign, run_orElse, run_orElse, run_bind, run_bind, run_bind,
    run_eat_none rfl (hhead (l := '-') (by decide)),
    run_eat_none rfl (hhead (l := '+') (by decide)),
    run_eat_none rfl (hhead (l := '~') (by decide))]
  rfl

/-- A digit is a token: nothing is passed over on the way to it. -/
theorem seek?_of_digit (hc : c.rest = d :: tail) (hd : d.isDigit) : c.seek? false = some c := by
  have hne {l : Char} (hl : ¬ l.isDigit) : d ≠ l := by
    rintro rfl
    exact hl hd
  have hindentation : isIndentation d = false := by
    simp [isIndentation, hne (l := ' ') (by decide), hne (l := '\t') (by decide),
      hne (l := '\r') (by decide), hne (l := '\x0c') (by decide)]
  have hblank : isBlank d = false := by
    simp [isBlank, hindentation, hne (l := '\n') (by decide), hne (l := '\x0b') (by decide),
      hne (l := '\ufeff') (by decide), hne (l := '\u2060') (by decide),
      hne (l := '\u200b') (by decide)]
  have hjoin : joinLength? (d :: tail) = none := by
    unfold joinLength?
    split
    · rename_i heq
      exact absurd (List.cons.inj heq).1 (hne (by decide))
    · rename_i heq
      exact absurd (List.cons.inj heq).1 (hne (by decide))
    · rfl
  -- there is no gap, and nothing to skip after it
  have hgap : c.gap false = ⟨c, false, 0, none⟩ := by
    rw [Cursor.gap, hc, Cursor.gapFrom]
    dsimp only
    split
    · rename_i hrest
      cases hc.symm.trans hrest
    · rename_i hrest
      exact absurd (List.cons.inj (hc.symm.trans hrest)).1 (hne (by decide))
    · rfl
    · rename_i hrest
      obtain ⟨rfl, -⟩ := List.cons.inj (hc.symm.trans hrest)
      rw [hindentation, if_neg Bool.false_ne_true, hc, hjoin]
  have hskip : c.skipBlanks = c := by
    have hdrop : c.dropWhile isBlank = c := by
      rw [Cursor.dropWhile, hc, List.takeWhile_cons_of_neg (by simp [hblank])]
      rfl
    rw [Cursor.skipBlanks, hc, Cursor.skipBlanksFrom, hdrop, hc, hjoin]
  rw [Cursor.seek?, hc, Cursor.seekFrom, hgap, hskip, Cursor.leavesBlock, Bool.false_and,
    Bool.false_and, Bool.false_and, Bool.and_false, if_neg Bool.false_ne_true]
  dsimp only
  split
  · rename_i hrest
    cases hc.symm.trans hrest
  · rename_i hrest
    exact absurd (List.cons.inj (hc.symm.trans hrest)).1 (hne (by decide))
  · rfl

end Digit

/-- A numeral that nothing follows is an operand. -/
theorem signedWith_of_numeral {cs : List Char} {r : Rules} {f : Follow} (h : IsNumeral cs)
    (hc : c.rest = cs ++ rest) (hrest : EndsNumber rest)
    (hnext : (c.drop cs.length).proceed? f = none) : Parse.signedWith r f c =
      some (⟨numeralKind cs, c, Value.numeral cs⟩, c.drop cs.length) := by
  obtain ⟨d, tail, rfl, hd⟩ := h.exists_cons
  -- only `await` would be read on as an operator
  have hkind : numeralKind (d :: tail) ≠ "await" := by
    unfold numeralKind
    split <;> decide
  have hprimary : Parse.primary r f c =
      some (⟨numeralKind (d :: tail), c, Value.numeral (d :: tail)⟩,
        c.drop (d :: tail).length) := by
    rw [Parse.primary, run_bind, run_orElse, run_starred_none hc hd, Option.none_or,
      run_atom_of_digit hc hd, number_of_numeral h hc hrest, Option.bind_some]
    dsimp only
    rw [if_neg hkind, run_repeated_trailer hnext]
  -- no power follows
  have hclose : Parse.close f "**" (c.drop (d :: tail).length) = none := by
    rw [Parse.close, run_bind, Parse.proceed, hnext]
    rfl
  rw [Parse.signedWith, run_bind, run_here, Option.bind_some, run_bind,
    run_attempt_none (run_sign_none hc hd), Option.bind_some]
  dsimp only
  rw [run_bind, hprimary, Option.bind_some, run_orElse, run_bind, hclose, Option.bind_none,
    Option.none_or, run_pure]

theorem proceed?_eq_none {f : Follow} (h : c.rest = []) : c.proceed? f = none := by
  cases f with
  | line => rw [Cursor.proceed?, Cursor.gap, h]; rfl
  | closer => rw [Cursor.proceed?, Cursor.seek?, h]; rfl
  | token => rw [Cursor.proceed?, Cursor.seek?, h]; rfl

end Number

/-- The operand that a text is, if all of it is one. -/
def operand? (cs : List Char) : Option Expr :=
  let c := Cursor.ofString (String.ofList cs)
  match (Rules.ofDepth (cs.length + 1)).signed .line c with
  | some (p, d) => if d.isAtEnd then some p.expr else none
  | none => none

/-- A numeral at the end of a text is read as an operand. -/
theorem signed_of_numeral {cs : List Char} {c : Cursor} (h : IsNumeral cs) (hc : c.rest = cs)
    (depth : Nat) : (Rules.ofDepth (depth + 1)).signed .line c =
      some (⟨numeralKind cs, c, Value.numeral cs⟩, c.drop cs.length) := by
  have hend : (c.drop cs.length).rest = [] := by
    rw [Cursor.rest_drop, hc, List.drop_length]
  exact signedWith_of_numeral h (hc.trans (List.append_nil cs).symm) endsNumber_nil
    (proceed?_eq_none hend)

/-- A numeral with a minus before it is read as the opposite of the numeral. -/
theorem signed_of_neg_numeral {cs : List Char} {c : Cursor} (h : IsNumeral cs)
    (hc : c.rest = '-' :: cs) (depth : Nat) : (Rules.ofDepth (depth + 2)).signed .line c =
      some (⟨"unary_operator", c, .unary .neg (Value.numeral cs)⟩, c.drop (cs.length + 1)) := by
  obtain ⟨d, tail, hcs, hd⟩ := h.exists_cons
  have hrest : (c.drop 1).rest = cs := by
    rw [Cursor.rest_drop, hc, List.drop_one, List.tail_cons]
  have heat : Parse.eat "-" c = some ((), c.drop 1) := by
    have hsees : c.sees "-" = true := by simp [Cursor.sees, hc]
    rw [Parse.eat, hsees, if_pos rfl]
    rfl
  have hsign : Parse.sign c = some (.neg, c.drop 1) := by
    rw [Parse.sign, run_orElse, run_bind, heat]
    rfl
  have hseek : Parse.seek false (c.drop 1) = some ((), c.drop 1) := by
    rw [Parse.seek, seek?_of_digit (hrest.trans hcs) hd]
    rfl
  -- what follows the sign is read with the rules of one level below
  have hsigned : (Rules.ofDepth (depth + 2)).signed .line c =
      Parse.signedWith (Rules.ofDepth (depth + 1)) .line c := rfl
  rw [hsigned, Parse.signedWith, run_bind, run_here, Option.bind_some, run_bind,
    run_attempt_some hsign, Option.bind_some]
  dsimp only
  rw [run_bind, hseek, Option.bind_some, run_bind, signed_of_numeral h hrest depth,
    Option.bind_some, run_pure, Cursor.drop_drop, Nat.add_comm 1]

theorem operand?_of_signed {cs : List Char} {n : Nat} {p : Piece} (hn : cs.length = n)
    (h : (Rules.ofDepth (n + 1)).signed .line (.ofString (String.ofList cs)) =
      some (p, (Cursor.ofString (String.ofList cs)).drop n)) :
    operand? cs = some p.expr := by
  subst hn
  have hend : ((Cursor.ofString (String.ofList cs)).drop cs.length).isAtEnd := by
    rw [Cursor.isAtEnd, Cursor.rest_drop, Cursor.ofString, String.toList_ofList, List.drop_length,
      List.isEmpty_nil]
  rw [operand?, h]
  exact if_pos hend

/-- **A numeral, perhaps with a minus before it, is an operand**: the literal that it is, or the
opposite of that literal. -/
theorem operand?_numeral {cs : List Char} (h : IsNumeral cs) (isNegative : Bool) :
    operand? ((if isNegative then ['-'] else []) ++ cs) =
      some (Value.signed isNegative (Value.numeral cs)) := by
  cases isNegative with
  | false => exact operand?_of_signed rfl (signed_of_numeral h String.toList_ofList cs.length)
  | true =>
    exact operand?_of_signed (n := cs.length + 1) rfl
      (signed_of_neg_numeral h String.toList_ofList cs.length)

end RecordForms.Reader
