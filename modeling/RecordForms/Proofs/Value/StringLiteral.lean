import RecordForms.Proofs.Value.Quoted
import RecordForms.Reader.Quoted

/-!
# Which literals are read

A literal of a text or of bytes is read only if its escapes and its bytes can be told.  An escape
that names a character by number is followed by its digits, where a plus may stand for the first of
them; the characters between the quotes of a byte string have a number below 256, though not all of
them are ASCII.

## Main definitions

* `Value.StringLiteral`: letters, quotes and what stands between the quotes
* `Value.escapesIn cs`: the escapes of a body, each with what comes after its letter
* `Value.BeginsHex n cs`, `Value.BeginsPlusHex n cs`: what stands for the digits of an escape
* `Value.StringLiteral.IsStrict`: the literals with all the digits of their escapes, and ASCII bytes

## Main results

* `Value.exists_chars_eq_of_readString?`: what is read is a literal
* `Value.beginsHex_of_unescape`, `Value.toNat_lt_of_unescape`: what the body of a literal is then
* `Value.isStrict_iff_of_readString?`: which of the literals that are read are strict
-/

namespace RecordForms

namespace Value

/-! ### Escapes -/

/-- The character after each backslash that begins an escape, with what comes after it. -/
def escapesIn : List Char → List (Char × List Char)
  | [] => []
  | [_] => []
  | c :: d :: rest => if c = '\\' then (d, rest) :: escapesIn rest else escapesIn (d :: rest)

/-- The number of digits of an escape by number; among bytes there is only one such escape. -/
def digitCount? (bytes : Bool) (c : Char) : Option Nat :=
  if bytes && c ≠ 'x' then .none else Reader.escapeDigits? c

/-- Whether `cs` begins with `n` hexadecimal digits. -/
def BeginsHex (n : Nat) (cs : List Char) : Prop :=
  n ≤ cs.length ∧ ∀ c ∈ cs.take n, Text.isHex c

/-- Whether `cs` begins with a plus and with hexadecimal digits after it, `n` characters in all. -/
def BeginsPlusHex (n : Nat) (cs : List Char) : Prop :=
  cs.head? = some '+' ∧ BeginsHex (n - 1) cs.tail

instance (n : Nat) (cs : List Char) : Decidable (BeginsHex n cs) :=
  have : Decidable (∀ c ∈ cs.take n, Text.isHex c) := List.decidableBAll _ _
  inferInstanceAs (Decidable (_ ∧ _))

instance (n : Nat) (cs : List Char) : Decidable (BeginsPlusHex n cs) :=
  inferInstanceAs (Decidable (_ ∧ _))

/-- A plus is no digit. -/
theorem BeginsHex.not_beginsPlusHex {n : Nat} {cs : List Char} (h : BeginsHex n cs) (hn : 0 < n) :
    ¬ BeginsPlusHex n cs := by
  rintro ⟨hplus, -⟩
  obtain ⟨ds, rfl⟩ := List.head?_eq_some_iff.mp hplus
  obtain ⟨m, rfl⟩ := Nat.exists_eq_add_one_of_ne_zero (Nat.ne_of_gt hn)
  have hhex : Text.isHex '+' := h.2 '+' (by rw [List.take_succ_cons]; exact List.mem_cons_self)
  cases hhex

theorem escapesIn_cons_of_ne {c : Char} (h : c ≠ '\\') (cs : List Char) :
    escapesIn (c :: cs) = escapesIn cs := by
  cases cs with
  | nil => rfl
  | cons d rest => rw [escapesIn, if_neg h]

/-- Where there is no backslash, no escape begins. -/
theorem escapesIn_drop {k : Nat} {cs : List Char} (h : ∀ c ∈ cs.take k, c ≠ '\\') :
    escapesIn (cs.drop k) = escapesIn cs := by
  induction k generalizing cs with
  | zero => rfl
  | succ k ih =>
    cases cs with
    | nil => rfl
    | cons c cs =>
      rw [List.take_succ_cons, List.forall_mem_cons] at h
      rw [List.drop_succ_cons, ih h.2, escapesIn_cons_of_ne h.1]

theorem isHex_of_digitValue? {c : Char} {d : Nat} (h : Number.digitValue? c = some d) :
    Text.isHex c := by
  unfold Number.digitValue? at h
  unfold Text.isHex
  split at h
  · simp_all
  · split at h
    · simp_all
    · split at h
      · simp_all
      · cases h

theorem isHex_of_readDigits {base acc n : Nat} {cs : List Char}
    (h : Number.readDigits base acc cs = some n) : ∀ c ∈ cs, Text.isHex c := by
  induction cs generalizing acc with
  | nil => simp
  | cons c cs ih =>
    rw [Number.readDigits] at h
    split at h
    · rename_i d hd
      split at h
      · exact List.forall_mem_cons.mpr ⟨isHex_of_digitValue? hd, ih h⟩
      · cases h
    · cases h

theorem isHex_of_ofDigits? {base n : Nat} {cs : List Char}
    (h : Number.ofDigits? base cs = some n) : ∀ c ∈ cs, Text.isHex c := by
  unfold Number.ofDigits? at h
  split at h
  · cases h
  · exact isHex_of_readDigits h

/-- The number of an escape is given by its digits, with a plus in the place of the first or
without. -/
theorem beginsHex_of_hexEscape? {n m : Nat} {cs : List Char} (h : hexEscape? n cs = some m) :
    BeginsHex n cs ∨ BeginsPlusHex n cs := by
  unfold hexEscape? at h
  split at h
  · rename_i hlength
    rw [List.length_take] at hlength
    unfold Number.ofSignedDigits? at h
    split at h
    · -- the plus is taken off before the digits are read
      rename_i ds hds
      cases n with
      | zero => cases hds
      | succ k =>
        cases cs with
        | nil => cases hds
        | cons c cs =>
          rw [List.take_succ_cons, List.cons.injEq] at hds
          obtain ⟨rfl, rfl⟩ := hds
          rw [List.length_cons] at hlength
          exact .inr ⟨rfl, by rw [List.tail_cons]; omega, isHex_of_ofDigits? h⟩
    · exact .inl ⟨by omega, isHex_of_ofDigits? h⟩
  · cases h

/-! ### What an escape takes -/

/-- The characters that end an escape right after its backslash. -/
def simpleEscapes : List Char :=
  ['\n', '\\', '\x27', '"', 'n', 't', 'r', 'a', 'b', 'f', 'v']

section Escape

variable {bytes : Bool} {c : Char} {rest : List Char} {units : List Nat} {n used : Nat}

theorem digitCount?_cases (h : digitCount? bytes c = some n) :
    (c = 'x' ∧ n = 2) ∨ (bytes = false ∧ (c = 'u' ∧ n = 4 ∨ c = 'U' ∧ n = 8)) := by
  unfold digitCount? at h
  split at h
  · cases h
  · rename_i hbytes
    unfold Reader.escapeDigits? at h
    split at h
    · exact .inl ⟨rfl, (Option.some.inj h).symm⟩
    · exact .inr ⟨by simpa using hbytes, .inl ⟨rfl, (Option.some.inj h).symm⟩⟩
    · exact .inr ⟨by simpa using hbytes, .inr ⟨rfl, (Option.some.inj h).symm⟩⟩
    · cases h

theorem digitCount?_pos (h : digitCount? bytes c = some n) : 0 < n := by
  rcases digitCount?_cases h with ⟨-, rfl⟩ | ⟨-, ⟨-, rfl⟩ | ⟨-, rfl⟩⟩ <;> decide

/-- An escape by number takes its letter and its digits. -/
theorem escape?_of_digitCount? (h : digitCount? bytes c = some n) (rest : List Char) :
    escape? bytes (c :: rest) = (hexEscape? n rest).map fun m => ([m], n + 1) := by
  rcases digitCount?_cases h with ⟨rfl, rfl⟩ | ⟨rfl, ⟨rfl, rfl⟩ | ⟨rfl, rfl⟩⟩
  · rfl
  · rfl
  · rfl

theorem of_mem_simpleEscapes (h : c ∈ simpleEscapes) : c.toNat < 128 ∧ ¬ Text.isOctal c := by
  have hall : simpleEscapes.all fun d => d.toNat < 128 && !Text.isOctal d := by decide
  simpa using List.all_eq_true.mp hall c h

theorem escape?_of_mem (h : c ∈ simpleEscapes) (rest : List Char) :
    ∃ us, escape? bytes (c :: rest) = some (us, 1) := by
  simp only [simpleEscapes, List.mem_cons, List.not_mem_nil, or_false] at h
  rcases h with rfl | rfl | rfl | rfl | rfl | rfl | rfl | rfl | rfl | rfl | rfl
  all_goals exact ⟨_, rfl⟩

theorem escape?_of_notMem (h : c ∉ simpleEscapes) (rest : List Char) :
    escape? bytes (c :: rest) =
      if Text.isOctal c then
        (Number.ofDigits? 8 (c :: (rest.take 2).takeWhile Text.isOctal)).map fun m =>
          ([m], ((rest.take 2).takeWhile Text.isOctal).length + 1)
      else if c = 'x' then (hexEscape? 2 rest).map fun m => ([m], 3)
      else if c = 'u' && !bytes then (hexEscape? 4 rest).map fun m => ([m], 5)
      else if c = 'U' && !bytes then (hexEscape? 8 rest).map fun m => ([m], 9)
      else if c = 'N' && !bytes then .none
      else some (['\\'.toNat, c.toNat], 1) := by
  simp only [simpleEscapes, List.mem_cons, List.not_mem_nil, or_false, not_or] at h
  simp only [escape?, h, List.length_cons, decide_false, Bool.or_self, Bool.false_eq_true, if_false]

/-- An escape in base eight takes up to three digits. -/
theorem escape?_of_isOctal (h : Text.isOctal c) (rest : List Char) :
    escape? bytes (c :: rest) =
      (Number.ofDigits? 8 (c :: (rest.take 2).takeWhile Text.isOctal)).map fun m =>
        ([m], ((rest.take 2).takeWhile Text.isOctal).length + 1) := by
  have hsimple : c ∉ simpleEscapes := fun hmem => absurd h (of_mem_simpleEscapes hmem).2
  rw [escape?_of_notMem hsimple, if_pos h]

/-- Before any other character a backslash stands for itself. -/
theorem eq_of_escape? (hsimple : c ∉ simpleEscapes) (hoctal : ¬ Text.isOctal c)
    (hcount : digitCount? bytes c = .none)
    (h : escape? bytes (c :: rest) = some (units, used)) :
    units = ['\\'.toNat, c.toNat] ∧ used = 1 := by
  have hx : c ≠ 'x' := by
    rintro rfl
    cases bytes <;> cases hcount
  have hu : ¬ (c = 'u' && !bytes) = true := by
    rw [Bool.and_eq_true, decide_eq_true_eq, Bool.not_eq_true']
    rintro ⟨rfl, rfl⟩
    cases hcount
  have hU : ¬ (c = 'U' && !bytes) = true := by
    rw [Bool.and_eq_true, decide_eq_true_eq, Bool.not_eq_true']
    rintro ⟨rfl, rfl⟩
    cases hcount
  rw [escape?_of_notMem hsimple, if_neg hoctal, if_neg hx, if_neg hu, if_neg hU] at h
  split at h
  · cases h
  · cases h
    exact ⟨rfl, rfl⟩

theorem toNat_lt_of_isHex {d : Char} (h : Text.isHex d) : d.toNat < 128 := by
  have hle {e : Char} (hd : d ≤ e) : d.toNat ≤ e.toNat := UInt32.le_iff_toNat_le.mp hd
  simp only [Text.isHex, Bool.or_eq_true, Bool.and_eq_true, decide_eq_true_eq] at h
  rcases h with (h | ⟨-, h⟩) | ⟨-, h⟩
  · exact Nat.lt_of_le_of_lt (Char.isDigit_iff_toNat.mp h).2 (by decide)
  · exact Nat.lt_of_le_of_lt (hle h) (by decide)
  · exact Nat.lt_of_le_of_lt (hle h) (by decide)

theorem isHex_of_isOctal {d : Char} (h : Text.isOctal d) : Text.isHex d := by
  simp only [Text.isOctal, Bool.and_eq_true, decide_eq_true_eq] at h
  have hle : d.toNat ≤ 55 := UInt32.le_iff_toNat_le.mp h.2
  have hge : 48 ≤ d.toNat := UInt32.le_iff_toNat_le.mp h.1
  have hdigit : d.isDigit := Char.isDigit_iff_toNat.mpr ⟨hge, Nat.le_trans hle (by decide)⟩
  simp [Text.isHex, hdigit]

/-- What stands for the digits of an escape is digits and perhaps a plus. -/
theorem isHex_or_eq_of_mem_take {cs : List Char} (h : BeginsHex n cs ∨ BeginsPlusHex n cs) :
    ∀ d ∈ cs.take n, Text.isHex d ∨ d = '+' := by
  rcases h with ⟨-, h⟩ | ⟨hplus, -, h⟩
  · exact fun d hd => .inl (h d hd)
  · obtain ⟨ds, rfl⟩ := List.head?_eq_some_iff.mp hplus
    cases n with
    | zero => nofun
    | succ n =>
      rw [List.take_succ_cons, List.forall_mem_cons]
      exact ⟨.inr rfl, fun d hd => .inl (h d hd)⟩

/-- After its first character an escape takes digits and perhaps a plus: no backslash, and ASCII
only. -/
theorem exists_used_of_escape? (h : escape? bytes (c :: rest) = some (units, used)) :
    ∃ k, used = k + 1 ∧ (∀ d ∈ rest.take k, d ≠ '\\' ∧ d.toNat < 128) ∧
      (c.toNat < 128 ∨ c.toNat ∈ units) := by
  have hdigits {k : Nat} (hk : ∀ d ∈ rest.take k, Text.isHex d ∨ d = '+') :
      ∀ d ∈ rest.take k, d ≠ '\\' ∧ d.toNat < 128 := by
    intro d hd
    rcases hk d hd with hhex | rfl
    · refine ⟨?_, toNat_lt_of_isHex hhex⟩
      rintro rfl
      cases hhex
    · decide
  cases hcount : digitCount? bytes c with
  | some n =>
    rw [escape?_of_digitCount? hcount] at h
    obtain ⟨m, hm, hescape⟩ := Option.map_eq_some_iff.mp h
    cases hescape
    refine ⟨n, rfl, hdigits (isHex_or_eq_of_mem_take (beginsHex_of_hexEscape? hm)), .inl ?_⟩
    rcases digitCount?_cases hcount with ⟨rfl, -⟩ | ⟨-, ⟨rfl, -⟩ | ⟨rfl, -⟩⟩ <;> decide
  | none =>
    by_cases hsimple : c ∈ simpleEscapes
    · obtain ⟨us, hus⟩ := escape?_of_mem hsimple rest
      cases hus.symm.trans h
      exact ⟨0, rfl, List.forall_mem_nil _, .inl (of_mem_simpleEscapes hsimple).1⟩
    by_cases hoctal : Text.isOctal c
    · rw [escape?_of_isOctal hoctal] at h
      obtain ⟨m, -, hescape⟩ := Option.map_eq_some_iff.mp h
      cases hescape
      have hfirst : (rest.take 2).takeWhile Text.isOctal <+: rest :=
        (List.takeWhile_prefix _).trans (List.take_prefix 2 rest)
      refine ⟨_, rfl, hdigits fun d hd => .inl ?_,
        .inl (toNat_lt_of_isHex (isHex_of_isOctal hoctal))⟩
      rw [← List.prefix_iff_eq_take.mp hfirst] at hd
      exact isHex_of_isOctal (List.all_eq_true.mp List.all_takeWhile d hd)
    · obtain ⟨rfl, rfl⟩ := eq_of_escape? hsimple hoctal hcount h
      exact ⟨0, rfl, List.forall_mem_nil _, .inr (by simp)⟩

/-- A body begins with a character that stands for itself, or with an escape and what it takes. -/
theorem unescape_cons_eq_some {cs : List Char} (h : unescape bytes 0 (c :: cs) = some units) :
    (c ≠ '\\' ∧ ∃ vs, unescape bytes 0 cs = some vs ∧ units = c.toNat :: vs) ∨
      (c = '\\' ∧ ∃ d rest us k vs, cs = d :: rest ∧ escape? bytes (d :: rest) = some (us, k + 1) ∧
        unescape bytes (k + 1) (d :: rest) = some vs ∧ units = us ++ vs) := by
  unfold unescape at h
  split at h
  · rename_i hslash
    split at h
    · rename_i us used hescape
      obtain ⟨vs, hvs, rfl⟩ := Option.map_eq_some_iff.mp h
      cases cs with
      | nil => cases hescape
      | cons d rest =>
        obtain ⟨k, rfl, -⟩ := exists_used_of_escape? hescape
        exact .inr ⟨hslash, d, rest, us, k, vs, rfl, hescape, hvs, rfl⟩
    · cases h
  · rename_i hslash
    obtain ⟨vs, hvs, rfl⟩ := Option.map_eq_some_iff.mp h
    exact .inl ⟨hslash, vs, hvs, rfl⟩

/-- In a body that is read, digits stand after every escape by number. -/
theorem beginsHex_of_unescape {skip : Nat} {cs : List Char}
    (h : unescape bytes skip cs = some units) :
    ∀ e ∈ escapesIn (cs.drop skip), ∀ n ∈ digitCount? bytes e.1,
      BeginsHex n e.2 ∨ BeginsPlusHex n e.2 := by
  -- Along the body: what an escape takes begins no escape of its own.
  induction cs generalizing skip units with
  | nil =>
    rw [List.drop_nil]
    nofun
  | cons c cs ih =>
    cases skip with
    | succ skip => exact ih h
    | zero =>
      rcases unescape_cons_eq_some h with
        ⟨hslash, vs, hvs, -⟩ | ⟨rfl, d, rest, us, k, vs, rfl, hescape, hvs, -⟩
      · rw [List.drop_zero, escapesIn_cons_of_ne hslash]
        exact ih hvs
      · obtain ⟨k', hk, htaken, -⟩ := exists_used_of_escape? hescape
        obtain rfl := Nat.succ.inj hk
        have hrest := ih hvs
        rw [List.drop_succ_cons, escapesIn_drop fun e he => (htaken e he).1] at hrest
        rw [List.drop_zero, escapesIn, if_pos rfl, List.forall_mem_cons]
        refine ⟨?_, hrest⟩
        intro n hn
        rw [escape?_of_digitCount? hn] at hescape
        obtain ⟨m, hm, -⟩ := Option.map_eq_some_iff.mp hescape
        exact beginsHex_of_hexEscape? hm

/-- If a body stands for bytes, its characters have numbers below 256. -/
theorem toNat_lt_of_unescape {skip : Nat} {cs : List Char}
    (h : unescape bytes skip cs = some units) (hunits : ∀ u ∈ units, u < 256) :
    ∀ e ∈ cs.drop skip, e.toNat < 256 := by
  -- Along the body: a character is a unit itself, or it belongs to an escape, which is ASCII.
  induction cs generalizing skip units with
  | nil =>
    rw [List.drop_nil]
    nofun
  | cons c cs ih =>
    cases skip with
    | succ skip => exact ih h hunits
    | zero =>
      rw [List.drop_zero, List.forall_mem_cons]
      rcases unescape_cons_eq_some h with
        ⟨-, vs, hvs, rfl⟩ | ⟨rfl, d, rest, us, k, vs, rfl, hescape, hvs, rfl⟩
      · rw [List.forall_mem_cons] at hunits
        exact ⟨hunits.1, ih hvs hunits.2⟩
      · obtain ⟨k', hk, htaken, hd⟩ := exists_used_of_escape? hescape
        obtain rfl := Nat.succ.inj hk
        rw [List.forall_mem_append] at hunits
        have hrest := ih hvs hunits.2
        rw [List.drop_succ_cons] at hrest
        rw [List.forall_mem_cons]
        refine ⟨by decide, ?_, ?_⟩
        · rcases hd with hd | hd
          · exact Nat.lt_trans hd (by decide)
          · exact hunits.1 _ hd
        · rw [← List.take_append_drop k rest, List.forall_mem_append]
          refine ⟨?_, hrest⟩
          intro e he
          exact Nat.lt_trans (htaken e he).2 (by decide)

end Escape

/-! ### Literals -/

theorem lt_of_mapM_byteOf? {units : List Nat} {bs : List UInt8}
    (h : units.mapM byteOf? = some bs) : ∀ u ∈ units, u < 256 := by
  induction units generalizing bs with
  | nil => nofun
  | cons u units ih =>
    rw [List.mapM_cons] at h
    obtain ⟨b, hb, h⟩ := Option.bind_eq_some_iff.mp h
    obtain ⟨bs, hbs, -⟩ := Option.bind_eq_some_iff.mp h
    rw [List.forall_mem_cons]
    refine ⟨?_, ih hbs⟩
    unfold byteOf? at hb
    split at hb
    · assumption
    · cases hb

/-- Letters, the quotes after them, and what stands between these quotes and the same quotes again.
There are three quotes on each side if three stand on the first. -/
structure StringLiteral where
  letters : List Char
  delimiter : List Char
  body : List Char
  letters_unquoted : ∀ c ∈ letters, isQuote c = false
  delimiter_quote : delimiter.head?.any isQuote = true
  delimiterOf_eq : delimiterOf (delimiter ++ (body ++ delimiter)) = delimiter

namespace StringLiteral

/-- The text of a literal. -/
def chars (l : StringLiteral) : List Char :=
  l.letters ++ (l.delimiter ++ (l.body ++ l.delimiter))

/-- Whether a letter, of either case, stands before the quotes. -/
def hasLetter (l : StringLiteral) (c : Char) : Bool :=
  (l.letters.map Char.toLower).contains c

/-- Whether this is a byte string. -/
def isBytes (l : StringLiteral) : Bool :=
  l.hasLetter 'b'

/-- The escapes of a literal; a raw one has none. -/
def escapes (l : StringLiteral) : List (Char × List Char) :=
  if l.hasLetter 'r' then [] else escapesIn l.body

/-- The code points, or bytes, that a literal stands for. -/
def units? (l : StringLiteral) : Option (List Nat) :=
  if l.hasLetter 'r' then some (l.body.map Char.toNat) else unescape l.isBytes 0 l.body

/-- Whether all the digits of every escape by number are there, and a byte string is ASCII.  As
escapes are ASCII themselves, the latter is the same for what stands outside of them. -/
def IsStrict (l : StringLiteral) : Prop :=
  (∀ e ∈ l.escapes, ∀ n ∈ digitCount? l.isBytes e.1, BeginsHex n e.2) ∧
    (l.isBytes → ∀ c ∈ l.body, c.toNat < 128)

instance (l : StringLiteral) : Decidable l.IsStrict :=
  have : Decidable (∀ c ∈ l.body, c.toNat < 128) := List.decidableBAll _ _
  inferInstanceAs (Decidable (_ ∧ _))

variable {l : StringLiteral} {v : Value}

theorem quoted_eq_cons (l : StringLiteral) :
    ∃ quote rest, isQuote quote ∧ l.delimiter ++ (l.body ++ l.delimiter) = quote :: rest := by
  obtain ⟨quote, hhead, hquote⟩ := (Option.any_eq_true isQuote _).mp l.delimiter_quote
  obtain ⟨rest, hrest⟩ := List.head?_eq_some_iff.mp hhead
  exact ⟨quote, rest ++ (l.body ++ l.delimiter), hquote, by rw [hrest, List.cons_append]⟩

theorem takeWhile_chars (l : StringLiteral) : l.chars.takeWhile (!isQuote ·) = l.letters := by
  obtain ⟨quote, rest, hquote, hcons⟩ := l.quoted_eq_cons
  rw [chars, hcons, List.takeWhile_append_of_pos fun c hc => by simp [l.letters_unquoted c hc],
    List.takeWhile_cons_of_neg (by simp [hquote]), List.append_nil]

theorem dropWhile_chars (l : StringLiteral) :
    l.chars.dropWhile (!isQuote ·) = l.delimiter ++ (l.body ++ l.delimiter) := by
  obtain ⟨quote, rest, hquote, hcons⟩ := l.quoted_eq_cons
  rw [chars, hcons, List.dropWhile_append_of_pos fun c hc => by simp [l.letters_unquoted c hc],
    List.dropWhile_cons_of_neg (by simp [hquote])]

/-- A literal that is read stands for something, which are bytes in a byte string. -/
theorem exists_units?_of_readString? (h : readString? l.chars = some v) :
    ∃ units, l.units? = some units ∧ (l.isBytes → ∀ u ∈ units, u < 256) := by
  rw [readString?, takeWhile_chars, dropWhile_chars] at h
  -- the delimiters are taken off, and the body is left
  simp only [l.delimiterOf_eq, Text.after?_append, Text.before?_append, Option.bind_some] at h
  split at h
  · cases h
  · split at h
    · cases h
    · rename_i units hunits
      refine ⟨units, hunits, ?_⟩
      intro hbytes
      rw [show (l.letters.map Char.toLower).contains 'b' = true from hbytes, if_pos rfl] at h
      obtain ⟨bs, hbs, -⟩ := Option.map_eq_some_iff.mp h
      exact lt_of_mapM_byteOf? hbs

theorem beginsHex_of_readString? (l : StringLiteral) (h : readString? l.chars = some v) :
    ∀ e ∈ l.escapes, ∀ n ∈ digitCount? l.isBytes e.1, BeginsHex n e.2 ∨ BeginsPlusHex n e.2 := by
  obtain ⟨units, hunits, -⟩ := exists_units?_of_readString? h
  unfold escapes
  unfold units? at hunits
  split
  · nofun
  · rename_i hraw
    rw [if_neg hraw] at hunits
    exact beginsHex_of_unescape hunits

theorem toNat_lt_of_readString? (l : StringLiteral) (h : readString? l.chars = some v)
    (hbytes : l.isBytes) : ∀ c ∈ l.body, c.toNat < 256 := by
  obtain ⟨units, hunits, hlt⟩ := exists_units?_of_readString? h
  unfold units? at hunits
  split at hunits
  · cases hunits
    exact List.forall_mem_map.mp (hlt hbytes)
  · exact toNat_lt_of_unescape hunits (hlt hbytes)

end StringLiteral

theorem head?_delimiterOf (cs : List Char) : (delimiterOf cs).head? = cs.head? := by
  unfold delimiterOf
  split <;> rfl

/-- What is read is a literal. -/
theorem exists_chars_eq_of_readString? {cs : List Char} {v : Value} (h : readString? cs = some v) :
    ∃ l : StringLiteral, l.chars = cs := by
  -- The letters before the first quote, and all the rest, which begins with it.
  have hcs : cs.takeWhile (!isQuote ·) ++ cs.dropWhile (!isQuote ·) = cs :=
    List.takeWhile_append_dropWhile
  have hquote := List.head?_dropWhile_not (!isQuote ·) cs
  have hletters : ∀ c ∈ cs.takeWhile (!isQuote ·), isQuote c = false := fun c hc => by
    simpa using List.all_eq_true.mp List.all_takeWhile c hc
  rw [readString?] at h
  generalize cs.takeWhile (!isQuote ·) = letters at h hcs hletters
  generalize cs.dropWhile (!isQuote ·) = literal at h hcs hquote
  dsimp only at h
  split at h
  · cases h
  · rename_i hkind
    split at h
    · cases h
    · rename_i body hbody
      obtain ⟨tail, hafter, hbefore⟩ := Option.bind_eq_some_iff.mp hbody
      have hliteral := Text.eq_append_of_after? hafter
      rw [Text.eq_append_of_before? hbefore] at hliteral
      -- the delimiter begins as the literal does
      have hdelimiter : (delimiterOf literal).head?.any isQuote = true := by
        rw [head?_delimiterOf]
        cases literal with
        | nil => simp at hkind
        | cons c rest => simpa using hquote
      exact ⟨⟨letters, delimiterOf literal, body, hletters, hdelimiter, by rw [← hliteral]⟩,
        (congrArg (letters ++ ·) hliteral.symm).trans hcs⟩

/-- **Which of the literals that are read are strict.**  After every escape by number stand its
digits, with a plus in the place of the first or without, and the characters of a byte string have
numbers below 256.  So a literal is strict just if there is no such plus, and no character of a byte
string has one of the numbers from 128 on. -/
theorem isStrict_iff_of_readString? {cs : List Char} {v : Value} (h : readString? cs = some v) :
    (∃ l : StringLiteral, l.chars = cs) ∧ ∀ l : StringLiteral, l.chars = cs →
      (∀ e ∈ l.escapes, ∀ n ∈ digitCount? l.isBytes e.1,
        BeginsHex n e.2 ∨ BeginsPlusHex n e.2) ∧
      (l.isBytes → ∀ c ∈ l.body, c.toNat < 256) ∧
      (l.IsStrict ↔
        (∀ e ∈ l.escapes, ∀ n ∈ digitCount? l.isBytes e.1, ¬ BeginsPlusHex n e.2) ∧
          (l.isBytes → ∀ c ∈ l.body, c.toNat < 128 ∨ 256 ≤ c.toNat)) := by
  refine ⟨exists_chars_eq_of_readString? h, ?_⟩
  rintro l rfl
  have hdigits := l.beginsHex_of_readString? h
  have hbytes := l.toNat_lt_of_readString? h
  refine ⟨hdigits, hbytes, ?_⟩
  constructor
  · rintro ⟨hstrict, hascii⟩
    refine ⟨fun e he n hn hplus => ?_, fun hb c hc => .inl (hascii hb c hc)⟩
    exact (hstrict e he n hn).not_beginsPlusHex (digitCount?_pos hn) hplus
  · rintro ⟨hplus, hascii⟩
    refine ⟨fun e he n hn => (hdigits e he n hn).resolve_right (hplus e he n hn), fun hb c hc => ?_⟩
    exact (hascii hb c hc).resolve_right (Nat.not_le.mpr (hbytes hb c hc))

/-- Three escapes with all their digits: what is read is a text with a letter of Latin script
outside ASCII and a face. -/
def threeEscapes : StringLiteral where
  letters := []
  delimiter := ['"']
  body := "\\x41\\u00e9\\U0001f600".toList
  letters_unquoted := List.forall_mem_nil _
  delimiter_quote := by decide
  delimiterOf_eq := by decide

theorem isStrict_iff_of_readString?_threeEscapes :
    readString? threeEscapes.chars = some (str "Aé😀") ∧ threeEscapes.IsStrict := by
  have h : readString? threeEscapes.chars = some (str "Aé😀") := by decide +kernel
  obtain ⟨-, hall⟩ := isStrict_iff_of_readString? h
  obtain ⟨-, -, hstrict⟩ := hall threeEscapes rfl
  exact ⟨h, hstrict.mpr ⟨by decide +kernel, fun hbytes => absurd hbytes (by decide)⟩⟩

/-- A plus in the place of the first digit of an escape. -/
def plusEscape : StringLiteral where
  letters := []
  delimiter := ['\x27']
  body := "\\x+f".toList
  letters_unquoted := List.forall_mem_nil _
  delimiter_quote := by decide
  delimiterOf_eq := by decide

/-- A byte string with a letter that is not ASCII. -/
def latinBytes : StringLiteral where
  letters := ['b']
  delimiter := ['\x27']
  body := ['é']
  letters_unquoted := by simp [isQuote]
  delimiter_quote := by decide
  delimiterOf_eq := by decide

/-- Neither of them is strict, but both are read. -/
theorem readString?_not_isStrict :
    (readString? plusEscape.chars = some (str "\x0f") ∧ ¬ plusEscape.IsStrict) ∧
      readString? latinBytes.chars = some (bytes [0xe9]) ∧ ¬ latinBytes.IsStrict := by
  decide +kernel

end Value

end RecordForms
