import RecordForms.Proofs.Number.Digits
import RecordForms.Proofs.Text.Names
import RecordForms.TypeExpr.Parser

/-!
# Reading the tokens of a type

What the reader of types makes of a delimiter, of a dotted name and of the argument of a literal
type, when it stands at the beginning of a longer text.

## Main definitions

* `EndsName rest`: a name that is followed by `rest` ends there
* `Value.isPlain`: the values that a literal type writes without an escape

## Main results

* `dotted_append`: a dotted name is read up to its end
* `literalItem_append`: a plain value is read up to the comma or the bracket after it
-/

namespace RecordForms

open RecordForms.Text

/-! ### Delimiters -/

namespace TypeExpr

theorem eat?_eq_some {c : Char} {cs rest : List Char} (h : trimStart cs = c :: rest) :
    eat? c cs = some rest := by
  simp [eat?, h]

theorem eat?_eq_none {c : Char} {cs : List Char} (h : (trimStart cs).head? ≠ some c) :
    eat? c cs = none := by
  unfold eat?
  split
  · rename_i d rest hcs
    rw [hcs, List.head?_cons, ne_eq, Option.some.injEq] at h
    exact if_neg h
  · rfl

theorem trimStart_eq_of_eat? {c : Char} {cs rest : List Char} (h : eat? c cs = some rest) :
    trimStart cs = c :: rest := by
  unfold eat? at h
  split at h
  · rename_i d tail htrim
    split at h
    · rename_i hd
      rw [htrim, hd, Option.some.inj h]
    · cases h
  · cases h

theorem head?_ne_of_eat? {c : Char} {cs : List Char} (h : eat? c cs = none) :
    (trimStart cs).head? ≠ some c := by
  intro hhead
  obtain ⟨tail, htail⟩ := List.head?_eq_some_iff.mp hhead
  rw [eat?_eq_some htail] at h
  cases h

theorem expectClose_eq_ok {cs rest : List Char} (h : trimStart cs = ']' :: rest) :
    expectClose cs = .ok rest := by
  rw [expectClose, eat?_eq_some h]

theorem atClose_eq_false {cs : List Char} (h : (trimStart cs).head? ≠ some ']') :
    atClose cs = false := by
  rw [atClose, eat?_eq_none h]
  rfl

/-! ### Dotted names -/

/-- Whether a name that stands before `rest` ends there. -/
def EndsName (rest : List Char) : Prop :=
  ∀ c ∈ rest.head?, isNamePart c = false ∧ c ≠ '.'

theorem endsName_nil : EndsName [] := by
  simp [EndsName]

theorem endsName_cons {c : Char} (h : isNamePart c = false) (hdot : c ≠ '.') (rest : List Char) :
    EndsName (c :: rest) := by
  simp [EndsName, h, hdot]

theorem dottedRun_of_endsName {rest : List Char} (h : EndsName rest) (first : Bool) :
    dottedRun first false rest = ([], rest) := by
  cases rest with
  | nil => rfl
  | cons c rest =>
    obtain ⟨hc, hdot⟩ := h c rfl
    rw [isNamePart] at hc
    simp [dottedRun, hc, hdot]

/-- Within a segment a name goes on to its end; at the beginning of a segment after the first it
goes on with a digit, too. -/
theorem dottedRun_append {rest : List Char} (hrest : EndsName rest) (cs : List Char) :
    (isReadTail cs → ∀ first, dottedRun first false (cs ++ rest) = (cs, rest)) ∧
      (areSegments cs → dottedRun false true (cs ++ rest) = (cs, rest)) := by
  -- Both at once: a dot leads from the first statement to the second, any other character back.
  induction cs with
  | nil => exact ⟨fun _ first => dottedRun_of_endsName hrest first, by simp⟩
  | cons c cs ih =>
    obtain ⟨ihtail, ihsegments⟩ := ih
    constructor
    · intro h first
      rw [isReadTail_cons] at h
      split at h
      · -- a dot begins a segment, which is not the first one
        rename_i hc
        simp [dottedRun, hc, ihsegments h]
      · rename_i hc
        rw [Bool.and_eq_true] at h
        have hpart : (isAlphanumeric c || c == '_') = true := h.1
        simp only [dottedRun, List.cons_append, hpart, Bool.true_or, if_true, beq_false_of_ne hc,
          Bool.false_eq_true, if_false, ihtail h.2]
    · intro h
      rw [areSegments_cons, Bool.and_eq_true] at h
      have hpart : (isAlphabetic c || c == '_' || (!false && isAlphanumeric c)) = true := by
        have hpart := h.1
        simp only [isNamePart, Bool.or_eq_true] at hpart
        simp only [Bool.not_false, Bool.true_and, Bool.or_eq_true]
        rcases hpart with halphanumeric | hunderscore
        · exact Or.inr halphanumeric
        · exact Or.inl (Or.inr hunderscore)
      simp only [dottedRun, List.cons_append, hpart, if_true,
        beq_false_of_ne (isNamePart_ne_dot h.1), ihtail h.2]

/-- A name is read up to its end. -/
theorem dotted_append_of_isReadName {cs rest : List Char} (h : isReadName cs)
    (hrest : EndsName rest) : dotted (cs ++ rest) = .ok (cs, rest) := by
  cases cs with
  | nil => cases h
  | cons c tail =>
    have hlast : ((c :: tail).getLast? == some '.') = false :=
      beq_false_of_ne (getLast?_ne_dot_of_isReadName h)
    rw [isReadName_cons, Bool.and_eq_true] at h
    have hstart : (isAlphabetic c || c == '_') = true := h.1
    have hrun : dottedRun true true (c :: tail ++ rest) = (c :: tail, rest) := by
      simp only [dottedRun, List.cons_append, hstart, Bool.true_or, if_true,
        beq_false_of_ne (isNameStart_ne_dot h.1), (dottedRun_append hrest tail).1 h.2]
    rw [dotted, hrun]
    simp only [List.isEmpty_cons, hlast, Bool.or_self, Bool.false_eq_true, if_false]

/-- A dotted name is read up to its end. -/
theorem dotted_append {cs rest : List Char} (h : isDotted cs) (hrest : EndsName rest) :
    dotted (cs ++ rest) = .ok (cs, rest) :=
  dotted_append_of_isReadName (isReadName_of_isDotted h) hrest

/-! ### The arguments of literal types -/

end TypeExpr

/-- Characters that stand for themselves in a literal with either quote, but for the quote. -/
def Value.isUnescaped (c : Char) : Bool :=
  !(['\\', '\n', '\r', '\t'].contains c)

/-- Names that are constants. -/
def Value.isConstantName (path : String) : Bool :=
  ["None", "True", "False"].contains path

/-- Values that a literal type writes without an escape: constants, integers, names, and texts that
some quote can surround. -/
def Value.isPlain : Value → Bool
  | none | bool _ | int _ => true
  | str s => s.toList.all isUnescaped && !(s.toList.contains '\x27' && s.toList.contains '"')
  | symbol path => isDotted path.toList && !isConstantName path
  | _ => false

namespace TypeExpr

theorem not_mem_quoteOf {s : List Char} (h : ¬ (s.contains '\x27' && s.contains '"') = true) :
    Value.quoteOf s ∉ s := by
  unfold Value.quoteOf
  simp only [List.contains_eq_mem, Bool.and_eq_true, decide_eq_true_eq, Bool.not_eq_true',
    decide_eq_false_iff_not] at h ⊢
  split
  · -- double quotes are used if there are none in the text
    rename_i hsingle
    exact hsingle.2
  · rename_i hsingle
    exact fun hmem => hsingle ⟨hmem, fun hdouble => h ⟨hmem, hdouble⟩⟩

theorem quoteOf_cases (s : List Char) : Value.quoteOf s = '\x27' ∨ Value.quoteOf s = '"' := by
  unfold Value.quoteOf
  split
  · exact Or.inr rfl
  · exact Or.inl rfl

theorem flatMap_escaped {quote : Char} {s : List Char} (hq : quote ∉ s)
    (h : s.all Value.isUnescaped) : s.flatMap (Value.escaped quote) = s := by
  induction s with
  | nil => rfl
  | cons c s ih =>
    rw [List.all_cons, Bool.and_eq_true] at h
    rw [List.mem_cons, not_or] at hq
    have hc : Value.escaped quote c = [c] := by
      have hplain := h.1
      simp only [Value.isUnescaped, List.contains_eq_mem, Bool.not_eq_true',
        decide_eq_false_iff_not, List.mem_cons, List.not_mem_nil, or_false, not_or] at hplain
      obtain ⟨hslash, hline, hreturn, htab⟩ := hplain
      rw [Value.escaped, if_neg hslash, if_neg hline, if_neg hreturn, if_neg htab,
        if_neg (Ne.symm hq.1)]
    rw [List.flatMap_cons, hc, ih hq.2 h.2, List.singleton_append]

/-- The arguments of a literal type end at a comma or at the closing bracket. -/
def EndsItem (rest : List Char) : Prop :=
  rest.head? = some ',' ∨ rest.head? = some ']'

theorem isLiteralChar_of_isNamePart {c : Char} (h : isNamePart c) : isLiteralChar c := by
  simp only [isNamePart, Bool.or_eq_true] at h
  simp only [isLiteralChar, Bool.or_eq_true]
  exact h.imp_left fun h => Or.inl (Or.inl h)

theorem isLiteralChar_of_isDigit {c : Char} (h : c.isDigit) : isLiteralChar c := by
  have hlt : c.toNat < 128 := by
    have hle : c.toNat ≤ 57 := (Char.isDigit_iff_toNat.mp h).2
    omega
  simp [isLiteralChar, isAlphanumeric, isNumeric, hlt, h]

theorem isLiteralChar_of_isDottedTail {cs : List Char} (h : isDottedTail cs) :
    ∀ c ∈ cs, isLiteralChar c := by
  intro c hc
  rcases forall_mem_of_isReadTail (isReadTail_of_isDottedTail h) c hc with hpart | rfl
  · exact isLiteralChar_of_isNamePart hpart
  · decide

theorem isLiteralChar_of_mem_decimalInt {n : Int} :
    ∀ c ∈ Number.decimalInt n, isLiteralChar c := by
  intro c hc
  cases n with
  | ofNat m => exact isLiteralChar_of_isDigit (Number.isDigit_of_mem_decimal hc)
  | negSucc m =>
    rw [Number.decimalInt, List.mem_cons] at hc
    rcases hc with rfl | hc
    · decide
    · exact isLiteralChar_of_isDigit (Number.isDigit_of_mem_decimal hc)

theorem isLiteralChar_of_endsItem {rest : List Char} (h : EndsItem rest) :
    ∃ c tail, rest = c :: tail ∧ isLiteralChar c = false := by
  cases rest with
  | nil => simp [EndsItem] at h
  | cons c tail =>
    simp only [EndsItem, List.head?_cons, Option.some.injEq] at h
    rcases h with rfl | rfl
    · exact ⟨_, tail, rfl, by decide⟩
    · exact ⟨_, tail, rfl, by decide⟩

/-- A word ends where the argument ends. -/
theorem literalItem_of_word {cs word rest : List Char} (hcs : trimStart cs = word ++ rest)
    (hne : word ≠ []) (hword : ∀ c ∈ word, isLiteralChar c) (hrest : EndsItem rest) :
    literalItem cs = .ok (literalWord word, rest) := by
  obtain ⟨d, tail, rfl, hd⟩ := isLiteralChar_of_endsItem hrest
  obtain ⟨c, word, rfl⟩ := List.exists_cons_of_ne_nil hne
  have hquote : (decide (c = '\x27') || decide (c = '"')) = false := by
    have hc := hword c List.mem_cons_self
    rw [Bool.or_eq_false_iff, decide_eq_false_iff_not, decide_eq_false_iff_not]
    constructor
    · rintro rfl
      exact absurd hc (by decide)
    · rintro rfl
      exact absurd hc (by decide)
  have htake : (c :: word ++ d :: tail).takeWhile isLiteralChar = c :: word := by
    rw [List.takeWhile_append_of_pos hword, List.takeWhile_cons_of_neg (by simp [hd]),
      List.append_nil]
  have hdrop : (c :: word ++ d :: tail).dropWhile isLiteralChar = d :: tail := by
    rw [List.dropWhile_append_of_pos hword, List.dropWhile_cons_of_neg (by simp [hd])]
  rw [literalItem, hcs]
  simp only [List.cons_append] at htake hdrop ⊢
  simp only [hquote, Bool.false_eq_true, if_false, htake, hdrop, List.isEmpty_cons]

theorem literalItem_of_quote {cs s rest : List Char} {quote : Char}
    (hcs : trimStart cs = quote :: s ++ quote :: rest) (hquote : quote = '\x27' ∨ quote = '"')
    (hs : quote ∉ s) : literalItem cs = .ok (.str (String.ofList s), rest) := by
  have hquote : (decide (quote = '\x27') || decide (quote = '"')) = true := by
    rwa [Bool.or_eq_true, decide_eq_true_eq, decide_eq_true_eq]
  rw [literalItem, hcs]
  simp only [List.cons_append, hquote, if_true, cut_append hs]

/-- A word is read as the name of an object if it is no constant and no integer. -/
theorem literalWord_eq_symbol_iff {word : List Char} {path : String} :
    literalWord word = .symbol path ↔ word = path.toList ∧ Value.isConstantName path = false ∧
      Number.int64OfDecimal? word = none := by
  constructor
  · intro h
    unfold literalWord at h
    split at h
    · cases h
    · rename_i htrue
      split at h
      · cases h
      · rename_i hfalse
        split at h
        · cases h
        · rename_i hnone
          split at h
          · cases h
          · rename_i hint
            cases h
            have hword (other : String) (hne : word ≠ other.toList) :
                String.ofList word ≠ other := by
              rintro rfl
              exact hne String.toList_ofList.symm
            refine ⟨String.toList_ofList.symm, ?_, hint⟩
            simp [Value.isConstantName, hword _ htrue, hword _ hfalse, hword _ hnone]
  · rintro ⟨rfl, hconst, hint⟩
    simp only [Value.isConstantName, List.contains_eq_mem, List.mem_cons, List.not_mem_nil,
      or_false, decide_eq_false_iff_not, not_or] at hconst
    obtain ⟨hnone, htrue, hfalse⟩ := hconst
    have hword (other : String) (hne : path ≠ other) : path.toList ≠ other.toList :=
      fun heq => hne (String.toList_inj.mp heq)
    rw [literalWord, if_neg (hword _ htrue), if_neg (hword _ hfalse), if_neg (hword _ hnone), hint,
      String.ofList_toList]

/-- A dotted name that is no constant is read as the name of an object. -/
theorem literalWord_of_isDotted {path : String} (h : isDotted path.toList)
    (hconst : Value.isConstantName path = false) :
    literalWord path.toList = .symbol path := by
  -- A word is tried as an integer before it is a name.
  have hint : Number.int64OfDecimal? path.toList = none := by
    obtain ⟨c, tail, hc, hstart, -⟩ := exists_cons_of_isDotted h
    rw [hc]
    refine Number.int64OfDecimal?_eq_none (not_isDigit_of_isNameStart hstart) ?_ ?_ tail
    · rintro rfl
      exact absurd hstart (by decide)
    · rintro rfl
      exact absurd hstart (by decide)
  exact literalWord_eq_symbol_iff.mpr ⟨rfl, hconst, hint⟩

theorem literalWord_of_int64OfDecimal? {word : List Char} {n : Int64}
    (h : Number.int64OfDecimal? word = some n) : literalWord word = .int n := by
  -- None of the three constants spells an integer.
  have hword : ∀ other, Number.int64OfDecimal? other = none → word ≠ other := by
    rintro other hother rfl
    rw [h] at hother
    cases hother
  rw [literalWord, if_neg (hword _ rfl), if_neg (hword _ rfl), if_neg (hword _ rfl), h]

theorem isBlank_eq_false_of_isLiteralChar {c : Char} (h : isLiteralChar c) :
    isBlank c = false := by
  simp only [isLiteralChar, Bool.or_eq_true, beq_iff_eq] at h
  rcases h with ((h | rfl) | rfl) | rfl
  · exact isBlank_eq_false_of_isNamePart (by simp [isNamePart, h])
  · decide
  · decide
  · decide

theorem word_of_isDotted {path : String} (h : isDotted path.toList) :
    path.toList ≠ [] ∧ ∀ c ∈ path.toList, isLiteralChar c := by
  obtain ⟨c, tail, hc, -⟩ := exists_cons_of_isDotted h
  exact ⟨by simp [hc], isLiteralChar_of_isDottedTail (isDottedTail_of_isDotted h)⟩

theorem isDotted_of_isConstantName (path : String) (h : Value.isConstantName path) :
    isDotted path.toList := by
  simp only [Value.isConstantName, List.contains_eq_mem, List.mem_cons, List.not_mem_nil, or_false,
    decide_eq_true_eq] at h
  rcases h with rfl | rfl | rfl
  all_goals
    simp only [String.reduceToList]
    decide

theorem word_of_isConstantName (path : String) (h : Value.isConstantName path) :
    path.toList ≠ [] ∧ ∀ c ∈ path.toList, isLiteralChar c :=
  word_of_isDotted (isDotted_of_isConstantName path h)

theorem word_of_decimalInt (n : Int64) : Number.decimalInt n.toInt ≠ [] ∧
    ∀ c ∈ Number.decimalInt n.toInt, isLiteralChar c := by
  refine ⟨fun hnil => ?_, isLiteralChar_of_mem_decimalInt⟩
  have hread := Number.int64OfDecimal?_decimalInt n
  rw [hnil] at hread
  simp [Number.int64OfDecimal?, Number.ofDigits?] at hread

/-- A plain value is written as a word that is read as the value, or as a text in quotes. -/
theorem chars_of_isPlain {v : Value} (h : v.isPlain) :
    ((v.chars ≠ [] ∧ ∀ c ∈ v.chars, isLiteralChar c) ∧ literalWord v.chars = v) ∨
      ∃ quote s, (quote = '\x27' ∨ quote = '"') ∧ quote ∉ s ∧ v.chars = quote :: s ++ [quote] ∧
        v = .str (String.ofList s) := by
  cases v with
  | none => exact Or.inl ⟨word_of_isConstantName "None" rfl, by simp [literalWord]⟩
  | bool b =>
    cases b with
    | true => exact Or.inl ⟨word_of_isConstantName "True" rfl, by simp [literalWord]⟩
    | false => exact Or.inl ⟨word_of_isConstantName "False" rfl, by simp [literalWord]⟩
  | int n =>
    rw [Value.chars_int]
    exact Or.inl ⟨word_of_decimalInt n,
      literalWord_of_int64OfDecimal? (Number.int64OfDecimal?_decimalInt n)⟩
  | str s =>
    simp only [Value.isPlain, Bool.and_eq_true, Bool.not_eq_true', Bool.eq_false_iff] at h
    have hquote := not_mem_quoteOf h.2
    refine Or.inr ⟨Value.quoteOf s.toList, s.toList, quoteOf_cases s.toList, hquote, ?_, ?_⟩
    · rw [Value.chars_str, Value.quoted, flatMap_escaped hquote h.1]
    · rw [String.ofList_toList]
  | symbol path =>
    simp only [Value.isPlain, Bool.and_eq_true, Bool.not_eq_true'] at h
    rw [Value.chars_symbol]
    exact Or.inl ⟨word_of_isDotted h.1, literalWord_of_isDotted h.1 h.2⟩
  | _ => simp [Value.isPlain] at h

/-- A plain value is read up to the comma or the bracket after it. -/
theorem literalItem_append {v : Value} {cs rest : List Char} (h : v.isPlain)
    (hcs : trimStart cs = v.chars ++ rest) (hrest : EndsItem rest) :
    literalItem cs = .ok (v, rest) := by
  rcases chars_of_isPlain h with ⟨⟨hne, hword⟩, hv⟩ | ⟨quote, s, hquote, hs, hchars, rfl⟩
  · rw [literalItem_of_word hcs hne hword hrest, hv]
  · -- a text in quotes ends at its quote, whatever commas and brackets are in it
    rw [hchars, List.append_assoc, List.singleton_append] at hcs
    exact literalItem_of_quote hcs hquote hs

/-- The text of a plain value begins with neither a blank nor a bracket. -/
theorem exists_cons_of_isPlain {v : Value} (h : v.isPlain) :
    ∃ c tail, v.chars = c :: tail ∧ isBlank c = false ∧ c ≠ ']' := by
  rcases chars_of_isPlain h with ⟨⟨hne, hword⟩, -⟩ | ⟨quote, s, hquote, -, hchars, -⟩
  · obtain ⟨c, tail, hc⟩ := List.exists_cons_of_ne_nil hne
    have hliteral := hword c (by simp [hc])
    refine ⟨c, tail, hc, isBlank_eq_false_of_isLiteralChar hliteral, ?_⟩
    rintro rfl
    exact absurd hliteral (by decide)
  · refine ⟨quote, s ++ [quote], hchars, ?_⟩
    rcases hquote with rfl | rfl
    · decide
    · decide

end TypeExpr

end RecordForms
