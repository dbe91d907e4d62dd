import RecordForms.Proofs.Number.Digits
import RecordForms.Value.Printer
import RecordForms.Value.Reader

/-!
# Reading the literal of a text

The reader of literals inverts the writer on texts and on byte strings.  The body of a literal is
read piece by piece: what is written for a character or a byte stands for it whatever comes after
it, so no piece runs into the next one.

## Main definitions

* `Value.Spells bytes piece unit`: in the body of a literal, `piece` stands for `unit`

## Main results

* `Value.spells_escaped`, `Value.spells_escapedByte`: what is written for a character stands for its
  code point, and what is written for a byte for its number
* `Value.unescape_flatMap`: the pieces of a body, one after another, stand for their units
* `Value.readString?_text`: texts and byte strings are read from their literals
-/

namespace RecordForms.Value

/-- Whether `piece`, in the body of a literal, stands for `unit`, whatever comes after it. -/
def Spells (bytes : Bool) (piece : List Char) (unit : Nat) : Prop :=
  ∀ rest, unescape bytes 0 (piece ++ rest) = (unescape bytes 0 rest).map (unit :: ·)

section Spells

variable {bytes : Bool}

theorem unescape_skip (taken rest : List Char) :
    unescape bytes taken.length (taken ++ rest) = unescape bytes 0 rest := by
  induction taken with
  | nil => rfl
  | cons c taken ih => exact ih

/-- A character other than the backslash stands for itself. -/
theorem spells_char {c : Char} (h : c ≠ '\\') : Spells bytes [c] c.toNat := by
  intro rest
  rw [List.singleton_append, unescape, if_neg h]

/-- A backslash and the characters that the escape takes stand for what the escape stands for. -/
theorem spells_escape {taken : List Char} {unit : Nat}
    (h : ∀ rest, escape? bytes (taken ++ rest) = some ([unit], taken.length)) :
    Spells bytes ('\\' :: taken) unit := by
  intro rest
  rw [List.cons_append, unescape, if_pos rfl, h rest]
  simp only [unescape_skip, List.singleton_append]

/-- The pieces of a body, one after another, stand for their units. -/
theorem unescape_flatMap {α : Type} {write : α → List Char} {unit : α → Nat}
    (h : ∀ a, Spells bytes (write a) (unit a)) (as : List α) :
    unescape bytes 0 (as.flatMap write) = some (as.map unit) := by
  induction as with
  | nil => rfl
  | cons a as ih => rw [List.flatMap_cons, h a, ih, Option.map_some, List.map_cons]

/-! ### Characters -/

theorem isQuote_cases {quote : Char} (h : isQuote quote) : quote = '\x27' ∨ quote = '"' := by
  simpa [isQuote] using h

theorem isQuote_quoteOf (s : List Char) : isQuote (quoteOf s) := by
  unfold quoteOf
  split
  · rfl
  · rfl

/-- A character is written as it is, unless it is a backslash or the quote, or after a backslash. -/
theorem escaped_cases {quote : Char} (hquote : isQuote quote) (c : Char) :
    (escaped quote c = [c] ∧ c ≠ '\\' ∧ c ≠ quote) ∨
      ∃ d, escaped quote c = ['\\', d] ∧
        ∀ rest, escape? false (d :: rest) = some ([c.toNat], 1) := by
  unfold escaped
  split
  · rename_i h
    exact Or.inr ⟨'\\', rfl, fun rest => by rw [h]; rfl⟩
  split
  · rename_i h
    exact Or.inr ⟨'n', rfl, fun rest => by rw [h]; rfl⟩
  split
  · rename_i h
    exact Or.inr ⟨'r', rfl, fun rest => by rw [h]; rfl⟩
  split
  · rename_i h
    exact Or.inr ⟨'t', rfl, fun rest => by rw [h]; rfl⟩
  split
  · rename_i h
    refine Or.inr ⟨c, rfl, fun rest => ?_⟩
    subst h
    rcases isQuote_cases hquote with rfl | rfl
    · rfl
    · rfl
  · rename_i hslash _ _ _ hne
    exact Or.inl ⟨rfl, hslash, hne⟩

/-- What is written for a character stands for its code point, with either quote. -/
theorem spells_escaped {quote : Char} (hquote : isQuote quote) (c : Char) :
    Spells false (escaped quote c) c.toNat := by
  rcases escaped_cases hquote c with ⟨h, hslash, -⟩ | ⟨d, h, hescape⟩
  · rw [h]
    exact spells_char hslash
  · rw [h]
    exact spells_escape hescape

/-- What is written for a character does not begin with the quote. -/
theorem exists_cons_escaped {quote : Char} (hquote : isQuote quote) (c : Char) :
    ∃ d tail, escaped quote c = d :: tail ∧ d ≠ quote := by
  rcases escaped_cases hquote c with ⟨h, -, hne⟩ | ⟨d, h, -⟩
  · exact ⟨c, [], h, hne⟩
  · refine ⟨'\\', [d], h, ?_⟩
    rintro rfl
    exact absurd hquote (by decide)

/-! ### Bytes -/

theorem toNat_ofNat_byte (b : UInt8) : (Char.ofNat b.toNat).toNat = b.toNat := by
  have hvalid : b.toNat.isValidChar := Or.inl (Nat.lt_trans b.toNat_lt (by decide))
  rw [Char.ofNat, dif_pos hvalid]
  rfl

theorem ofNat_byte_ne {b : UInt8} {c : Char} (h : b ≠ UInt8.ofNat c.toNat) :
    Char.ofNat b.toNat ≠ c := by
  rintro rfl
  rw [toNat_ofNat_byte, UInt8.ofNat_toNat] at h
  exact h rfl

theorem spells_hexPair {n : Nat} (h : n < 256) :
    Spells bytes ('\\' :: 'x' :: Number.hexPair n) n := by
  refine spells_escape fun rest => ?_
  have htake : (Number.hexPair n ++ rest).take 2 = Number.hexPair n := rfl
  have hread : hexEscape? 2 (Number.hexPair n ++ rest) = some n := by
    rw [hexEscape?, htake, if_pos (by rfl), Number.ofSignedDigits?_hexPair h]
  have hescape : escape? bytes ('x' :: (Number.hexPair n ++ rest)) =
      (hexEscape? 2 (Number.hexPair n ++ rest)).map fun n => ([n], 3) := rfl
  rw [List.cons_append, hescape, hread]
  rfl

/-- A byte is written as a character that is neither a backslash nor the quote, or as an escape. -/
theorem escapedByte_cases (b : UInt8) :
    (escapedByte b = [Char.ofNat b.toNat] ∧ Char.ofNat b.toNat ≠ '\\' ∧
        Char.ofNat b.toNat ≠ '\x27') ∨
      ∃ taken, escapedByte b = '\\' :: taken ∧ Spells true ('\\' :: taken) b.toNat := by
  unfold escapedByte
  split
  · rename_i h
    exact Or.inr ⟨['\\'], rfl, by rw [h]; exact spells_escape fun rest => rfl⟩
  split
  · rename_i h
    exact Or.inr ⟨['\x27'], rfl, by rw [h]; exact spells_escape fun rest => rfl⟩
  split
  · rename_i h
    exact Or.inr ⟨['n'], rfl, by rw [h]; exact spells_escape fun rest => rfl⟩
  split
  · rename_i hslash hquote _ _
    exact Or.inl ⟨rfl, ofNat_byte_ne hslash, ofNat_byte_ne hquote⟩
  · exact Or.inr ⟨_, rfl, spells_hexPair b.toNat_lt⟩

/-- What is written for a byte stands for its number. -/
theorem spells_escapedByte (b : UInt8) : Spells true (escapedByte b) b.toNat := by
  rcases escapedByte_cases b with ⟨h, hslash, -⟩ | ⟨taken, h, hspells⟩
  · rw [h]
    have hchar : Spells true [Char.ofNat b.toNat] (Char.ofNat b.toNat).toNat := spells_char hslash
    rwa [toNat_ofNat_byte] at hchar
  · rw [h]
    exact hspells

/-- What is written for a byte does not begin with the quote. -/
theorem exists_cons_escapedByte (b : UInt8) :
    ∃ d tail, escapedByte b = d :: tail ∧ d ≠ '\x27' := by
  rcases escapedByte_cases b with ⟨h, -, hne⟩ | ⟨taken, h, -⟩
  · exact ⟨_, [], h, hne⟩
  · exact ⟨'\\', taken, h, by decide⟩

end Spells

/-! ### Literals -/

/-- One quote stands on each side of a body that does not begin with it. -/
theorem delimiterOf_cons {quote : Char} {body : List Char} (hbody : body.head? ≠ some quote) :
    delimiterOf (quote :: (body ++ [quote])) = [quote] := by
  cases body with
  | nil =>
    -- the two quotes of an empty literal are not three
    unfold delimiterOf
    split <;> simp_all
  | cons c body =>
    rw [List.head?_cons, ne_eq, Option.some.injEq] at hbody
    unfold delimiterOf
    split <;> simp_all

/-- The body of a literal is what stands between its quotes. -/
theorem body_of_literal {quote : Char} {body : List Char} (hbody : body.head? ≠ some quote) :
    (Text.after? (delimiterOf (quote :: (body ++ [quote]))) (quote :: (body ++ [quote]))).bind
      (Text.before? (delimiterOf (quote :: (body ++ [quote])))) = some body := by
  have hafter : Text.after? [quote] ([quote] ++ (body ++ [quote])) = some (body ++ [quote]) :=
    Text.after?_append [quote] _
  rw [List.singleton_append] at hafter
  rw [delimiterOf_cons hbody, hafter, Option.bind_some, Text.before?_append]

theorem charOf?_toNat (c : Char) : charOf? c.toNat = some c := by
  have hvalid : c.toNat < 0xd800 ∨ 0xdfff < c.toNat ∧ c.toNat < 0x110000 := c.valid
  have hcode : (decide (c.toNat < 0xd800) || decide (0xdfff < c.toNat) &&
      decide (c.toNat < 0x110000)) = true := by
    simpa using hvalid
  rw [charOf?, if_pos hcode, Char.ofNat_toNat]

theorem byteOf?_toNat (b : UInt8) : byteOf? b.toNat = some b := by
  rw [byteOf?, if_pos b.toNat_lt, UInt8.ofNat_toNat]

theorem mapM_map_toNat {α : Type} {code : α → Nat} {ofCode? : Nat → Option α}
    (h : ∀ a, ofCode? (code a) = some a) (as : List α) : (as.map code).mapM ofCode? = some as := by
  induction as with
  | nil => rfl
  | cons a as ih => rw [List.map_cons, List.mapM_cons, h a, ih]; rfl

theorem head?_flatMap_ne {α : Type} {write : α → List Char} {quote : Char}
    (h : ∀ a, ∃ d tail, write a = d :: tail ∧ d ≠ quote) (as : List α) :
    (as.flatMap write).head? ≠ some quote := by
  cases as with
  | nil => simp
  | cons a as =>
    obtain ⟨d, tail, ha, hne⟩ := h a
    rw [List.flatMap_cons, ha, List.cons_append, List.head?_cons, ne_eq, Option.some.injEq]
    exact hne

/-- A text is read from its literal. -/
theorem readString?_quoted (s : List Char) :
    readString? (quoted s) = some (str (String.ofList s)) := by
  have hquote := isQuote_quoteOf s
  have hbody := head?_flatMap_ne (exists_cons_escaped hquote) s
  have hunits := unescape_flatMap (spells_escaped hquote) s
  have hliteral : quoted s =
      quoteOf s :: (s.flatMap (escaped (quoteOf s)) ++ [quoteOf s]) := rfl
  -- no letter stands before the quotes
  rw [hliteral, readString?, List.takeWhile_cons_of_neg (by simp [hquote]),
    List.dropWhile_cons_of_neg (by simp [hquote])]
  simp only [List.map_nil, List.isEmpty_cons, List.contains_nil, Bool.or_self, Bool.false_eq_true,
    if_false, body_of_literal hbody, hunits, mapM_map_toNat charOf?_toNat, Option.map_some]

/-- A byte string is read from its literal. -/
theorem readString?_quotedBytes (bs : List UInt8) :
    readString? (quotedBytes bs) = some (bytes bs) := by
  have hbody := head?_flatMap_ne exists_cons_escapedByte bs
  have hunits := unescape_flatMap spells_escapedByte bs
  have hliteral : quotedBytes bs =
      'b' :: '\x27' :: (bs.flatMap escapedByte ++ ['\x27']) := rfl
  -- the letter before the quotes says that these are bytes
  have htake : (quotedBytes bs).takeWhile (!isQuote ·) = ['b'] := by
    rw [hliteral, List.takeWhile_cons_of_pos (by decide), List.takeWhile_cons_of_neg (by decide)]
  have hdrop : (quotedBytes bs).dropWhile (!isQuote ·) =
      '\x27' :: (bs.flatMap escapedByte ++ ['\x27']) := by
    rw [hliteral, List.dropWhile_cons_of_pos (by decide), List.dropWhile_cons_of_neg (by decide)]
  have hkind : ['b'].map Char.toLower = ['b'] := by decide
  have hformat : (false || ['b'].contains 'f' || ['b'].contains 't') = false := by decide
  have hraw : ['b'].contains 'r' = false := by decide
  have hbytes : ['b'].contains 'b' = true := by decide
  rw [readString?, htake, hdrop]
  simp only [hkind, List.isEmpty_cons, body_of_literal hbody, hformat, hraw, hbytes,
    Bool.false_eq_true, if_false, if_true, hunits, mapM_map_toNat byteOf?_toNat, Option.map_some]

/-- **Texts and byte strings are read from their literals**, whatever quotes, backslashes and
control characters are in them. -/
theorem readString?_text :
    (∀ s : String, readString? (str s).text.toList = some (str s)) ∧
      ∀ bs : List UInt8, readString? (bytes bs).text.toList = some (bytes bs) := by
  constructor
  · intro s
    rw [text, String.toList_ofList, chars_str, readString?_quoted, String.ofList_toList]
  · intro bs
    rw [text, String.toList_ofList]
    exact readString?_quotedBytes bs

end RecordForms.Value
