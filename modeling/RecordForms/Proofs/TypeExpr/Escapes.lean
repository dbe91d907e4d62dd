import Mathlib.Algebra.BigOperators.Group.List.Basic
import RecordForms.Proofs.Text.Identifiers
import RecordForms.Proofs.TypeExpr.RoundTrip
import RecordForms.Proofs.TypeExpr.Taken
import RecordForms.Proofs.Value.Quoted

/-!
# Escapes in the text of a type

The writer of types escapes characters in the arguments of literal types, and the reader of types
takes every backslash as it stands.  So a type is what its text spells exactly if nothing in it is
escaped: each escape puts one more backslash into the text than the type has, and the reader finds
it.

## Main definitions

* `Value.isConstant`: the values that a literal type is meant for
* `Value.escapes`: the number of characters of a text that are written with an escape
* `TypeExpr.IsSourceName`: the names that a source file may hold

## Main results

* `Value.count_chars`: what is written for a constant has its backslashes and one for each escape
* `TypeExpr.Regular.count_chars`: the backslashes of the text of a type are in its literal arguments
* `TypeExpr.parse_text_eq_ok_iff`: a type is what its text spells exactly if its names are dotted
  names and its literal arguments are plain
* `TypeExpr.parse_subscripted_ne`: what a subscripted name spells is never the argument in it
-/

namespace RecordForms

open RecordForms.Text

namespace Value

/-- Constants: the values that a literal type is meant for. -/
def isConstant : Value → Bool
  | none | bool _ | int _ | str _ => true
  | _ => false

/-- Whether a character is not written as it is in a literal with this quote. -/
def needsEscape (quote c : Char) : Bool :=
  escaped quote c ≠ [c]

/-- The number of characters of a text that are written with an escape. -/
def escapes : Value → Nat
  | str s => s.toList.countP (needsEscape (quoteOf s.toList))
  | _ => 0

theorem quoteOf_ne_slash (s : List Char) : quoteOf s ≠ '\\' := by
  rcases isQuote_cases (isQuote_quoteOf s) with h | h
  · rw [h]
    decide
  · rw [h]
    decide

/-- An escape is one more backslash than the character has. -/
theorem count_escaped (quote c : Char) :
    (escaped quote c).count '\\' = [c].count '\\' + if needsEscape quote c then 1 else 0 := by
  by_cases hslash : c = '\\'
  · subst hslash
    rfl
  · -- any other character is written as it is, or after a backslash as one that is none
    have hcount : [c].count '\\' = 0 := List.count_eq_zero_of_not_mem (by simp [Ne.symm hslash])
    have hcases : escaped quote c = [c] ∨ ∃ d, d ≠ '\\' ∧ escaped quote c = ['\\', d] := by
      unfold escaped
      rw [if_neg hslash]
      split
      · exact Or.inr ⟨'n', by decide, rfl⟩
      · split
        · exact Or.inr ⟨'r', by decide, rfl⟩
        · split
          · exact Or.inr ⟨'t', by decide, rfl⟩
          · split
            · exact Or.inr ⟨c, hslash, rfl⟩
            · exact Or.inl rfl
    rcases hcases with hsame | ⟨d, hd, hpair⟩
    · simp [needsEscape, hsame, hcount]
    · simp [needsEscape, hpair, hcount, hd]

theorem count_flatMap_escaped (quote : Char) (s : List Char) :
    (s.flatMap (escaped quote)).count '\\' =
      s.count '\\' + s.countP (needsEscape quote) := by
  induction s with
  | nil => rfl
  | cons c s ih =>
    have hcons : (c :: s).count '\\' = [c].count '\\' + s.count '\\' := by
      rw [← List.count_append, List.singleton_append]
    rw [List.flatMap_cons, List.count_append, ih, count_escaped, List.countP_cons, hcons]
    omega

theorem count_quoted (s : List Char) :
    (quoted s).count '\\' = s.count '\\' + s.countP (needsEscape (quoteOf s)) := by
  have hquote := quoteOf_ne_slash s
  simp only [quoted, List.cons_append, List.count_cons_of_ne hquote, List.count_append,
    count_flatMap_escaped, List.count_nil, Nat.add_zero]

/-- What is written for a constant has its backslashes and one for each escape. -/
theorem count_chars {v : Value} (h : v.isConstant) :
    v.chars.count '\\' = v.slashes + v.escapes := by
  cases v with
  | none => rfl
  | bool b =>
    cases b with
    | false => rfl
    | true => rfl
  | int n =>
    have hnot : '\\' ∉ Number.decimalInt n.toInt := fun hmem =>
      absurd (TypeExpr.isLiteralChar_of_mem_decimalInt _ hmem) (by decide)
    rw [chars_int, List.count_eq_zero_of_not_mem hnot]
    rfl
  | str s => rw [chars_str, count_quoted, slashes, escapes]
  | _ => cases h

/-- A character that is not escaped stands for itself, and is not the quote. -/
theorem isUnescaped_of_not_needsEscape {quote c : Char} (hquote : isQuote quote)
    (h : ¬ needsEscape quote c) : isUnescaped c ∧ c ≠ quote := by
  have hsame : escaped quote c = [c] := by simpa [needsEscape] using h
  have hne : c ≠ '\\' ∧ c ≠ quote := by
    rcases escaped_cases hquote c with ⟨-, hne⟩ | ⟨d, hpair, -⟩
    · exact hne
    · rw [hpair] at hsame
      cases hsame
  refine ⟨?_, hne.2⟩
  simp only [isUnescaped, List.contains_eq_mem, Bool.not_eq_true', decide_eq_false_iff_not,
    List.mem_cons, List.not_mem_nil, or_false]
  rintro (hslash | rfl | rfl | rfl)
  · exact hne.1 hslash
  -- what ends a line and a tab are written in two characters
  · cases hsame
  · cases hsame
  · cases hsame

theorem isPlain_of_escapes_eq_zero {v : Value} (hconst : v.isConstant) (h : v.escapes = 0) :
    v.isPlain := by
  cases v with
  | none | bool | int => rfl
  | str s =>
    rw [escapes, List.countP_eq_zero] at h
    have hplain : ∀ c ∈ s.toList, isUnescaped c ∧ c ≠ quoteOf s.toList := fun c hc =>
      isUnescaped_of_not_needsEscape (isQuote_quoteOf _) (h c hc)
    -- the quote of a text that holds both is one of the two
    have hboth : ¬ ('\x27' ∈ s.toList ∧ '"' ∈ s.toList) := by
      rintro ⟨hsingle, hdouble⟩
      rcases isQuote_cases (isQuote_quoteOf s.toList) with hquote | hquote
      · exact (hplain _ hsingle).2 hquote.symm
      · exact (hplain _ hdouble).2 hquote.symm
    simp only [isPlain, Bool.and_eq_true, Bool.not_eq_true', Bool.and_eq_false_imp,
      List.contains_eq_mem, decide_eq_true_eq, decide_eq_false_iff_not, List.all_eq_true]
    exact ⟨fun c hc => (hplain c hc).1, fun hsingle hdouble => hboth ⟨hsingle, hdouble⟩⟩
  | _ => cases hconst

end Value

namespace TypeExpr

/-- The values of a literal type are constants. -/
def ConstantArgs (vs : List Value) : Prop :=
  ∀ v ∈ vs, v.isConstant

/-- Identifiers of a source file with dots between them, but for the word that is written for no
type. -/
def IsSourceName (path : String) : Prop :=
  isSourcePath path.toList ∧ path ≠ "None"

instance (path : String) : Decidable (IsSourceName path) :=
  inferInstanceAs (Decidable (_ ∧ _))

theorem IsSourceName.not_mem {path : String} (h : IsSourceName path) : '\\' ∉ path.toList := by
  intro hmem
  rcases eq_dot_or_of_isSourcePath h.1 hmem with hdot | hstart | hcontinue
  · exact absurd hdot (by decide)
  · exact absurd hstart (by decide)
  · exact absurd hcontinue (by decide)

/-- A name of a source file is a dotted name if the reader of types can take its characters. -/
theorem IsSourceName.isTypeName {path : String} (h : IsSourceName path)
    (hpart : ∀ c ∈ path.toList, isNamePart c ∨ c = '.') : IsTypeName path :=
  ⟨isDotted_of_isSourcePath h.1 hpart, h.2⟩

/-! ### The text of a type -/

theorem count_commaBefore (items : List (List Char)) :
    (commaBefore items).count '\\' = (items.map (List.count '\\')).sum := by
  induction items with
  | nil => rfl
  | cons item items ih =>
    rw [commaBefore_cons, List.count_cons_of_ne (by decide), List.count_cons_of_ne (by decide),
      List.count_append, ih, List.map_cons, List.sum_cons]

theorem count_barBefore (items : List (List Char)) :
    (barBefore items).count '\\' = (items.map (List.count '\\')).sum := by
  induction items with
  | nil => rfl
  | cons item items ih =>
    rw [barBefore_cons, List.count_cons_of_ne (by decide), List.count_cons_of_ne (by decide),
      List.count_cons_of_ne (by decide), List.count_append, ih, List.map_cons, List.sum_cons]

theorem count_commaSeparated (items : List (List Char)) :
    (Value.commaSeparated items).count '\\' = (items.map (List.count '\\')).sum := by
  cases items with
  | nil => rfl
  | cons item items =>
    rw [commaSeparated_cons, List.count_append, count_commaBefore, List.map_cons, List.sum_cons]

/-- The backslashes of a subscripted name are those of its arguments. -/
theorem count_subscripted {origin : List Char} (horigin : '\\' ∉ origin)
    (items : List (List Char)) :
    (origin ++ '[' :: Value.commaSeparated items ++ [']']).count '\\' =
      (items.map (List.count '\\')).sum := by
  rw [List.count_append, List.count_append, List.count_eq_zero_of_not_mem horigin,
    List.count_cons_of_ne (by decide), count_commaSeparated, List.count_cons_of_ne (by decide),
    List.count_nil, Nat.zero_add, Nat.add_zero]

theorem sum_map_itemValues (f : Value → Nat) (ts : List TypeExpr) :
    ((itemValues ts).map f).sum = (ts.map fun t => (t.values.map f).sum).sum := by
  induction ts with
  | nil => rfl
  | cons t ts ih =>
    rw [itemValues, List.map_append, List.sum_append, ih, List.map_cons, List.sum_cons]

namespace Regular

variable {isName isName' : String → Prop} {args : List Value → Prop} {p q : Value → Prop}
  {t : TypeExpr}

/-- The backslashes of the text of a type are in its literal arguments. -/
theorem count_chars (hname : ∀ path, isName path → '\\' ∉ path.toList)
    (h : t.Regular isName args) :
    t.chars.count '\\' = (t.values.map fun v => v.chars.count '\\').sum := by
  induction h with
  | name hpath =>
    rw [chars, List.count_eq_zero_of_not_mem (hname _ hpath)]
    rfl
  | @generic origin ts horigin _ _ _ ih =>
    rw [chars, count_subscripted (hname _ horigin), itemChars_eq_map, values, sum_map_itemValues,
      List.map_map]
    exact congrArg List.sum (List.map_congr_left ih)
  | @union ts hlength _ _ ih =>
    obtain ⟨t, ts, rfl⟩ := List.exists_cons_of_length_pos (Nat.lt_of_succ_lt hlength)
    rw [chars_union, List.count_append, count_barBefore, values, sum_map_itemValues, List.map_map,
      ← List.sum_cons]
    exact congrArg List.sum (List.map_congr_left ih)
  | noneType => rfl
  | @literal origin vs horigin =>
    rw [chars, count_subscripted (hname _ horigin), Value.itemChars_eq_map, values, List.map_map]
    rfl

/-- What holds of the names and the literal arguments of a regular type, one by one. -/
theorem forall_names_values (h : t.Regular isName fun vs => ∀ v ∈ vs, p v) :
    (∀ path ∈ t.names, isName path) ∧ ∀ v ∈ t.values, p v := by
  induction h with
  | name hpath => exact ⟨by simpa [names] using hpath, by simp [values]⟩
  | generic horigin _ _ _ ih =>
    rw [names, values, itemNames_eq_flatMap, itemValues_eq_flatMap, List.forall_mem_cons,
      List.forall_mem_flatMap, List.forall_mem_flatMap]
    exact ⟨⟨horigin, fun t ht => (ih t ht).1⟩, fun t ht => (ih t ht).2⟩
  | union _ _ _ ih =>
    rw [names, values, itemNames_eq_flatMap, itemValues_eq_flatMap, List.forall_mem_flatMap,
      List.forall_mem_flatMap]
    exact ⟨fun t ht => (ih t ht).1, fun t ht => (ih t ht).2⟩
  | noneType => exact ⟨by simp [names], by simp [values]⟩
  | literal horigin _ _ hvs => exact ⟨by simpa [names] using horigin, hvs⟩

/-- A regular type is one for whatever holds of its names and its literal arguments. -/
theorem of_names_values (h : t.Regular isName args) (hnames : ∀ path ∈ t.names, isName' path)
    (hvalues : ∀ v ∈ t.values, q v) : t.Regular isName' fun vs => ∀ v ∈ vs, q v := by
  induction h with
  | name => exact .name (hnames _ List.mem_cons_self)
  | generic _ hliteral hne _ ih =>
    rw [names, itemNames_eq_flatMap, List.forall_mem_cons, List.forall_mem_flatMap] at hnames
    rw [values, itemValues_eq_flatMap, List.forall_mem_flatMap] at hvalues
    exact .generic hnames.1 hliteral hne fun t ht => ih t ht (hnames.2 t ht) (hvalues t ht)
  | union hlength hunion _ ih =>
    rw [names, itemNames_eq_flatMap, List.forall_mem_flatMap] at hnames
    rw [values, itemValues_eq_flatMap, List.forall_mem_flatMap] at hvalues
    exact .union hlength hunion fun t ht => ih t ht (hnames t ht) (hvalues t ht)
  | noneType => exact .noneType
  | literal _ hliteral hne _ => exact .literal (hnames _ List.mem_cons_self) hliteral hne hvalues

end Regular

/-- Nothing is escaped in constants that are written with no more backslashes than they have. -/
theorem escapes_eq_zero_of_sum {vs : List Value} (hvs : ConstantArgs vs)
    (h : (vs.map fun v => v.chars.count '\\').sum = (vs.map Value.slashes).sum) :
    ∀ v ∈ vs, v.escapes = 0 := by
  have hsum : (vs.map fun v => v.chars.count '\\').sum =
      (vs.map Value.slashes).sum + (vs.map Value.escapes).sum := by
    rw [← List.sum_map_add]
    exact congrArg List.sum (List.map_congr_left fun v hv => Value.count_chars (hvs v hv))
  -- a sum of natural numbers is zero only if each of them is
  have hzero : (vs.map Value.escapes).sum = 0 := by omega
  rw [List.sum_eq_zero_iff_forall_eq_nat] at hzero
  intro v hv
  exact hzero _ (List.mem_map_of_mem hv)

/-- If the text of a type is read at all, and the literal arguments are found in it, then nothing in
it is escaped, and of its names the reader takes dotted names only. -/
theorem isTypeName_isPlain_of_parse {t t' : TypeExpr} (ht : t.Regular IsSourceName ConstantArgs)
    (hparse : parse t.text = .ok t') (hvalues : t'.values = t.values) :
    (∀ path ∈ t.names, path ∈ t'.names → IsTypeName path) ∧ ∀ v ∈ t.values, v.isPlain := by
  obtain ⟨hnames, hconst⟩ := ht.forall_names_values
  have htook := took_of_parse hparse
  rw [text, String.toList_ofList, hvalues] at htook
  have hread : ∀ path ∈ t'.names, ∀ c ∈ path.toList, isNamePart c ∨ c = '.' := fun path hpath =>
    forall_mem_of_isReadTail (isReadTail_of_isReadName (htook.isReadName path hpath).1)
  refine ⟨fun path hpath hpath' => (hnames path hpath).isTypeName (hread path hpath'), ?_⟩
  -- the reader has found as many backslashes as the writer has put there
  have hcount := ht.count_chars fun path hpath => hpath.not_mem
  have hescapes := escapes_eq_zero_of_sum hconst (hcount ▸ htook.slashes)
  intro v hv
  exact Value.isPlain_of_escapes_eq_zero (hconst v hv) (hescapes v hv)

/-- A type is what its text spells exactly if its names are dotted names and its literal arguments
are plain. -/
theorem parse_text_eq_ok_iff {t : TypeExpr} (ht : t.Regular IsSourceName ConstantArgs) :
    parse t.text = .ok t ↔ (∀ path ∈ t.names, IsTypeName path) ∧ ∀ v ∈ t.values, v.isPlain := by
  constructor
  · intro hparse
    obtain ⟨hnames, hvalues⟩ := isTypeName_isPlain_of_parse ht hparse rfl
    exact ⟨fun path hpath => hnames path hpath hpath, hvalues⟩
  · rintro ⟨hnames, hvalues⟩
    exact parse_text (ht.of_names_values hnames hvalues)

/-- The text of a subscripted name is never read as the argument in it. -/
theorem parse_subscripted_ne {origin : String} {t : TypeExpr} (horigin : IsTypeName origin)
    (h : (generic origin [t]).Regular IsSourceName ConstantArgs) :
    parse (generic origin [t]).text ≠ .ok t := by
  intro hparse
  have hnames : (generic origin [t]).names = origin :: t.names := by
    rw [names, itemNames, itemNames, List.append_nil]
  have hvalues : t.values = (generic origin [t]).values := by
    rw [values, itemValues, itemValues, List.append_nil]
  -- if it were, then so would the whole be, and the two are not the same
  obtain ⟨hread, hplain⟩ := isTypeName_isPlain_of_parse h hparse hvalues
  have hwhole : parse (generic origin [t]).text = .ok (generic origin [t]) := by
    refine (parse_text_eq_ok_iff h).mpr ⟨?_, hplain⟩
    rw [hnames] at hread ⊢
    rw [List.forall_mem_cons] at hread ⊢
    exact ⟨horigin, fun path hpath => hread.2 path hpath hpath⟩
  have heq : t = generic origin [t] := Except.ok.inj (hparse.symm.trans hwhole)
  have hsize := congrArg sizeOf heq
  simp only [generic.sizeOf_spec, List.cons.sizeOf_spec] at hsize
  omega

end TypeExpr

end RecordForms
