import RecordForms.Proofs.Except
import RecordForms.Proofs.TypeExpr.Regular
import RecordForms.Proofs.TypeExpr.Tokens

/-!
# Reading a type from its text

The reader of types inverts the writer on regular types whose values are plain.  What it reads of a
longer text is the type at its beginning; it leaves the rest, up to blanks.

## Main definitions

* `EndsPrimary rest`, `EndsType rest`: an alternative, and a type, that is followed by `rest` ends
  there
* `ReadsPrimary t`, `Reads t`: the reader of alternatives, and that of types, reads `t` from every
  text that begins with the text of `t`, with three levels of calls for a character

## Main results

* `moreArguments_commaBefore`, `moreAlternatives_barBefore`, `literalItems_commaBefore`: what stands
  after the first argument, alternative or value is read to its end
* `Regular.reads`: a regular type is read from its text
* `parse_text`: a regular type is what its text spells
-/

namespace RecordForms.TypeExpr

open RecordForms.Text

/-- The values that a literal type with plain arguments has. -/
def PlainArgs (vs : List Value) : Prop :=
  ∀ v ∈ vs, v.isPlain

/-- Whether a name, subscripted or not, that stands before `rest` ends there. -/
structure EndsPrimary (rest : List Char) : Prop where
  name : EndsName rest
  subscript : (trimStart rest).head? ≠ some '['

/-- Whether a type that stands before `rest` ends there. -/
structure EndsType (rest : List Char) : Prop extends EndsPrimary rest where
  bar : (trimStart rest).head? ≠ some '|'

/-- The reader of one alternative reads `t` from every text that begins with it. -/
def ReadsPrimary (t : TypeExpr) : Prop :=
  ∀ fuel cs rest, trimStart cs = t.chars ++ rest → EndsPrimary rest → 3 * t.chars.length ≤ fuel →
    ∃ r, primary fuel cs = .ok (t, r) ∧ trimStart r = trimStart rest

/-- The reader of types reads `t` from every text that begins with it. -/
def Reads (t : TypeExpr) : Prop :=
  ∀ fuel cs rest, trimStart cs = t.chars ++ rest → EndsType rest → 3 * t.chars.length < fuel →
    ∃ r, alternatives fuel cs = .ok (t, r) ∧ trimStart r = trimStart rest

/-! ### Continuations -/

theorem endsType_nil : EndsType [] where
  name := endsName_nil
  subscript := by simp
  bar := by simp

theorem endsType_comma (rest : List Char) : EndsType (',' :: rest) where
  name := endsName_cons (by decide) (by decide) rest
  subscript := by simp [trimStart_cons (show isBlank ',' = false by decide)]
  bar := by simp [trimStart_cons (show isBlank ',' = false by decide)]

theorem endsType_close (rest : List Char) : EndsType (']' :: rest) where
  name := endsName_cons (by decide) (by decide) rest
  subscript := by simp [trimStart_cons (show isBlank ']' = false by decide)]
  bar := by simp [trimStart_cons (show isBlank ']' = false by decide)]

theorem endsPrimary_bar (rest : List Char) : EndsPrimary (' ' :: '|' :: rest) where
  name := endsName_cons (by decide) (by decide) _
  subscript := by
    rw [trimStart_cons_of_isBlank (by decide), trimStart_cons (by decide)]
    simp

theorem endsPrimary_barBefore {rest : List Char} (h : EndsPrimary rest)
    (items : List (List Char)) : EndsPrimary (barBefore items ++ rest) := by
  cases items with
  | nil => exact h
  | cons item items => exact endsPrimary_bar _

theorem endsType_commaBefore (items : List (List Char)) (rest : List Char) :
    EndsType (commaBefore items ++ ']' :: rest) := by
  cases items with
  | nil => exact endsType_close rest
  | cons item items => exact endsType_comma _

theorem endsItem_commaBefore (items : List (List Char)) (rest : List Char) :
    EndsItem (commaBefore items ++ ']' :: rest) := by
  cases items with
  | nil => exact Or.inr rfl
  | cons item items => exact Or.inl rfl

/-- What the reader cuts off as blanks is never a part of the arguments. -/
theorem trimStart_commaBefore (items : List (List Char)) (rest : List Char) :
    trimStart (commaBefore items ++ ']' :: rest) = commaBefore items ++ ']' :: rest := by
  cases items with
  | nil => exact trimStart_cons (by decide) rest
  | cons item items => exact trimStart_cons (by decide) _

section

variable {args : List Value → Prop}

theorem Regular.length_pos {t : TypeExpr} (h : t.Regular IsTypeName args) : 0 < t.chars.length := by
  obtain ⟨c, tail, hc, -⟩ := h.exists_cons
  simp [hc]

theorem Regular.trimStart_append {t : TypeExpr} (h : t.Regular IsTypeName args) (rest : List Char) :
    trimStart (t.chars ++ rest) = t.chars ++ rest := by
  obtain ⟨c, tail, hc, hstart⟩ := h.exists_cons
  have hblank := isBlank_eq_false_of_isNamePart (isNamePart_of_isNameStart hstart)
  rw [hc, List.cons_append, trimStart_cons hblank]

theorem Regular.trimStart_blank {t : TypeExpr} (h : t.Regular IsTypeName args) (rest : List Char) :
    trimStart (' ' :: (t.chars ++ rest)) = t.chars ++ rest := by
  rw [trimStart_cons_of_isBlank (by decide), h.trimStart_append]

theorem Regular.atClose_eq_false {t : TypeExpr} (h : t.Regular IsTypeName args) (rest : List Char) :
    atClose (' ' :: (t.chars ++ rest)) = false := by
  obtain ⟨c, tail, hc, hstart⟩ := h.exists_cons
  refine TypeExpr.atClose_eq_false ?_
  rw [h.trimStart_blank, hc, List.cons_append, List.head?_cons, ne_eq, Option.some.injEq]
  rintro rfl
  exact absurd hstart (by decide)

/-! ### Arguments and alternatives after the first -/

/-- The arguments after the first are read up to the closing bracket. -/
theorem moreArguments_commaBefore {ts : List TypeExpr} (hreg : ∀ t ∈ ts, t.Regular IsTypeName args)
    (hreads : ∀ t ∈ ts, Reads t) {fuel : Nat} {acc : List TypeExpr} {cs rest : List Char}
    (hcs : trimStart cs = commaBefore (ts.map chars) ++ ']' :: rest)
    (hfuel : 3 * (commaBefore (ts.map chars)).length < fuel) :
    moreArguments fuel acc cs = .ok (acc.reverse ++ ts, rest) := by
  -- Induction on the arguments left, with any arguments read before them.
  induction ts generalizing fuel acc cs with
  | nil =>
    obtain ⟨fuel, rfl⟩ := Nat.exists_eq_succ_of_ne_zero (Nat.ne_zero_of_lt hfuel)
    have hclose : trimStart cs = ']' :: rest := hcs
    have hcomma : eat? ',' cs = none := eat?_eq_none (by simp [hclose])
    simp only [moreArguments, hcomma, expectClose_eq_ok hclose, Except.ok_bind, List.append_nil]
  | cons t ts ih =>
    obtain ⟨fuel, rfl⟩ := Nat.exists_eq_succ_of_ne_zero (Nat.ne_zero_of_lt hfuel)
    rw [List.forall_mem_cons] at hreg hreads
    simp only [List.map_cons, commaBefore_cons, List.cons_append, List.append_assoc,
      List.length_cons, List.length_append] at hcs hfuel
    -- the argument ends at the next comma or at the bracket, and leaves what the induction is about
    obtain ⟨r, hr, hrest⟩ := hreads.1 fuel _ _ (hreg.1.trimStart_blank _)
      (endsType_commaBefore (ts.map chars) rest) (by omega)
    rw [trimStart_commaBefore] at hrest
    have hmore : moreArguments fuel (t :: acc) r = .ok ((t :: acc).reverse ++ ts, rest) :=
      ih hreg.2 hreads.2 hrest (by omega)
    simp only [moreArguments, eat?_eq_some hcs, hreg.1.atClose_eq_false, Bool.false_eq_true,
      if_false, hr, Except.ok_bind, hmore, List.reverse_cons, List.append_assoc,
      List.singleton_append]

theorem moreAlternatives_of_endsType {cs rest : List Char} (hcs : trimStart cs = trimStart rest)
    (hrest : EndsType rest) (fuel : Nat) (acc : List TypeExpr) :
    moreAlternatives (fuel + 1) acc cs = .ok (acc.reverse, trimStart cs) := by
  have hbar : eat? '|' cs = none := eat?_eq_none (by rw [hcs]; exact hrest.bar)
  simp only [moreAlternatives, hbar]

/-- The alternatives after the first are read as long as there is a bar. -/
theorem moreAlternatives_barBefore {ts : List TypeExpr} (hreg : ∀ t ∈ ts, t.Regular IsTypeName args)
    (hreads : ∀ t ∈ ts, ReadsPrimary t) {fuel : Nat} {acc : List TypeExpr} {cs rest : List Char}
    (hcs : trimStart cs = trimStart (barBefore (ts.map chars) ++ rest)) (hrest : EndsType rest)
    (hfuel : 3 * (barBefore (ts.map chars)).length < fuel) :
    ∃ r, moreAlternatives fuel acc cs = .ok (acc.reverse ++ ts, r) ∧
      trimStart r = trimStart rest := by
  -- As for the arguments, but no bracket closes them: what follows has to end the last one.
  induction ts generalizing fuel acc cs with
  | nil =>
    obtain ⟨fuel, rfl⟩ := Nat.exists_eq_succ_of_ne_zero (Nat.ne_zero_of_lt hfuel)
    have htrim : trimStart cs = trimStart rest := hcs
    refine ⟨trimStart cs, ?_, by rw [trimStart_trimStart, htrim]⟩
    rw [moreAlternatives_of_endsType htrim hrest, List.append_nil]
  | cons t ts ih =>
    obtain ⟨fuel, rfl⟩ := Nat.exists_eq_succ_of_ne_zero (Nat.ne_zero_of_lt hfuel)
    rw [List.forall_mem_cons] at hreg hreads
    simp only [List.map_cons, barBefore_cons, List.cons_append, List.append_assoc,
      List.length_cons, List.length_append] at hcs hfuel
    rw [trimStart_cons_of_isBlank (by decide), trimStart_cons (by decide)] at hcs
    -- the alternative ends at the next bar, or where the union ends
    obtain ⟨r, hr, htrim⟩ := hreads.1 fuel _ _ (hreg.1.trimStart_blank _)
      (endsPrimary_barBefore hrest.toEndsPrimary (ts.map chars)) (by omega)
    have hless : 3 * (barBefore (ts.map chars)).length < fuel := by omega
    have hmore : ∃ r', moreAlternatives fuel (t :: acc) r = .ok ((t :: acc).reverse ++ ts, r') ∧
        trimStart r' = trimStart rest := ih hreg.2 hreads.2 htrim hless
    obtain ⟨r', hmore, hr'⟩ := hmore
    refine ⟨r', ?_, hr'⟩
    simp only [moreAlternatives, eat?_eq_some hcs, hr, Except.ok_bind, hmore, List.reverse_cons,
      List.append_assoc, List.singleton_append]

/-- The values after the first are read up to the closing bracket. -/
theorem literalItems_commaBefore {vs : List Value} (hplain : PlainArgs vs) {fuel : Nat}
    {acc : List Value} {cs rest : List Char}
    (hcs : trimStart cs = commaBefore (vs.map Value.chars) ++ ']' :: rest)
    (hfuel : (commaBefore (vs.map Value.chars)).length < fuel) :
    literalItems fuel acc cs = .ok (acc.reverse ++ vs, rest) := by
  induction vs generalizing fuel acc cs with
  | nil =>
    obtain ⟨fuel, rfl⟩ := Nat.exists_eq_succ_of_ne_zero (Nat.ne_zero_of_lt hfuel)
    have hclose : trimStart cs = ']' :: rest := hcs
    have hcomma : eat? ',' cs = none := eat?_eq_none (by simp [hclose])
    simp only [literalItems, hcomma, expectClose_eq_ok hclose, Except.ok_bind, List.append_nil]
  | cons v vs ih =>
    obtain ⟨fuel, rfl⟩ := Nat.exists_eq_succ_of_ne_zero (Nat.ne_zero_of_lt hfuel)
    rw [PlainArgs, List.forall_mem_cons] at hplain
    simp only [List.map_cons, commaBefore_cons, List.cons_append, List.append_assoc,
      List.length_cons, List.length_append] at hcs hfuel
    obtain ⟨c, tail, hc, hblank, hclose⟩ := exists_cons_of_isPlain hplain.1
    have htrim : ∀ rest, trimStart (' ' :: (v.chars ++ rest)) = v.chars ++ rest := by
      intro rest
      rw [trimStart_cons_of_isBlank (by decide), hc, List.cons_append, trimStart_cons hblank]
    -- a comma with a bracket after it would end the arguments
    have hopen : atClose (' ' :: (v.chars ++ (commaBefore (vs.map Value.chars) ++ ']' :: rest))) =
        false := by
      refine atClose_eq_false ?_
      rw [htrim, hc, List.cons_append, List.head?_cons]
      simpa using hclose
    have hitem := literalItem_append hplain.1 (htrim _)
      (endsItem_commaBefore (vs.map Value.chars) rest)
    have hmore : literalItems fuel (v :: acc) (commaBefore (vs.map Value.chars) ++ ']' :: rest) =
        .ok ((v :: acc).reverse ++ vs, rest) :=
      ih hplain.2 (trimStart_commaBefore _ rest) (by omega)
    simp only [literalItems, eat?_eq_some hcs, hopen, Bool.false_eq_true, if_false, hitem,
      Except.ok_bind, hmore, List.reverse_cons, List.append_assoc, List.singleton_append]

/-! ### Types -/

theorem toList_ne_none {path : String} (h : IsReadName path) : path.toList ≠ "None".toList :=
  fun heq => h.2 (String.toList_inj.mp heq)

theorem dotted_bracket {path : String} (h : IsReadName path) (rest : List Char) :
    dotted (path.toList ++ '[' :: rest) = .ok (path.toList, '[' :: rest) :=
  dotted_append_of_isReadName h.1 (endsName_cons (by decide) (by decide) rest)

theorem eat?_bracket (rest : List Char) : eat? '[' ('[' :: rest) = some rest :=
  eat?_eq_some (trimStart_cons (by decide) rest)

theorem length_pos_of_isReadName {path : String} (h : IsReadName path) :
    0 < (name path).chars.length := by
  rw [chars, List.length_pos_iff]
  intro hnil
  simpa [hnil] using h.1

theorem readsPrimary_name {path : String} (h : IsReadName path) : ReadsPrimary (name path) := by
  intro fuel cs rest hcs hrest hfuel
  have hpos := length_pos_of_isReadName h
  obtain ⟨fuel, rfl⟩ : ∃ n, fuel = n + 1 := ⟨fuel - 1, by omega⟩
  rw [chars] at hcs
  have hread := dotted_append_of_isReadName h.1 hrest.name
  have hplain : eat? '[' rest = none := eat?_eq_none hrest.subscript
  refine ⟨trimStart rest, ?_, trimStart_trimStart rest⟩
  simp only [primary, hcs, hread, Except.ok_bind, toList_ne_none h, if_false, hplain,
    String.ofList_toList]

theorem readsPrimary_noneType : ReadsPrimary noneType := by
  intro fuel cs rest hcs hrest hfuel
  have hpos := (Regular.noneType : noneType.Regular IsTypeName PlainArgs).length_pos
  obtain ⟨fuel, rfl⟩ : ∃ n, fuel = n + 1 := ⟨fuel - 1, by omega⟩
  rw [chars] at hcs
  have hread := dotted_append (isDotted_of_isConstantName "None" rfl) hrest.name
  refine ⟨rest, ?_, rfl⟩
  simp only [primary, hcs, hread, Except.ok_bind, if_true]

theorem readsPrimary_generic {origin : String} {ts : List TypeExpr} (horigin : IsTypeName origin)
    (hliteral : isLiteralOrigin origin = false) (hne : ts ≠ [])
    (hts : ∀ t ∈ ts, t.Regular IsTypeName args) (hreads : ∀ t ∈ ts, Reads t) :
    ReadsPrimary (generic origin ts) := by
  intro fuel cs rest hcs hrest hfuel
  obtain ⟨t, ts, rfl⟩ := List.exists_cons_of_ne_nil hne
  rw [List.forall_mem_cons] at hts hreads
  simp only [chars_generic, List.append_assoc, List.cons_append, List.nil_append,
    List.length_append, List.length_cons] at hcs hfuel
  obtain ⟨fuel, rfl⟩ : ∃ n, fuel = n + 1 := ⟨fuel - 1, by omega⟩
  obtain ⟨r, hfirst, hr⟩ := hreads.1 fuel _ _ (hts.1.trimStart_append _)
    (endsType_commaBefore (ts.map chars) rest) (by omega)
  rw [trimStart_commaBefore] at hr
  have hmore : moreArguments fuel [t] r = .ok (t :: ts, rest) :=
    moreArguments_commaBefore hts.2 hreads.2 hr (by omega)
  refine ⟨rest, ?_, rfl⟩
  simp only [primary, hcs, dotted_bracket horigin.isReadName, Except.ok_bind,
    toList_ne_none horigin.isReadName, if_false, eat?_bracket, String.ofList_toList, hliteral,
    Bool.false_eq_true, hfirst, hmore]

theorem readsPrimary_literal {origin : String} {vs : List Value} (horigin : IsTypeName origin)
    (hliteral : isLiteralOrigin origin) (hne : vs ≠ []) (hvs : PlainArgs vs) :
    ReadsPrimary (literal origin vs) := by
  intro fuel cs rest hcs hrest hfuel
  obtain ⟨v, vs, rfl⟩ := List.exists_cons_of_ne_nil hne
  rw [PlainArgs, List.forall_mem_cons] at hvs
  simp only [chars_literal, List.append_assoc, List.cons_append, List.nil_append,
    List.length_append, List.length_cons] at hcs hfuel
  obtain ⟨fuel, rfl⟩ : ∃ n, fuel = n + 1 := ⟨fuel - 1, by omega⟩
  have htrim : trimStart (v.chars ++ (commaBefore (vs.map Value.chars) ++ ']' :: rest)) =
      v.chars ++ (commaBefore (vs.map Value.chars) ++ ']' :: rest) := by
    obtain ⟨c, tail, hc, hblank, -⟩ := exists_cons_of_isPlain hvs.1
    rw [hc, List.cons_append, trimStart_cons hblank]
  have hfirst := literalItem_append hvs.1 htrim (endsItem_commaBefore (vs.map Value.chars) rest)
  have hmore : literalItems fuel [v] (commaBefore (vs.map Value.chars) ++ ']' :: rest) =
      .ok (v :: vs, rest) :=
    literalItems_commaBefore hvs.2 (trimStart_commaBefore _ rest) (by omega)
  refine ⟨rest, ?_, rfl⟩
  simp only [primary, hcs, dotted_bracket horigin.isReadName, Except.ok_bind,
    toList_ne_none horigin.isReadName, if_false, eat?_bracket, String.ofList_toList, hliteral,
    if_true, hfirst, hmore]

/-- A single alternative is a type by itself. -/
theorem ReadsPrimary.reads {t : TypeExpr} (h : ReadsPrimary t) (hpos : 0 < t.chars.length) :
    Reads t := by
  intro fuel cs rest hcs hrest hfuel
  -- One call for the type, and one that finds no bar after the alternative.
  obtain ⟨fuel, rfl⟩ : ∃ n, fuel = n + 2 := ⟨fuel - 2, by omega⟩
  obtain ⟨r, hr, htrim⟩ := h (fuel + 1) cs rest hcs hrest.toEndsPrimary (by omega)
  refine ⟨trimStart r, ?_, by rw [trimStart_trimStart, htrim]⟩
  rw [alternatives, hr, Except.ok_bind]
  simp only [moreAlternatives_of_endsType htrim hrest, Except.ok_bind, List.reverse_singleton,
    ofMembers]

theorem ofMembers_of_two_le {ts : List TypeExpr} (h : 2 ≤ ts.length) : ofMembers ts = union ts := by
  match ts, h with
  | _ :: _ :: _, _ => rfl

theorem reads_union {ts : List TypeExpr} (hlength : 2 ≤ ts.length)
    (hts : ∀ t ∈ ts, t.Regular IsTypeName args) (hreads : ∀ t ∈ ts, ReadsPrimary t) :
    Reads (union ts) := by
  intro fuel cs rest hcs hrest hfuel
  have hmembers := ofMembers_of_two_le hlength
  obtain ⟨t, ts, rfl⟩ := List.exists_cons_of_length_pos (Nat.lt_of_succ_lt hlength)
  rw [List.forall_mem_cons] at hts hreads
  have hpos := hts.1.length_pos
  simp only [chars_union, List.append_assoc, List.length_append] at hcs hfuel
  obtain ⟨fuel, rfl⟩ : ∃ n, fuel = n + 1 := ⟨fuel - 1, by omega⟩
  obtain ⟨r, hfirst, htrim⟩ := hreads.1 fuel cs _ hcs
    (endsPrimary_barBefore hrest.toEndsPrimary (ts.map chars)) (by omega)
  have hmore : ∃ r', moreAlternatives fuel [t] r = .ok (t :: ts, r') ∧
      trimStart r' = trimStart rest :=
    moreAlternatives_barBefore hts.2 hreads.2 htrim hrest (by omega)
  obtain ⟨r', hmore, hr'⟩ := hmore
  refine ⟨r', ?_, hr'⟩
  simp only [alternatives, hfirst, hmore, Except.ok_bind, hmembers]

end

theorem Regular.reads_of_readsPrimary {args : List Value → Prop} {t : TypeExpr}
    (h : t.Regular IsTypeName args) (hprimary : ReadsPrimary t) :
    Reads t ∧ (t.isUnion = false → ReadsPrimary t) :=
  ⟨hprimary.reads h.length_pos, fun _ => hprimary⟩

/-- A regular type is read from its text, and what is no union is read as one alternative. -/
theorem Regular.reads {t : TypeExpr} (h : t.Regular IsTypeName PlainArgs) :
    Reads t ∧ (t.isUnion = false → ReadsPrimary t) := by
  -- Along the type: an argument may be a union and needs the first part, the members of a union
  -- are read as alternatives and need the second.
  induction h with
  | name hpath =>
    have hreg : Regular IsTypeName PlainArgs _ := .name hpath
    exact hreg.reads_of_readsPrimary (readsPrimary_name hpath.isReadName)
  | generic horigin hliteral hne hts ih =>
    have hprimary := readsPrimary_generic horigin hliteral hne hts fun t ht => (ih t ht).1
    exact (Regular.generic horigin hliteral hne hts).reads_of_readsPrimary hprimary
  | union hlength hunion hts ih =>
    have hreads := reads_union hlength hts fun t ht => (ih t ht).2 (hunion t ht)
    exact ⟨hreads, by simp [isUnion]⟩
  | noneType =>
    have hreg : Regular IsTypeName PlainArgs _ := .noneType
    exact hreg.reads_of_readsPrimary readsPrimary_noneType
  | literal horigin hliteral hne hvs =>
    have hprimary := readsPrimary_literal horigin hliteral hne hvs
    exact (Regular.literal horigin hliteral hne hvs).reads_of_readsPrimary hprimary

/-- A type that is read from every text that begins with its own is what its own text spells. -/
theorem parse_of_reads {t : TypeExpr} (h : Reads t) (hblank : trimStart t.chars = t.chars) :
    parse t.text = .ok t := by
  have hcs : trimStart t.chars = t.chars ++ [] := by rw [hblank, List.append_nil]
  -- The reader allows three calls for each character, and three more.
  obtain ⟨r, hr, htrim⟩ := h (3 * t.chars.length + 3) t.chars [] hcs endsType_nil (by omega)
  have hchars : parseChars t.chars = .ok t := by
    simp only [parseChars, hr, Except.ok_bind, htrim, trimStart_nil]
  rw [parse, text, String.toList_ofList, hchars]

/-- A regular type is what its text spells. -/
theorem parse_text {t : TypeExpr} (h : t.Regular IsTypeName PlainArgs) : parse t.text = .ok t :=
  parse_of_reads h.reads.1 (by simpa using h.trimStart_append [])

end RecordForms.TypeExpr
