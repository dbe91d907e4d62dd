import RecordForms.Proofs.TypeExpr.Regular
import RecordForms.Proofs.TypeExpr.Tokens
import RecordForms.Proofs.Value.Quoted

/-!
# The text of a value determines it

Two values without floats and names that have one text are the same value.  The text of a value is
told from what follows it: a literal ends at its quote, a container at its bracket, and a number
where a separator or a bracket stands.  So containers are taken apart item by item, whatever texts
are nested in them.

## Main definitions

* `Value.Exact`: the values without floats and names at any depth
* `Value.Determines write among a`: what is written for `a` determines `a` and its own end
* `Value.lead`: what the first character of a text says about the value

## Main results

* `Value.commaSeparated_inj`: items between commas are determined one by one up to a closing bracket
* `Value.Exact.determines`: the text of such a value determines the value and its own end
* `Value.text_inj`: such values have one text only if they are the same
-/

namespace RecordForms.Value

open RecordForms.TypeExpr (isLiteralChar commaBefore commaBefore_nil commaBefore_cons)

/-- Values without a float or a name at any depth. -/
inductive Exact : Value → Prop
  | none : Exact none
  | bool (b : Bool) : Exact (bool b)
  | int (n : Int64) : Exact (int n)
  | str (s : String) : Exact (str s)
  | bytes (bs : List UInt8) : Exact (bytes bs)
  | ellipsis : Exact ellipsis
  | tuple {vs : List Value} (hvs : ∀ v ∈ vs, Exact v) : Exact (tuple vs)
  | list {vs : List Value} (hvs : ∀ v ∈ vs, Exact v) : Exact (list vs)
  | dict {ps : List (Value × Value)} (hkeys : ∀ p ∈ ps, Exact p.1)
      (hvalues : ∀ p ∈ ps, Exact p.2) : Exact (dict ps)
  | set {vs : List Value} (hvs : ∀ v ∈ vs, Exact v) : Exact (set vs)
  | frozenSet {vs : List Value} (hvs : ∀ v ∈ vs, Exact v) : Exact (frozenSet vs)

/-! ### Ends -/

/-- The brackets that close a container. -/
def isCloser (c : Char) : Bool :=
  [')', ']', '}'].contains c

/-- Whether a closing bracket comes next. -/
def Closes (rest : List Char) : Prop :=
  ∃ c tail, rest = c :: tail ∧ isCloser c

/-- Whether a text begins, but not with a closing bracket. -/
def Opens (text : List Char) : Prop :=
  ∃ c tail, text = c :: tail ∧ isCloser c = false

/-- Whether a number that stands before `rest` ends there. -/
def EndsWord (rest : List Char) : Prop :=
  ∀ c ∈ rest.head?, isLiteralChar c = false

theorem isCloser_cases {c : Char} (h : isCloser c) : c = ')' ∨ c = ']' ∨ c = '}' := by
  simpa [isCloser] using h

theorem closes_cons {c : Char} (h : isCloser c) (tail : List Char) : Closes (c :: tail) :=
  ⟨c, tail, rfl, h⟩

theorem endsWord_cons {c : Char} (h : isLiteralChar c = false) (tail : List Char) :
    EndsWord (c :: tail) := by
  intro d hd
  rw [List.head?_cons, Option.mem_some_iff] at hd
  rwa [← hd]

theorem endsWord_nil : EndsWord [] := by
  simp [EndsWord]

theorem Closes.endsWord {rest : List Char} (h : Closes rest) : EndsWord rest := by
  obtain ⟨c, tail, rfl, hc⟩ := h
  rcases isCloser_cases hc with rfl | rfl | rfl
  all_goals exact endsWord_cons (by decide) tail

theorem Opens.ne_closes {text after rest : List Char} (hopen : Opens text) (hclose : Closes rest) :
    text ++ after ≠ rest := by
  obtain ⟨c, tail, rfl, hc⟩ := hopen
  obtain ⟨d, tail', rfl, hd⟩ := hclose
  intro h
  rw [(List.cons.inj h).1, hd] at hc
  cases hc

/-! ### Items between commas -/

/-- Whether what is written for `a` determines `a` and its own end, as far as only things that
satisfy `among` are written. -/
def Determines {α : Type} (write : α → List Char) (among : α → Prop) (a : α) : Prop :=
  ∀ b rest rest', among b → EndsWord rest → EndsWord rest' →
    write a ++ rest = write b ++ rest' → a = b ∧ rest = rest'

section Items

variable {α : Type} {write : α → List Char} {among : α → Prop}

theorem endsWord_commaBefore {items : List (List Char)} {rest : List Char} (h : EndsWord rest) :
    EndsWord (commaBefore items ++ rest) := by
  cases items with
  | nil => exact h
  | cons item items => exact endsWord_cons (by decide) _

theorem commaBefore_append_ne {item : List Char} {items : List (List Char)} {rest rest' : List Char}
    (h : Closes rest') : commaBefore (item :: items) ++ rest ≠ rest' := by
  obtain ⟨c, tail, rfl, hc⟩ := h
  intro heq
  have hcomma : ',' = c := (List.cons.inj heq).1
  rw [← hcomma] at hc
  exact absurd hc (by decide)

/-- Items with a comma before each are determined up to a closing bracket. -/
theorem commaBefore_inj {as bs : List α} (has : ∀ a ∈ as, Determines write among a)
    (hbs : ∀ b ∈ bs, among b) {rest rest' : List Char} (hrest : Closes rest)
    (hrest' : Closes rest')
    (h : commaBefore (as.map write) ++ rest = commaBefore (bs.map write) ++ rest') :
    as = bs ∧ rest = rest' := by
  -- Along the first list: a comma stands where there is another item, and nowhere else.
  induction as generalizing bs with
  | nil =>
    cases bs with
    | nil => exact ⟨rfl, h⟩
    | cons b bs => exact absurd h.symm (commaBefore_append_ne hrest)
  | cons a as ih =>
    cases bs with
    | nil => exact absurd h (commaBefore_append_ne hrest')
    | cons b bs =>
      rw [List.forall_mem_cons] at has hbs
      simp only [List.map_cons, commaBefore_cons, List.cons_append, List.append_assoc,
        List.cons.injEq, true_and] at h
      obtain ⟨rfl, htail⟩ := has.1 b _ _ hbs.1 (endsWord_commaBefore hrest.endsWord)
        (endsWord_commaBefore hrest'.endsWord) h
      obtain ⟨rfl, hend⟩ := ih has.2 hbs.2 htail
      exact ⟨rfl, hend⟩

/-- Items between commas are determined up to a closing bracket. -/
theorem commaSeparated_inj (hopen : ∀ a, among a → Opens (write a)) {as bs : List α}
    (hamong : ∀ a ∈ as, among a) (has : ∀ a ∈ as, Determines write among a)
    (hbs : ∀ b ∈ bs, among b) {rest rest' : List Char} (hrest : Closes rest)
    (hrest' : Closes rest')
    (h : commaSeparated (as.map write) ++ rest = commaSeparated (bs.map write) ++ rest') :
    as = bs ∧ rest = rest' := by
  have hnil : commaSeparated [] = [] := rfl
  cases as with
  | nil =>
    cases bs with
    | nil => exact ⟨rfl, h⟩
    | cons b bs =>
      rw [List.map_nil, hnil, List.nil_append, List.map_cons, TypeExpr.commaSeparated_cons,
        List.append_assoc] at h
      exact absurd h.symm ((hopen b (hbs b List.mem_cons_self)).ne_closes hrest)
  | cons a as =>
    rw [List.map_cons, TypeExpr.commaSeparated_cons, List.append_assoc] at h
    rw [List.forall_mem_cons] at hamong has
    cases bs with
    | nil =>
      rw [List.map_nil, hnil, List.nil_append] at h
      exact absurd h ((hopen a hamong.1).ne_closes hrest')
    | cons b bs =>
      rw [List.map_cons, TypeExpr.commaSeparated_cons, List.append_assoc] at h
      rw [List.forall_mem_cons] at hbs
      obtain ⟨rfl, htail⟩ := has.1 b _ _ hbs.1 (endsWord_commaBefore hrest.endsWord)
        (endsWord_commaBefore hrest'.endsWord) h
      obtain ⟨rfl, hend⟩ := commaBefore_inj has.2 hbs.2 hrest hrest' htail
      exact ⟨rfl, hend⟩

end Items

/-! ### Numbers -/

theorem takeWhile_decimalInt (n : Int64) {rest : List Char} (h : EndsWord rest) :
    (Number.decimalInt n.toInt ++ rest).takeWhile isLiteralChar = Number.decimalInt n.toInt := by
  have hword := (TypeExpr.word_of_decimalInt n).2
  rw [List.takeWhile_append_of_pos hword]
  cases rest with
  | nil => simp
  | cons c rest =>
    have hc := h c rfl
    rw [List.takeWhile_cons_of_neg (by simp [hc]), List.append_nil]

theorem determines_int (n m : Int64) {rest rest' : List Char} (hrest : EndsWord rest)
    (hrest' : EndsWord rest')
    (h : Number.decimalInt n.toInt ++ rest = Number.decimalInt m.toInt ++ rest') :
    n = m ∧ rest = rest' := by
  have hdigits : Number.decimalInt n.toInt = Number.decimalInt m.toInt := by
    rw [← takeWhile_decimalInt n hrest, h, takeWhile_decimalInt m hrest']
  have hn := Number.int64OfDecimal?_decimalInt n
  rw [hdigits, Number.int64OfDecimal?_decimalInt m, Option.some.injEq] at hn
  rw [hdigits] at h
  exact ⟨hn.symm, List.append_cancel_left h⟩

/-! ### Literals -/

section Literals

variable {α : Type} {write : α → List Char} {unit : α → Nat} {bytes : Bool}

/-- No piece of a literal's body is a part of another one. -/
theorem eq_of_spells (hspells : ∀ a, Spells bytes (write a) (unit a))
    (hunit : Function.Injective unit) {a b : α} {x y : List Char}
    (h : write a ++ x = write b ++ y) : a = b ∧ x = y := by
  -- a piece that begins with another one would stand for what that one stands for
  have hpart : ∀ {a b : α} {z : List Char}, write a = write b ++ z → a = b := by
    intro a b z hz
    have ha := hspells a []
    rw [List.append_nil, hz, hspells b z] at ha
    obtain ⟨units, -, hunits⟩ := Option.map_eq_some_iff.mp ha
    exact hunit (List.cons.inj hunits).1.symm
  have hab : a = b := by
    rcases List.append_eq_append_iff.mp h with ⟨z, hz, -⟩ | ⟨z, hz, -⟩
    · exact (hpart hz).symm
    · exact hpart hz
  subst hab
  exact ⟨rfl, List.append_cancel_left h⟩

/-- The body of a literal is determined up to its closing quote. -/
theorem flatMap_inj {quote : Char} (hspells : ∀ a, Spells bytes (write a) (unit a))
    (hunit : Function.Injective unit) (hhead : ∀ a, ∃ d tail, write a = d :: tail ∧ d ≠ quote)
    {as bs : List α} {rest rest' : List Char}
    (h : as.flatMap write ++ quote :: rest = bs.flatMap write ++ quote :: rest') :
    as = bs ∧ rest = rest' := by
  induction as generalizing bs with
  | nil =>
    cases bs with
    | nil => exact ⟨rfl, (List.cons.inj h).2⟩
    | cons b bs =>
      obtain ⟨d, tail, hb, hne⟩ := hhead b
      rw [List.flatMap_cons, hb] at h
      exact absurd (List.cons.inj h).1.symm hne
  | cons a as ih =>
    cases bs with
    | nil =>
      obtain ⟨d, tail, ha, hne⟩ := hhead a
      rw [List.flatMap_cons, ha] at h
      exact absurd (List.cons.inj h).1 hne
    | cons b bs =>
      rw [List.flatMap_cons, List.flatMap_cons, List.append_assoc, List.append_assoc] at h
      obtain ⟨rfl, htail⟩ := eq_of_spells hspells hunit h
      obtain ⟨rfl, hend⟩ := ih htail
      exact ⟨rfl, hend⟩

end Literals

theorem quoted_inj {s t rest rest' : List Char} (h : quoted s ++ rest = quoted t ++ rest') :
    s = t ∧ rest = rest' := by
  simp only [quoted, List.cons_append, List.append_assoc, List.nil_append, List.cons.injEq] at h
  obtain ⟨hquote, hbody⟩ := h
  have hs := isQuote_quoteOf s
  rw [← hquote] at hbody
  exact flatMap_inj (spells_escaped hs) (fun c d => Char.toNat_inj.mp) (exists_cons_escaped hs)
    hbody

theorem quotedBytes_inj {bs cs : List UInt8} {rest rest' : List Char}
    (h : quotedBytes bs ++ rest = quotedBytes cs ++ rest') : bs = cs ∧ rest = rest' := by
  simp only [quotedBytes, List.cons_append, List.append_assoc, List.nil_append, List.cons.injEq,
    true_and] at h
  exact flatMap_inj spells_escapedByte (fun b c => UInt8.toNat_inj.mp) exists_cons_escapedByte h

/-! ### Kinds of values -/

/-- What a first character stands for: a number begins with a digit or a minus, a text with either
quote, one constant of two with its letter, and a set with a letter or a brace. -/
def leadOf (c : Char) : Char :=
  if c.isDigit || c == '-' then '0'
  else if isQuote c then '"'
  else if c = 'F' then 'T'
  else if c = 's' then '{'
  else c

/-- What the first character of the text stands for.  It is the same for sets and for dicts. -/
def lead : Value → Char
  | none => 'N'
  | bool _ => 'T'
  | int _ => '0'
  | str _ => '"'
  | bytes _ => 'b'
  | ellipsis => '.'
  | tuple _ => '('
  | list _ => '['
  | dict _ | set _ => '{'
  | frozenSet _ => 'f'
  | float _ | symbol _ => '?'

theorem exists_cons_decimalInt (n : Int) :
    ∃ c tail, Number.decimalInt n = c :: tail ∧ (c.isDigit || c == '-') = true := by
  cases n with
  | ofNat m =>
    obtain ⟨c, tail, hc⟩ := List.exists_cons_of_ne_nil (Number.decimal_ne_nil m)
    have hdigit : c.isDigit := Number.isDigit_of_mem_decimal (by rw [hc]; exact List.mem_cons_self)
    exact ⟨c, tail, hc, by rw [hdigit, Bool.true_or]⟩
  | negSucc m => exact ⟨'-', _, rfl, by decide⟩

theorem exists_cons_chars {v : Value} (h : v.Exact) :
    ∃ c tail, v.chars = c :: tail ∧ leadOf c = v.lead := by
  cases h with
  | none => exact ⟨'N', _, rfl, rfl⟩
  | bool b =>
    cases b with
    | true => exact ⟨'T', _, rfl, rfl⟩
    | false => exact ⟨'F', _, rfl, rfl⟩
  | int n =>
    obtain ⟨c, tail, hc, hsign⟩ := exists_cons_decimalInt n.toInt
    exact ⟨c, tail, hc, if_pos hsign⟩
  | str s =>
    refine ⟨quoteOf s.toList, _, rfl, ?_⟩
    rcases isQuote_cases (isQuote_quoteOf s.toList) with h | h
    · rw [h]
      rfl
    · rw [h]
      rfl
  | bytes bs => exact ⟨'b', _, rfl, rfl⟩
  | ellipsis => exact ⟨'.', _, rfl, rfl⟩
  | tuple => exact ⟨'(', _, rfl, rfl⟩
  | list => exact ⟨'[', _, rfl, rfl⟩
  | dict => exact ⟨'{', _, rfl, rfl⟩
  | @set vs =>
    cases vs with
    | nil => exact ⟨'s', _, rfl, rfl⟩
    | cons v vs => exact ⟨'{', _, rfl, rfl⟩
  | @frozenSet vs =>
    cases vs with
    | nil => exact ⟨'f', _, rfl, rfl⟩
    | cons v vs => exact ⟨'f', _, rfl, rfl⟩

theorem Exact.opens {v : Value} (h : v.Exact) : Opens v.chars := by
  obtain ⟨c, tail, hc, hlead⟩ := exists_cons_chars h
  refine ⟨c, tail, hc, ?_⟩
  -- a closing bracket stands for itself, and for no value
  rw [← Bool.not_eq_true]
  intro hcloser
  rcases isCloser_cases hcloser with rfl | rfl | rfl
  all_goals cases h <;> exact absurd hlead (by simp [leadOf, lead, isQuote])

theorem lead_eq {v w : Value} (hv : v.Exact) (hw : w.Exact) {rest rest' : List Char}
    (h : v.chars ++ rest = w.chars ++ rest') : v.lead = w.lead := by
  obtain ⟨c, tail, hc, hvlead⟩ := exists_cons_chars hv
  obtain ⟨d, tail', hd, hwlead⟩ := exists_cons_chars hw
  rw [hc, hd] at h
  rw [← hvlead, ← hwlead, (List.cons.inj h).1]

/-! ### Containers -/

section Containers

variable {vs ws : List Value} {ps qs : List (Value × Value)} {rest rest' : List Char}

/-- An entry of a dict as it is written. -/
def entryChars (p : Value × Value) : List Char :=
  p.1.chars ++ ':' :: ' ' :: p.2.chars

theorem chars_list_append (vs : List Value) (rest : List Char) :
    (list vs).chars ++ rest = '[' :: (commaSeparated (vs.map chars) ++ ']' :: rest) := by
  rw [chars_list, itemChars_eq_map, List.cons_append, List.cons_append, List.append_assoc,
    List.singleton_append]

theorem chars_dict_append (ps : List (Value × Value)) (rest : List Char) :
    (dict ps).chars ++ rest = '{' :: (commaSeparated (ps.map entryChars) ++ '}' :: rest) := by
  have hentry : (fun p : Value × Value => p.1.chars ++ ": ".toList ++ p.2.chars) = entryChars := by
    funext p
    simp [entryChars]
  rw [chars_dict, pairChars_eq_map, hentry, List.cons_append, List.cons_append, List.append_assoc,
    List.singleton_append]

theorem chars_set_append (hne : vs ≠ []) (rest : List Char) :
    (set vs).chars ++ rest = '{' :: (commaSeparated (vs.map chars) ++ '}' :: rest) := by
  obtain ⟨v, vs, rfl⟩ := List.exists_cons_of_ne_nil hne
  rw [chars_set_cons, itemChars_eq_map, List.cons_append, List.cons_append, List.append_assoc,
    List.singleton_append]

theorem chars_frozenSet_append (hne : vs ≠ []) (rest : List Char) :
    (frozenSet vs).chars ++ rest =
      "frozenset(".toList ++ '{' :: (commaSeparated (vs.map chars) ++ '}' :: ')' :: rest) := by
  obtain ⟨v, vs, rfl⟩ := List.exists_cons_of_ne_nil hne
  rw [chars_frozenSet_cons, itemChars_eq_map]
  simp only [List.append_assoc, List.cons_append, List.nil_append]

theorem chars_tuple_append (hlength : vs.length ≠ 1) (rest : List Char) :
    (tuple vs).chars ++ rest = '(' :: (commaSeparated (vs.map chars) ++ ')' :: rest) := by
  rw [chars_tuple, itemChars_eq_map, if_neg hlength, List.cons_append, List.cons_append,
    List.append_assoc, List.singleton_append]

theorem chars_tuple_singleton (v : Value) (rest : List Char) :
    (tuple [v]).chars ++ rest = '(' :: (v.chars ++ ',' :: ')' :: rest) := by
  rw [chars_tuple, itemChars_eq_map, List.map_singleton, TypeExpr.commaSeparated_cons,
    List.length_singleton, if_pos rfl, commaBefore_nil, List.append_nil]
  simp

/-- The values of a container are determined up to the bracket that closes it. -/
theorem items_inj (hvs : ∀ v ∈ vs, v.Exact) (ih : ∀ v ∈ vs, Determines chars Exact v)
    (hws : ∀ w ∈ ws, w.Exact) (hrest : Closes rest) (hrest' : Closes rest')
    (h : commaSeparated (vs.map chars) ++ rest = commaSeparated (ws.map chars) ++ rest') :
    vs = ws ∧ rest = rest' :=
  commaSeparated_inj (fun _ hv => hv.opens) hvs ih hws hrest hrest' h

theorem determines_entry {p : Value × Value} (hkey : Determines chars Exact p.1)
    (hvalue : Determines chars Exact p.2) :
    Determines entryChars (fun q => q.1.Exact ∧ q.2.Exact) p := by
  intro q rest rest' hq hrest hrest' h
  simp only [entryChars, List.append_assoc, List.cons_append] at h
  have hcolon (text : List Char) : EndsWord (':' :: text) := endsWord_cons (by decide) text
  obtain ⟨hk, htail⟩ := hkey q.1 _ _ hq.1 (hcolon _) (hcolon _) h
  simp only [List.cons.injEq, true_and] at htail
  obtain ⟨hv, hend⟩ := hvalue q.2 rest rest' hq.2 hrest hrest' htail
  exact ⟨Prod.ext hk hv, hend⟩

/-- Whether the texts of two values end at one place wherever both stand at the beginning. -/
def EndsAlike (v w : Value) : Prop :=
  ∀ x y, EndsWord x → EndsWord y → v.chars ++ x = w.chars ++ y → x = y

theorem EndsAlike.symm {v w : Value} (h : EndsAlike v w) : EndsAlike w v := by
  intro x y hx hy heq
  exact (h y x hy hx heq.symm).symm

theorem Determines.endsAlike {v w : Value} (h : Determines chars Exact v) (hw : w.Exact) :
    EndsAlike v w := by
  intro x y hx hy heq
  exact (h w x y hw hx hy heq).2

/-- A set is no dict: after its first text, an item has a comma or a bracket, and an entry a
colon. -/
theorem items_ne_entries (hne : vs ≠ []) (hvs : ∀ v ∈ vs, v.Exact)
    (hends : ∀ v ∈ vs, ∀ p ∈ ps, EndsAlike v p.1) :
    commaSeparated (vs.map chars) ++ '}' :: rest ≠
      commaSeparated (ps.map entryChars) ++ '}' :: rest' := by
  intro h
  obtain ⟨v, vs, rfl⟩ := List.exists_cons_of_ne_nil hne
  have hclose (rest : List Char) : Closes ('}' :: rest) := closes_cons rfl rest
  rw [List.map_cons, TypeExpr.commaSeparated_cons, List.append_assoc] at h
  cases ps with
  | nil => exact (hvs v List.mem_cons_self).opens.ne_closes (hclose rest') h
  | cons p ps =>
    simp only [List.map_cons, TypeExpr.commaSeparated_cons, entryChars, List.append_assoc,
      List.cons_append] at h
    have hcolon := hends v List.mem_cons_self p List.mem_cons_self _ _
      (endsWord_commaBefore (hclose rest).endsWord) (endsWord_cons (by decide) _) h
    cases vs with
    | nil => exact absurd (List.cons.inj hcolon).1 (by decide)
    | cons v' vs => exact absurd (List.cons.inj hcolon).1 (by decide)

/-- A tuple of one value is no other tuple: a bracket stands after its comma. -/
theorem singleton_ne_items {v : Value} (hv : v.Exact) (hlength : ws.length ≠ 1)
    (hends : ∀ w ∈ ws, EndsAlike v w) :
    v.chars ++ ',' :: ')' :: rest ≠ commaSeparated (ws.map chars) ++ ')' :: rest' := by
  intro h
  match ws with
  | [] => exact hv.opens.ne_closes (closes_cons rfl rest') h
  | [_] => exact hlength rfl
  | w :: w' :: ws =>
    have hcomma (text : List Char) : EndsWord (',' :: text) := endsWord_cons (by decide) text
    rw [List.map_cons, TypeExpr.commaSeparated_cons, List.append_assoc, List.map_cons,
      commaBefore_cons, List.cons_append] at h
    have htail := hends w List.mem_cons_self _ _ (hcomma _) (hcomma _) h
    exact absurd (List.cons.inj (List.cons.inj htail).2).1 (by decide)

theorem determines_tuple (hvs : ∀ v ∈ vs, v.Exact) (ih : ∀ v ∈ vs, Determines chars Exact v) :
    Determines chars Exact (tuple vs) := by
  intro w rest rest' hw hrest hrest' h
  have hlead := lead_eq (.tuple hvs) hw h
  have hcomma (text : List Char) : EndsWord (',' :: text) := endsWord_cons (by decide) text
  cases hw with
  | @tuple ws hws =>
    -- whether there is one value decides what stands before the bracket, on either side
    by_cases hone : vs.length = 1
    · obtain ⟨v, rfl⟩ := List.length_eq_one_iff.mp hone
      rw [List.forall_mem_singleton] at hvs ih
      rw [chars_tuple_singleton] at h
      by_cases hone' : ws.length = 1
      · obtain ⟨w, rfl⟩ := List.length_eq_one_iff.mp hone'
        rw [chars_tuple_singleton] at h
        obtain ⟨rfl, htail⟩ := ih w _ _ (hws w List.mem_cons_self) (hcomma _) (hcomma _)
          (List.cons.inj h).2
        exact ⟨rfl, (List.cons.inj (List.cons.inj htail).2).2⟩
      · rw [chars_tuple_append hone'] at h
        have hends : ∀ w ∈ ws, EndsAlike v w := fun w hw => ih.endsAlike (hws w hw)
        exact absurd (List.cons.inj h).2 (singleton_ne_items hvs hone' hends)
    · rw [chars_tuple_append hone] at h
      by_cases hone' : ws.length = 1
      · obtain ⟨w, rfl⟩ := List.length_eq_one_iff.mp hone'
        rw [List.forall_mem_singleton] at hws
        rw [chars_tuple_singleton] at h
        have hends : ∀ v ∈ vs, EndsAlike w v := fun v hv => ((ih v hv).endsAlike hws).symm
        exact absurd (List.cons.inj h).2.symm (singleton_ne_items hws hone hends)
      · rw [chars_tuple_append hone'] at h
        obtain ⟨rfl, hend⟩ := items_inj hvs ih hws (closes_cons rfl rest) (closes_cons rfl rest')
          (List.cons.inj h).2
        exact ⟨rfl, (List.cons.inj hend).2⟩
  | _ => simp [lead] at hlead

theorem determines_list (hvs : ∀ v ∈ vs, v.Exact) (ih : ∀ v ∈ vs, Determines chars Exact v) :
    Determines chars Exact (list vs) := by
  intro w rest rest' hw hrest hrest' h
  have hlead := lead_eq (.list hvs) hw h
  cases hw with
  | @list ws hws =>
    rw [chars_list_append, chars_list_append] at h
    obtain ⟨rfl, hend⟩ := items_inj hvs ih hws (closes_cons rfl rest) (closes_cons rfl rest')
      (List.cons.inj h).2
    exact ⟨rfl, (List.cons.inj hend).2⟩
  | _ => simp [lead] at hlead

/-- An empty set is a call, which begins with a letter and not with a brace. -/
theorem chars_set_nil_ne (rest text : List Char) : (set []).chars ++ rest ≠ '{' :: text := by
  intro h
  have hletter : 's' = '{' := (List.cons.inj h).1
  exact absurd hletter (by decide)

theorem determines_dict (hkeys : ∀ p ∈ ps, p.1.Exact) (hvalues : ∀ p ∈ ps, p.2.Exact)
    (ihkeys : ∀ p ∈ ps, Determines chars Exact p.1)
    (ihvalues : ∀ p ∈ ps, Determines chars Exact p.2) : Determines chars Exact (dict ps) := by
  intro w rest rest' hw hrest hrest' h
  have hlead := lead_eq (.dict hkeys hvalues) hw h
  rw [chars_dict_append] at h
  cases hw with
  | @dict qs hkeys' hvalues' =>
    rw [chars_dict_append] at h
    have hopen : ∀ p : Value × Value, p.1.Exact ∧ p.2.Exact → Opens (entryChars p) := by
      rintro p ⟨hkey, -⟩
      obtain ⟨c, tail, hc, hcloser⟩ := hkey.opens
      exact ⟨c, _, by rw [entryChars, hc, List.cons_append], hcloser⟩
    obtain ⟨rfl, hend⟩ := commaSeparated_inj hopen (fun p hp => ⟨hkeys p hp, hvalues p hp⟩)
      (fun p hp => determines_entry (ihkeys p hp) (ihvalues p hp))
      (fun p hp => ⟨hkeys' p hp, hvalues' p hp⟩) (closes_cons rfl rest) (closes_cons rfl rest')
      (List.cons.inj h).2
    exact ⟨rfl, (List.cons.inj hend).2⟩
  | @set ws hws =>
    by_cases hne : ws = []
    · subst hne
      exact absurd h.symm (chars_set_nil_ne rest' _)
    · rw [chars_set_append hne] at h
      have hends : ∀ w ∈ ws, ∀ p ∈ ps, EndsAlike w p.1 :=
        fun w hw p hp => ((ihkeys p hp).endsAlike (hws w hw)).symm
      exact absurd (List.cons.inj h).2.symm (items_ne_entries hne hws hends)
  | _ => simp [lead] at hlead

theorem determines_set (hvs : ∀ v ∈ vs, v.Exact) (ih : ∀ v ∈ vs, Determines chars Exact v) :
    Determines chars Exact (set vs) := by
  intro w rest rest' hw hrest hrest' h
  have hlead := lead_eq (.set hvs) hw h
  cases hw with
  | @set ws hws =>
    by_cases hne : vs = []
    · by_cases hne' : ws = []
      · subst hne hne'
        exact ⟨rfl, List.append_cancel_left h⟩
      · subst hne
        rw [chars_set_append hne'] at h
        exact absurd h (chars_set_nil_ne rest _)
    · rw [chars_set_append hne] at h
      by_cases hne' : ws = []
      · subst hne'
        exact absurd h.symm (chars_set_nil_ne rest' _)
      · rw [chars_set_append hne'] at h
        obtain ⟨rfl, hend⟩ := items_inj hvs ih hws (closes_cons rfl rest) (closes_cons rfl rest')
          (List.cons.inj h).2
        exact ⟨rfl, (List.cons.inj hend).2⟩
  | @dict qs hkeys hvalues =>
    rw [chars_dict_append] at h
    by_cases hne : vs = []
    · subst hne
      exact absurd h (chars_set_nil_ne rest _)
    · rw [chars_set_append hne] at h
      have hends : ∀ v ∈ vs, ∀ q ∈ qs, EndsAlike v q.1 :=
        fun v hv q hq => (ih v hv).endsAlike (hkeys q hq)
      exact absurd (List.cons.inj h).2 (items_ne_entries hne hvs hends)
  | _ => simp [lead] at hlead

theorem chars_frozenSet_nil (rest : List Char) :
    (frozenSet []).chars ++ rest = "frozenset(".toList ++ ')' :: rest := rfl

theorem determines_frozenSet (hvs : ∀ v ∈ vs, v.Exact)
    (ih : ∀ v ∈ vs, Determines chars Exact v) : Determines chars Exact (frozenSet vs) := by
  intro w rest rest' hw hrest hrest' h
  have hlead := lead_eq (.frozenSet hvs) hw h
  cases hw with
  | @frozenSet ws hws =>
    by_cases hne : vs = []
    · subst hne
      by_cases hne' : ws = []
      · subst hne'
        exact ⟨rfl, List.append_cancel_left h⟩
      · rw [chars_frozenSet_nil, chars_frozenSet_append hne'] at h
        exact absurd (List.cons.inj (List.append_cancel_left h)).1 (by decide)
    · rw [chars_frozenSet_append hne] at h
      by_cases hne' : ws = []
      · subst hne'
        rw [chars_frozenSet_nil] at h
        exact absurd (List.cons.inj (List.append_cancel_left h)).1 (by decide)
      · rw [chars_frozenSet_append hne'] at h
        obtain ⟨rfl, hend⟩ := items_inj hvs ih hws (closes_cons rfl _) (closes_cons rfl _)
          (List.cons.inj (List.append_cancel_left h)).2
        exact ⟨rfl, (List.cons.inj (List.cons.inj hend).2).2⟩
  | _ => simp [lead] at hlead

end Containers

/-! ### Values -/

/-- The text of a value without floats and names determines the value and its own end. -/
theorem Exact.determines {v : Value} (h : v.Exact) : Determines chars Exact v := by
  -- Along the value.  In each case the first character says what the other value can be.
  induction h with
  | none =>
    intro w rest rest' hw hrest hrest' h
    have hlead := lead_eq .none hw h
    cases hw with
    | none => exact ⟨rfl, List.append_cancel_left h⟩
    | _ => simp [lead] at hlead
  | bool b =>
    intro w rest rest' hw hrest hrest' h
    have hlead := lead_eq (.bool b) hw h
    cases hw with
    | bool b' =>
      cases b <;> cases b'
      · exact ⟨rfl, List.append_cancel_left h⟩
      · exact absurd (List.cons.inj h).1 (by decide)
      · exact absurd (List.cons.inj h).1 (by decide)
      · exact ⟨rfl, List.append_cancel_left h⟩
    | _ => simp [lead] at hlead
  | int n =>
    intro w rest rest' hw hrest hrest' h
    have hlead := lead_eq (.int n) hw h
    cases hw with
    | int m =>
      obtain ⟨rfl, hend⟩ := determines_int n m hrest hrest' h
      exact ⟨rfl, hend⟩
    | _ => simp [lead] at hlead
  | str s =>
    intro w rest rest' hw hrest hrest' h
    have hlead := lead_eq (.str s) hw h
    cases hw with
    | str t =>
      obtain ⟨hst, hend⟩ := quoted_inj h
      exact ⟨congrArg Value.str (String.toList_inj.mp hst), hend⟩
    | _ => simp [lead] at hlead
  | bytes bs =>
    intro w rest rest' hw hrest hrest' h
    have hlead := lead_eq (.bytes bs) hw h
    cases hw with
    | bytes cs =>
      obtain ⟨rfl, hend⟩ := quotedBytes_inj h
      exact ⟨rfl, hend⟩
    | _ => simp [lead] at hlead
  | ellipsis =>
    intro w rest rest' hw hrest hrest' h
    have hlead := lead_eq .ellipsis hw h
    cases hw with
    | ellipsis => exact ⟨rfl, List.append_cancel_left h⟩
    | _ => simp [lead] at hlead
  | tuple hvs ih => exact determines_tuple hvs ih
  | list hvs ih => exact determines_list hvs ih
  | dict hkeys hvalues ihkeys ihvalues => exact determines_dict hkeys hvalues ihkeys ihvalues
  | set hvs ih => exact determines_set hvs ih
  | frozenSet hvs ih => exact determines_frozenSet hvs ih

/-- **The text of a value determines the value**, as long as no float and no name is in it, whatever
texts, byte strings and containers are nested in it. -/
theorem text_inj {v w : Value} (hv : v.Exact) (hw : w.Exact) : v.text = w.text ↔ v = w := by
  constructor
  · intro h
    have hchars : v.chars ++ [] = w.chars ++ [] := by
      rw [List.append_nil, List.append_nil]
      exact String.ofList_injective h
    exact (hv.determines w [] [] hw endsWord_nil endsWord_nil hchars).1
  · rintro rfl
    rfl

/-- Two lists whose items are told apart by the quotes around them. -/
theorem text_inj_quotes : (list [str "a', 'b"]).Exact ∧ (list [str "a", str "b"]).Exact ∧
    (list [str "a', 'b"]).text ≠ (list [str "a", str "b"]).text := by
  have hone : (list [str "a', 'b"]).Exact := by
    refine .list ?_
    rw [List.forall_mem_singleton]
    exact .str _
  have htwo : (list [str "a", str "b"]).Exact := by
    refine .list ?_
    rw [List.forall_mem_cons, List.forall_mem_singleton]
    exact ⟨.str _, .str _⟩
  exact ⟨hone, htwo, fun h => absurd ((text_inj hone htwo).mp h) (by decide)⟩

end RecordForms.Value
