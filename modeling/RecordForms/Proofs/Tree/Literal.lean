import RecordForms.Proofs.Number.Digits
import RecordForms.Scan.Field
import RecordForms.Tree.Literal

/-!
# Reading the tree of a value

The tree that is written for a value has the value that it was written for, as long as the value
can be told without evaluating anything.

## Main definitions

* `Value.Readable`: the values that have such a tree

## Main results

* `Expr.dottedName?_dotted`: a dotted name is the name of its tree, whatever its characters are
* `Value.readInt?_decimal_eq`: the numeral of a natural number has its value, if it fits in 64 bits
* `Value.literal?_toExpr`: a readable value is the value of its tree
-/

namespace RecordForms

open RecordForms.Text

/-! ### Dotted names -/

namespace Expr

theorem dottedName?_foldl_attr {members : List String} {e : Expr} {head : String}
    (h : e.dottedName? = some head) : (members.foldl attr e).dottedName? =
      some (members.foldl (fun head member => head ++ "." ++ member) head) := by
  induction members generalizing e head with
  | nil => exact h
  | cons member members ih => exact ih (by rw [dottedName?, h, Option.map_some])

theorem foldl_ofList (piece : List Char) (pieces : List (List Char)) :
    (pieces.map String.ofList).foldl (fun head member => head ++ "." ++ member)
      (String.ofList piece) = String.ofList (piece ++ pieces.flatMap ('.' :: ·)) := by
  induction pieces generalizing piece with
  | nil => simp
  | cons next pieces ih =>
    have hjoin : String.ofList piece ++ "." ++ String.ofList next =
        String.ofList (piece ++ '.' :: next) := by
      simp [← String.toList_inj]
    rw [List.map_cons, List.foldl_cons, hjoin, ih, List.flatMap_cons, List.append_assoc]

/-- A dotted name is the name of its tree, whatever its characters are. -/
@[simp] theorem dottedName?_dotted (path : String) : (dotted path).dottedName? = some path := by
  -- The components between the dots, put together again.
  obtain ⟨piece, pieces, hsplit, hjoin⟩ := exists_splitAt '.' path.toList
  rw [dotted, hsplit, List.map_cons, ofComponents, dottedName?_foldl_attr rfl, foldl_ofList, hjoin,
    String.ofList_toList]

theorem foldl_attr_cases (members : List String) (e : Expr) :
    members.foldl attr e = e ∨ ∃ value member, members.foldl attr e = attr value member := by
  induction members generalizing e with
  | nil => exact Or.inl rfl
  | cons member members ih =>
    rcases ih (attr e member) with h | h
    · exact Or.inr ⟨e, member, h⟩
    · exact Or.inr h

/-- The tree of a dotted name is a name or an attribute. -/
theorem dotted_cases (path : String) :
    dotted path = name path ∨ ∃ value member, dotted path = attr value member := by
  obtain ⟨piece, pieces, hsplit, -⟩ := exists_splitAt '.' path.toList
  have hname := dottedName?_dotted path
  rw [dotted, hsplit, List.map_cons, ofComponents] at hname ⊢
  rcases foldl_attr_cases (pieces.map String.ofList) (name (String.ofList piece)) with h | h
  · rw [h, dottedName?, Option.some.injEq] at hname
    exact Or.inl (by rw [h, hname])
  · exact Or.inr h

theorem literal?_dotted (path : String) : (dotted path).literal? = some (.symbol path) := by
  have hname := dottedName?_dotted path
  rcases dotted_cases path with h | ⟨value, member, h⟩
  · rw [h, literal?]
  · rw [h] at hname ⊢
    rw [literal?, hname, Option.map_some]

end Expr

/-! ### Numerals -/

namespace Value

theorem toLower_of_isDigit {c : Char} (h : c.isDigit) : c.toLower = c := by
  have hle : c.toNat ≤ 57 := (Char.isDigit_iff_toNat.mp h).2
  have hupper : ¬ (c.val ≥ 'A'.val ∧ c.val ≤ 'Z'.val) := by
    rintro ⟨hge, -⟩
    have hge : 65 ≤ c.toNat := UInt32.le_iff_toNat_le.mp hge
    omega
  exact dif_neg hupper

theorem ungrouped_eq_self {cs : List Char} (h : '_' ∉ cs) : ungrouped cs = cs :=
  List.filter_eq_self.mpr fun _ hc => decide_eq_true fun heq => h (heq ▸ hc)

theorem map_toLower_decimal (n : Nat) : (Number.decimal n).map Char.toLower = Number.decimal n := by
  refine (List.map_congr_left fun c hc => ?_).trans (List.map_id _)
  exact toLower_of_isDigit (Number.isDigit_of_mem_decimal hc)

/-- Characters that are decimal digits, without underscores and letter case, are read in base
ten. -/
theorem readInt?_of_isDigit {cs ds : List Char} (hcs : (ungrouped cs).map Char.toLower = ds)
    (hds : ∀ d ∈ ds, d.isDigit) :
    readInt? cs = ((Number.ofDigits? 10 ds).bind fun n => Number.int64? n).map int := by
  rw [readInt?, hcs]
  -- the second character of a prefix is no decimal digit
  split
  · exact absurd (hds 'x' (by simp)) (by decide)
  · exact absurd (hds 'o' (by simp)) (by decide)
  · exact absurd (hds 'b' (by simp)) (by decide)
  · rfl

/-- The numeral of a natural number has the value of the number, if that fits in 64 bits. -/
theorem readInt?_decimal_eq (n : Nat) :
    readInt? (Number.decimal n) = (Number.int64? n).map int := by
  have hcs : (ungrouped (Number.decimal n)).map Char.toLower = Number.decimal n := by
    rw [ungrouped_eq_self ((Number.isDigits_decimal n).notMem (by decide)), map_toLower_decimal]
  rw [readInt?_of_isDigit hcs (Number.isDigits_decimal n).2, Number.ofDigits?_decimal,
    Option.bind_some]

theorem readInt?_decimal {n : Nat} (h : (n : Int) ≤ Int64.maxValue.toInt) :
    readInt? (Number.decimal n) = some (int (Int64.ofInt n)) := by
  have hmin : Int64.minValue.toInt ≤ (n : Int) := by
    have hneg := Int64.toInt_minValue_lt_zero
    omega
  rw [readInt?_decimal_eq, Number.int64?_eq_some hmin h, Option.map_some]

theorem readInt?_decimal_of_lt {n : Nat} (h : Int64.maxValue.toInt < n) :
    readInt? (Number.decimal n) = .none := by
  rw [readInt?_decimal_eq, Number.int64?_eq_none_of_lt h, Option.map_none]

/-- Digits without a point are a whole number. -/
theorem numeral_of_isDigits {cs : List Char} (h : Number.IsDigits cs) :
    numeral cs = literal "integer" (readInt? cs) cs := by
  rw [numeral, h.contains_point, if_neg Bool.false_ne_true]

theorem numeral_decimal {n : Nat} (h : (n : Int) ≤ Int64.maxValue.toInt) :
    numeral (Number.decimal n) = .constant (int (Int64.ofInt n)) := by
  rw [numeral_of_isDigits (Number.isDigits_decimal n), readInt?_decimal h, literal]

/-- The numeral of a number that does not fit in 64 bits is kept as its text. -/
theorem numeral_decimal_of_lt {n : Nat} (h : Int64.maxValue.toInt < n) :
    numeral (Number.decimal n) = .other "integer" (String.ofList (Number.decimal n)) := by
  rw [numeral_of_isDigits (Number.isDigits_decimal n), readInt?_decimal_of_lt h, literal]

/-- The least number has no value: the numeral of its magnitude does not fit in 64 bits. -/
theorem literal?_intExpr_minValue : (intExpr Int64.minValue).literal? = .none := by
  have hlt : Int64.maxValue.toInt < (Int64.minValue.toInt.natAbs : Int) := by decide
  have hneg : decide (Int64.minValue < 0) = true := by decide
  rw [intExpr, numeral_decimal_of_lt hlt, hneg, signed, if_pos rfl]
  rfl

/-- A number is read from its numeral and its sign, unless its opposite does not fit. -/
theorem literal?_intExpr {n : Int64} (h : n ≠ Int64.minValue) :
    (intExpr n).literal? = some (int n) := by
  have hne : n.toInt ≠ Int64.minValue.toInt := fun heq => h (Int64.toInt_inj.mp heq)
  have hfits : (n.toInt.natAbs : Int) ≤ Int64.maxValue.toInt := by
    have hmin := n.minValue_le_toInt
    have hmax := n.toInt_le
    rw [Int64.toInt_minValue] at hne hmin
    rw [Int64.toInt_maxValue] at hmax ⊢
    omega
  -- A negative number is the opposite of a numeral; the least one has no opposite in 64 bits.
  rw [intExpr, numeral_decimal hfits]
  by_cases hneg : n < 0
  · have habs : (n.toInt.natAbs : Int) = -n.toInt := by
      rw [Int64.lt_iff_toInt_lt, Int64.toInt_zero] at hneg
      omega
    have hopposite : -n ≠ Int64.minValue := by
      intro heq
      have hself : -(-n) = Int64.minValue := by
        rw [heq]
        rfl
      exact h (by rwa [Int64.neg_neg] at hself)
    rw [habs, Int64.ofInt_neg, Int64.ofInt_toInt, decide_eq_true hneg, signed, if_pos rfl,
      Expr.literal?, Expr.literal?]
    simp only [if_neg hopposite, Int64.neg_neg]
  · have habs : (n.toInt.natAbs : Int) = n.toInt := by
      rw [Int64.lt_iff_toInt_lt, Int64.toInt_zero] at hneg
      omega
    rw [habs, Int64.ofInt_toInt, decide_eq_false hneg, signed, if_neg (by simp), Expr.literal?]

/-! ### Values -/

/-- Values that are read from their tree without evaluating it: no float, no frozen set, no empty
set and not the least integer, since each of them is written as a call or with an opposite that does
not fit. -/
inductive Readable : Value → Prop
  | none : Readable none
  | bool (b : Bool) : Readable (bool b)
  | int {n : Int64} (hn : n ≠ Int64.minValue) : Readable (int n)
  | str (s : String) : Readable (str s)
  | bytes (bs : List UInt8) : Readable (bytes bs)
  | ellipsis : Readable ellipsis
  | tuple {vs : List Value} (hvs : ∀ v ∈ vs, Readable v) : Readable (tuple vs)
  | list {vs : List Value} (hvs : ∀ v ∈ vs, Readable v) : Readable (list vs)
  | dict {ps : List (Value × Value)} (hkeys : ∀ p ∈ ps, Readable p.1)
      (hvalues : ∀ p ∈ ps, Readable p.2) : Readable (dict ps)
  | set {vs : List Value} (hne : vs ≠ []) (hvs : ∀ v ∈ vs, Readable v) : Readable (set vs)
  | symbol (path : String) : Readable (symbol path)

theorem literals?_toExprs {vs : List Value} (h : ∀ v ∈ vs, v.toExpr.literal? = some v) :
    Expr.literals? (toExprs vs) = some vs := by
  induction vs with
  | nil => rfl
  | cons v vs ih =>
    rw [List.forall_mem_cons] at h
    rw [toExprs, Expr.literals?, h.1, ih h.2]

theorem literalPairs?_toPairs {ps : List (Value × Value)}
    (hkeys : ∀ p ∈ ps, p.1.toExpr.literal? = some p.1)
    (hvalues : ∀ p ∈ ps, p.2.toExpr.literal? = some p.2) :
    Expr.literalPairs? (toPairs ps) = some ps := by
  induction ps with
  | nil => rfl
  | cons p ps ih =>
    rw [List.forall_mem_cons] at hkeys hvalues
    rw [toPairs, Expr.literalPairs?, hkeys.1, hvalues.1, ih hkeys.2 hvalues.2]

/-- A readable value is the value of its tree. -/
theorem Readable.literal?_toExpr {v : Value} (h : v.Readable) : v.toExpr.literal? = some v := by
  -- Along the value: containers are read item by item.
  induction h with
  | none => rfl
  | bool b => rfl
  | int hn => rw [toExpr_int, literal?_intExpr hn]
  | str s => rfl
  | bytes bs => rfl
  | ellipsis => rfl
  | tuple hvs ih => rw [toExpr_tuple, Expr.literal?, literals?_toExprs ih, Option.map_some]
  | list hvs ih => rw [toExpr_list, Expr.literal?, literals?_toExprs ih, Option.map_some]
  | dict hkeys hvalues ihkeys ihvalues =>
    rw [toExpr_dict, Expr.literal?, literalPairs?_toPairs ihkeys ihvalues, Option.map_some]
  | @set vs hne hvs ih =>
    obtain ⟨v, vs, rfl⟩ := List.exists_cons_of_ne_nil hne
    rw [toExpr_set_cons, Expr.literal?, literals?_toExprs ih, Option.map_some]
  | symbol path => rw [toExpr_symbol, Expr.literal?_dotted]

end Value

end RecordForms
