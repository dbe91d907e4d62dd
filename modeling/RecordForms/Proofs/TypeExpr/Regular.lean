import RecordForms.Proofs.Text.Names
import RecordForms.TypeExpr.Basic

/-!
# Regular types

The types that can be told from their form.  Subscripts and unions are not empty, no union is a
member of another one, and values are the arguments of literal types alone; what the names and the
values may be is left open.

## Main definitions

* `TypeExpr.isUnion`, `TypeExpr.IsTypeName`: unions, and dotted names that are not `None`
* `TypeExpr.IsReadName`: the names that are read, which are less strict
* `TypeExpr.Regular isName args t`: `t` is regular, its names satisfy `isName`, and the arguments of
  its literal types satisfy `args`
* `TypeExpr.names`: the names that a type consists of
* `commaBefore`, `barBefore`: what is written after the first argument and the first alternative

## Main results

* `Regular.exists_cons`: the text of a regular type begins as a name does, if its names are names
-/

namespace RecordForms.TypeExpr

open RecordForms.Text

/-- Whether the type is a union. -/
def isUnion : TypeExpr → Bool
  | union _ => true
  | _ => false

/-- Dotted names other than the one that `None` is written as. -/
def IsTypeName (path : String) : Prop :=
  isDotted path.toList ∧ path ≠ "None"

instance (path : String) : Decidable (IsTypeName path) :=
  inferInstanceAs (Decidable (_ ∧ _))

/-- The same for names in which a segment after the first may begin with a digit. -/
def IsReadName (path : String) : Prop :=
  isReadName path.toList ∧ path ≠ "None"

theorem IsTypeName.isReadName {path : String} (h : IsTypeName path) : IsReadName path :=
  ⟨isReadName_of_isDotted h.1, h.2⟩

/-- Types that can be told from their form, where `isName` holds of their names and `args` of the
values of literal types. -/
inductive Regular (isName : String → Prop) (args : List Value → Prop) : TypeExpr → Prop
  | name {path : String} (hpath : isName path) : Regular isName args (name path)
  | generic {origin : String} {ts : List TypeExpr} (horigin : isName origin)
      (hliteral : isLiteralOrigin origin = false) (hne : ts ≠ [])
      (hts : ∀ t ∈ ts, Regular isName args t) : Regular isName args (generic origin ts)
  | union {ts : List TypeExpr} (hlength : 2 ≤ ts.length) (hunion : ∀ t ∈ ts, t.isUnion = false)
      (hts : ∀ t ∈ ts, Regular isName args t) : Regular isName args (union ts)
  | noneType : Regular isName args noneType
  | literal {origin : String} {vs : List Value} (horigin : isName origin)
      (hliteral : isLiteralOrigin origin) (hne : vs ≠ []) (hvs : args vs) :
      Regular isName args (literal origin vs)

mutual

/-- The names that a type consists of, in the order of its text. -/
def names : TypeExpr → List String
  | name path => [path]
  | generic origin args => origin :: itemNames args
  | union members => itemNames members
  | noneType => []
  | literal origin _ => [origin]

/-- The names that the types of a list consist of. -/
def itemNames : List TypeExpr → List String
  | [] => []
  | t :: ts => names t ++ itemNames ts

end

theorem itemNames_eq_flatMap (ts : List TypeExpr) : itemNames ts = ts.flatMap names := by
  induction ts with
  | nil => rfl
  | cons t ts ih => rw [itemNames, ih, List.flatMap_cons]

/-! ### Separators -/

/-- Texts with a comma and a blank before each. -/
def commaBefore (items : List (List Char)) : List Char :=
  items.flatMap fun item => ',' :: ' ' :: item

/-- Texts with a bar between blanks before each. -/
def barBefore (items : List (List Char)) : List Char :=
  items.flatMap fun item => ' ' :: '|' :: ' ' :: item

@[simp] theorem commaBefore_nil : commaBefore [] = [] := rfl

@[simp] theorem commaBefore_cons (item : List Char) (items : List (List Char)) :
    commaBefore (item :: items) = ',' :: ' ' :: (item ++ commaBefore items) := rfl

@[simp] theorem barBefore_nil : barBefore [] = [] := rfl

@[simp] theorem barBefore_cons (item : List Char) (items : List (List Char)) :
    barBefore (item :: items) = ' ' :: '|' :: ' ' :: (item ++ barBefore items) := rfl

theorem intercalate_cons (sep x : List Char) (xs : List (List Char)) :
    List.intercalate sep (x :: xs) = x ++ xs.flatMap (sep ++ ·) := by
  -- The separator goes with the item after it, so the first item is left alone.
  induction xs generalizing x with
  | nil => simp [List.intercalate]
  | cons y ys ih =>
    rw [List.intercalate_cons_cons, ih, List.flatMap_cons]
    simp only [List.append_assoc]

theorem commaSeparated_cons (x : List Char) (xs : List (List Char)) :
    Value.commaSeparated (x :: xs) = x ++ commaBefore xs := by
  simp [Value.commaSeparated, intercalate_cons, commaBefore]

theorem chars_generic (origin : String) (t : TypeExpr) (ts : List TypeExpr) :
    (generic origin (t :: ts)).chars =
      origin.toList ++ '[' :: (t.chars ++ (commaBefore (ts.map chars) ++ [']'])) := by
  simp [chars, itemChars_eq_map, commaSeparated_cons]

theorem chars_union (t : TypeExpr) (ts : List TypeExpr) :
    (union (t :: ts)).chars = t.chars ++ barBefore (ts.map chars) := by
  simp [chars, itemChars_eq_map, intercalate_cons, barBefore]

theorem chars_literal (origin : String) (v : Value) (vs : List Value) :
    (literal origin (v :: vs)).chars =
      origin.toList ++ '[' :: (v.chars ++ (commaBefore (vs.map Value.chars) ++ [']'])) := by
  simp [chars, Value.itemChars_eq_map, commaSeparated_cons]

theorem exists_cons_of_isTypeName {path : String} (h : IsTypeName path) (rest : List Char) :
    ∃ c tail, path.toList ++ rest = c :: tail ∧ isNameStart c := by
  obtain ⟨c, tail, hc, hstart, -⟩ := exists_cons_of_isDotted h.1
  exact ⟨c, tail ++ rest, by rw [hc, List.cons_append], hstart⟩

/-- The text of a regular type begins as a name does. -/
theorem Regular.exists_cons {args : List Value → Prop} {t : TypeExpr}
    (h : t.Regular IsTypeName args) : ∃ c tail, t.chars = c :: tail ∧ isNameStart c := by
  induction h with
  | name hpath =>
    rw [chars, ← List.append_nil (String.toList _)]
    exact exists_cons_of_isTypeName hpath []
  | generic horigin =>
    rw [chars, List.append_assoc]
    exact exists_cons_of_isTypeName horigin _
  | @union ts hlength _ _ ih =>
    -- a union begins as its first member does
    obtain ⟨t, ts, rfl⟩ := List.exists_cons_of_length_pos (Nat.lt_of_succ_lt hlength)
    obtain ⟨c, tail, hc, hstart⟩ := ih t List.mem_cons_self
    exact ⟨c, _, by rw [chars_union, hc, List.cons_append], hstart⟩
  | noneType => exact ⟨'N', _, rfl, by decide⟩
  | literal horigin =>
    rw [chars, List.append_assoc]
    exact exists_cons_of_isTypeName horigin _

end RecordForms.TypeExpr
