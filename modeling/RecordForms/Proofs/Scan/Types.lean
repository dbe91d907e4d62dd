import RecordForms.Proofs.Except
import RecordForms.Proofs.Tree.Literal
import RecordForms.Proofs.TypeExpr.Regular

/-!
# Reading the tree of a type

The tree that is written for a regular type is read as the type, in whatever record and namespace it
stands.  Alternatives are nested to the left, and are flat again once they are read.

## Main definitions

* `TypeExpr.ReadableArgs`: the arguments of a literal type that are read from their trees

## Main results

* `Expr.headName?_toExpr`: the tree of a regular type begins with the name that the type begins with
* `Scan.Place.readType_subscript`: a subscript is read from the expressions in it
* `Scan.Place.readType_toExpr`: the tree of a regular type is read as the type
-/

namespace RecordForms

/-- Arguments of a literal type that are read from their trees.  One tuple is written like several
arguments, and is not among them. -/
structure TypeExpr.ReadableArgs (vs : List Value) : Prop where
  readable : ∀ v ∈ vs, v.Readable
  notTuple : ∀ items, vs ≠ [.tuple items]

namespace Expr

theorem ne_tuple_dotted (path : String) (items : List Expr) : dotted path ≠ tuple items := by
  intro h
  have hname := dottedName?_dotted path
  rw [h] at hname
  cases hname

@[simp] theorem headName?_dotted (path : String) : (dotted path).headName? = some path := by
  have hname := dottedName?_dotted path
  rcases dotted_cases path with h | ⟨value, member, h⟩
  · rw [h] at hname ⊢
    exact hname
  · rw [h] at hname ⊢
    exact hname

/-- The expressions in a subscript are those of a tuple, or one that is no tuple. -/
theorem subscripts_cases (e : Expr) :
    (∃ items, e = tuple items) ∨ e.subscripts = [e] ∧ ∀ items, e ≠ tuple items := by
  cases e with
  | tuple items => exact Or.inl ⟨items, rfl⟩
  | _ => exact Or.inr ⟨rfl, by simp⟩

/-- Expressions in square brackets are found there, unless one tuple is taken for several. -/
theorem subscripts_ofSubscripts {es : List Expr} (h : ∀ items, es ≠ [tuple items]) :
    (ofSubscripts es).subscripts = es := by
  match es with
  | [] => rfl
  | [e] =>
    rw [ofSubscripts]
    rcases e.subscripts_cases with ⟨items, rfl⟩ | ⟨hone, -⟩
    · exact absurd rfl (h items)
    · exact hone
  | _ :: _ :: _ => rfl

/-- Alternatives from left to right are two alternatives with a bar between them. -/
theorem exists_ofAlternatives {es : List Expr} (h : 2 ≤ es.length) :
    ∃ left right, ofAlternatives es = bitOr left right := by
  match es, h with
  | e :: e' :: es, _ =>
    -- what is folded over two alternatives stays an operation, however many follow
    have hfold : ∀ (es : List Expr) (left right : Expr), ∃ left' right',
        es.foldl bitOr (bitOr left right) = bitOr left' right' := by
      intro es
      induction es with
      | nil => exact fun left right => ⟨left, right, rfl⟩
      | cons e es ih => exact fun left right => ih (bitOr left right) e
    exact hfold es e e'

end Expr

namespace TypeExpr.Regular

variable {isName : String → Prop} {args : List Value → Prop} {t : TypeExpr}

theorem ne_tuple_toExpr (h : t.Regular isName args) (items : List Expr) :
    t.toExpr ≠ .tuple items := by
  cases h with
  | name =>
    rw [toExpr]
    exact Expr.ne_tuple_dotted _ items
  | generic => simp [toExpr]
  | @union ts hlength =>
    obtain ⟨left, right, hbar⟩ :=
      Expr.exists_ofAlternatives (show 2 ≤ (ts.map toExpr).length by simpa using hlength)
    rw [toExpr, toExprs_eq_map, hbar]
    simp
  | noneType => simp [toExpr]
  | literal => simp [toExpr]

/-- The tree of a regular type begins with the name that the type begins with. -/
theorem headName?_toExpr (h : t.Regular isName args) : t.toExpr.headName? = t.head? := by
  cases h with
  | name => rw [toExpr, head?, Expr.headName?_dotted]
  | generic => exact Expr.dottedName?_dotted _
  | @union ts hlength =>
    obtain ⟨left, right, hbar⟩ :=
      Expr.exists_ofAlternatives (show 2 ≤ (ts.map toExpr).length by simpa using hlength)
    rw [toExpr, toExprs_eq_map, hbar]
    rfl
  | noneType => rfl
  | literal => exact Expr.dottedName?_dotted _

end TypeExpr.Regular

namespace Scan

theorem readLiteralItems_map {vs : List Value} (h : ∀ v ∈ vs, v.Readable) (span : Span) :
    readLiteralItems span (vs.map Value.toExpr) = .ok vs := by
  induction vs with
  | nil => rfl
  | cons v vs ih =>
    rw [List.forall_mem_cons] at h
    rw [List.map_cons, readLiteralItems, h.1.literal?_toExpr]
    simp only [ih h.2, Except.ok_bind]

namespace Place

variable {p : Place} {field : String} {span : Span}

theorem readTypes_map {ts : List TypeExpr}
    (h : ∀ t ∈ ts, p.readType field span t.toExpr = .ok t) :
    p.readTypes field span (ts.map TypeExpr.toExpr) = .ok ts := by
  induction ts with
  | nil => rfl
  | cons t ts ih =>
    rw [List.forall_mem_cons] at h
    rw [List.map_cons, readTypes, h.1, Except.ok_bind, ih h.2, Except.ok_bind]

/-- A chain of attributes is read as its dotted name. -/
theorem readType_of_dottedName? {e : Expr} {path : String} (h : e.dottedName? = some path) :
    p.readType field span e = .ok (.name path) := by
  cases e with
  | name id =>
    obtain rfl : id = path := Option.some.inj h
    rw [readType]
  | attr value member => simp only [readType, h]
  | _ => cases h

/-- A subscript is read from the expressions in it, whether they are a tuple or not. -/
theorem readType_subscript (value slice : Expr) :
    p.readType field span (.subscript value slice) =
      match value.dottedName? with
      | none => .error (.expr value span .subscriptNotName)
      | some origin =>
        if isLiteralOrigin origin then
          (readLiteralItems span slice.subscripts).map (.literal origin)
        else (p.readTypes field span slice.subscripts).map (.generic origin) := by
  rcases slice.subscripts_cases with ⟨items, rfl⟩ | ⟨hone, hne⟩
  · rw [readType, Expr.subscripts]
    cases value.dottedName? with
    | none => rfl
    | some origin => rfl
  · rw [readType, hone, readTypes, readTypes]
    · cases value.dottedName? with
      | none => rfl
      | some origin =>
        dsimp only
        split
        · rfl
        · -- the only argument is read by itself
          cases p.readType field span slice with
          | ok t => rfl
          | error e => rfl
    · exact hne

/-- A subscript of a name that takes values is read as its values. -/
theorem readType_of_isLiteralOrigin {value slice : Expr} {origin : String} {vs : List Value}
    (horigin : value.dottedName? = some origin) (hliteral : isLiteralOrigin origin)
    (hargs : readLiteralItems span slice.subscripts = .ok vs) :
    p.readType field span (.subscript value slice) = .ok (.literal origin vs) := by
  rw [readType_subscript, horigin, hargs]
  exact if_pos hliteral

/-- A subscript of any other name is read as its types. -/
theorem readType_of_isLiteralOrigin_eq_false {value slice : Expr} {origin : String}
    {ts : List TypeExpr} (horigin : value.dottedName? = some origin)
    (hliteral : isLiteralOrigin origin = false)
    (hargs : p.readTypes field span slice.subscripts = .ok ts) :
    p.readType field span (.subscript value slice) = .ok (.generic origin ts) := by
  rw [readType_subscript, horigin, hargs]
  exact if_neg (Bool.eq_false_iff.mp hliteral)

/-- A subscript with several expressions is a tuple of them, and one with one expression is not a
tuple, so the two are told apart. -/
theorem readType_generic {origin : String} {ts : List TypeExpr}
    (hliteral : isLiteralOrigin origin = false)
    (htuple : ∀ t ∈ ts, ∀ items, t.toExpr ≠ .tuple items)
    (hts : ∀ t ∈ ts, p.readType field span t.toExpr = .ok t) :
    p.readType field span (TypeExpr.generic origin ts).toExpr = .ok (.generic origin ts) := by
  have hsubscripts : (Expr.ofSubscripts (ts.map TypeExpr.toExpr)).subscripts =
      ts.map TypeExpr.toExpr := by
    refine Expr.subscripts_ofSubscripts fun items heq => ?_
    obtain ⟨t, rfl, ht⟩ := List.map_eq_singleton_iff.mp heq
    exact htuple t List.mem_cons_self items ht
  rw [TypeExpr.toExpr, TypeExpr.toExprs_eq_map]
  refine readType_of_isLiteralOrigin_eq_false (Expr.dottedName?_dotted origin) hliteral ?_
  rw [hsubscripts, readTypes_map hts]

theorem readType_literal {origin : String} {vs : List Value} (hliteral : isLiteralOrigin origin)
    (hvs : TypeExpr.ReadableArgs vs) :
    p.readType field span (TypeExpr.literal origin vs).toExpr = .ok (.literal origin vs) := by
  have hsubscripts : (Expr.ofSubscripts (vs.map Value.toExpr)).subscripts =
      vs.map Value.toExpr := by
    refine Expr.subscripts_ofSubscripts fun items heq => ?_
    -- a value whose tree is a tuple is a tuple itself
    obtain ⟨v, rfl, hv⟩ := List.map_eq_singleton_iff.mp heq
    have hvalue := (hvs.readable v List.mem_cons_self).literal?_toExpr
    rw [hv, Expr.literal?] at hvalue
    obtain ⟨values, -, rfl⟩ := Option.map_eq_some_iff.mp hvalue
    exact hvs.notTuple values rfl
  rw [TypeExpr.toExpr]
  refine readType_of_isLiteralOrigin (Expr.dottedName?_dotted origin) hliteral ?_
  rw [hsubscripts, readLiteralItems_map hvs.readable]

theorem unionMembers_of_isUnion {t : TypeExpr} (h : t.isUnion = false) : unionMembers t = [t] := by
  cases t with
  | union => cases h
  | _ => rfl

/-- Generalization of `readType_union` over what has been read already, so that the induction on the
alternatives goes through. -/
theorem readType_foldl_bitOr {e : Expr} {first : TypeExpr} {ts : List TypeExpr} (hne : ts ≠ [])
    (hfirst : p.readType field span e = .ok first) (hunion : ∀ t ∈ ts, t.isUnion = false)
    (hts : ∀ t ∈ ts, p.readType field span t.toExpr = .ok t) :
    p.readType field span ((ts.map TypeExpr.toExpr).foldl .bitOr e) =
      .ok (.union (unionMembers first ++ ts)) := by
  induction ts generalizing e first with
  | nil => exact absurd rfl hne
  | cons t ts ih =>
    rw [List.forall_mem_cons] at hunion hts
    have hbar : p.readType field span (.bitOr e t.toExpr) =
        .ok (.union (unionMembers first ++ [t])) := by
      simp only [readType, hfirst, hts.1, Except.ok_bind, unionMembers_of_isUnion hunion.1]
    -- what has been read is a union from here on, whose members go before the rest
    cases ts with
    | nil => exact hbar
    | cons t' ts =>
      rw [List.map_cons, List.foldl_cons, ih (List.cons_ne_nil t' ts) hbar hunion.2 hts.2,
        unionMembers, List.append_assoc, List.singleton_append]

theorem readType_union {ts : List TypeExpr} (hlength : 2 ≤ ts.length)
    (hunion : ∀ t ∈ ts, t.isUnion = false)
    (hts : ∀ t ∈ ts, p.readType field span t.toExpr = .ok t) :
    p.readType field span (TypeExpr.union ts).toExpr = .ok (.union ts) := by
  match ts, hlength with
  | t :: t' :: ts, _ =>
    rw [List.forall_mem_cons] at hunion hts
    rw [TypeExpr.toExpr, TypeExpr.toExprs_eq_map, List.map_cons, Expr.ofAlternatives,
      readType_foldl_bitOr (List.cons_ne_nil t' ts) hts.1 hunion.2 hts.2,
      unionMembers_of_isUnion hunion.1, List.singleton_append]

/-- The tree of a regular type is read as the type. -/
theorem readType_toExpr {isName : String → Prop} {t : TypeExpr}
    (h : t.Regular isName TypeExpr.ReadableArgs) :
    p.readType field span t.toExpr = .ok t := by
  induction h with
  | name => rw [TypeExpr.toExpr, readType_of_dottedName? (Expr.dottedName?_dotted _)]
  | generic horigin hliteral hne hts ih =>
    exact readType_generic hliteral (fun t ht => (hts t ht).ne_tuple_toExpr) ih
  | union hlength hunion hts ih => exact readType_union hlength hunion ih
  | noneType => rw [TypeExpr.toExpr, readType]
  | literal horigin hliteral hne hvs => exact readType_literal hliteral hvs

end Place

end Scan

end RecordForms
