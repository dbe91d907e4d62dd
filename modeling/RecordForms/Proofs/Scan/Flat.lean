import RecordForms.Proofs.Scan.Surroundings
import RecordForms.Proofs.TypeExpr.Flat

/-!
# The types that annotations are read as

Whatever an annotation is, the type that it is read as is flat: alternatives are joined where they
are read, and what is quoted is read by a reader of types, among names that denote themselves.  The
one thing that can go wrong is an empty subscript.  It is not refused, and then the type has an
empty subscript as well, which is not written as a type expression.

## Main definitions

* `Expr.isFilled`: the subscripts in an annotation have an argument

## Main results

* `Scan.isFlat_union_append`: two flat types are joined to a flat one
* `Scan.Place.isFlat_readType`: an annotation is read as a flat type, and as a filled one just if
  the annotation is filled
-/

namespace RecordForms

namespace Expr

mutual

/-- Whether the subscripts in an annotation have an argument. -/
def isFilled : Expr → Bool
  | subscript _ (tuple items) => !items.isEmpty && areFilled items
  | subscript _ slice => isFilled slice
  | bitOr left right => isFilled left && isFilled right
  | _ => true

/-- Whether the annotations of a list are filled. -/
def areFilled : List Expr → Bool
  | [] => true
  | e :: es => isFilled e && areFilled es

end

theorem areFilled_eq_all (es : List Expr) : areFilled es = es.all isFilled := by
  induction es with
  | nil => rfl
  | cons e es ih => rw [areFilled, ih, List.all_cons]

/-- A subscript is filled if there are expressions in it and they are filled, whether they are a
tuple or not. -/
theorem isFilled_subscript (value slice : Expr) :
    (subscript value slice).isFilled =
      (!slice.subscripts.isEmpty && slice.subscripts.all isFilled) := by
  rcases slice.subscripts_cases with ⟨items, rfl⟩ | ⟨hone, hne⟩
  · rw [isFilled, areFilled_eq_all]
    rfl
  · rw [isFilled, hone]
    · simp
    · exact hne

/-- No subscript is a literal. -/
theorem isFilled_of_literal? {e : Expr} {v : Value} (h : e.literal? = some v) : e.isFilled := by
  cases e with
  | subscript | bitOr => cases h
  | _ => rfl

end Expr

namespace Scan

/-! ### Alternatives -/

theorem all_isFilled_unionMembers (t : TypeExpr) :
    (unionMembers t).all TypeExpr.isFilled = t.isFilled := by
  cases t with
  | union members => rw [unionMembers, TypeExpr.isFilled_union]
  | _ => simp [unionMembers]

theorem isFlat_unionMembers {t : TypeExpr} (h : t.isFlat) :
    unionMembers t ≠ [] ∧ ∀ m ∈ unionMembers t, m.isUnion = false ∧ m.isFlat := by
  cases t with
  | union members =>
    rw [TypeExpr.isFlat_union] at h
    simp only [Bool.and_eq_true, decide_eq_true_eq, List.all_eq_true, Bool.not_eq_true'] at h
    obtain ⟨⟨hlength, hunion⟩, hflat⟩ := h
    exact ⟨List.ne_nil_of_length_pos (Nat.lt_of_succ_lt hlength),
      fun m hm => ⟨hunion m hm, hflat m hm⟩⟩
  | _ => simpa [unionMembers, TypeExpr.isUnion] using h

/-- Two flat types are joined to a flat one. -/
theorem isFlat_union_append {l r : TypeExpr} (hl : l.isFlat) (hr : r.isFlat) :
    (TypeExpr.union (unionMembers l ++ unionMembers r)).isFlat := by
  obtain ⟨hlne, hlmem⟩ := isFlat_unionMembers hl
  obtain ⟨hrne, hrmem⟩ := isFlat_unionMembers hr
  have hboth : ∀ m ∈ unionMembers l ++ unionMembers r, m.isUnion = false ∧ m.isFlat := by
    intro m hm
    rcases List.mem_append.mp hm with hm | hm
    · exact hlmem m hm
    · exact hrmem m hm
  have hlpos := List.length_pos_iff.mpr hlne
  have hrpos := List.length_pos_iff.mpr hrne
  rw [TypeExpr.isFlat_union]
  simp only [Bool.and_eq_true, decide_eq_true_eq, List.all_eq_true, Bool.not_eq_true',
    List.length_append]
  exact ⟨⟨by omega, fun m hm => (hboth m hm).1⟩, fun m hm => (hboth m hm).2⟩

/-! ### Annotations -/

/-- The arguments of a literal type are as many as there are expressions, none of them a
subscript. -/
theorem isEmpty_readLiteralItems {span : Span} {es : List Expr} {vs : List Value}
    (h : readLiteralItems span es = .ok vs) :
    vs.isEmpty = es.isEmpty ∧ es.all Expr.isFilled := by
  induction es generalizing vs with
  | nil =>
    cases h
    exact ⟨rfl, rfl⟩
  | cons e es ih =>
    rw [readLiteralItems] at h
    split at h
    · rename_i v hv
      obtain ⟨rest, hrest, h⟩ := Except.bind_eq_ok_iff.mp h
      rw [← Except.ok.inj h, List.all_cons, Expr.isFilled_of_literal? hv, (ih hrest).2]
      exact ⟨rfl, rfl⟩
    · cases h

namespace Place

variable {p : Place} {field : String} {span : Span}

/-- A subscript is read as a flat type if the types in it are read as flat ones. -/
theorem isFlat_readType_subscript {value slice : Expr} {t : TypeExpr}
    (hargs : ∀ ts, p.readTypes field span slice.subscripts = .ok ts →
      ts.isEmpty = slice.subscripts.isEmpty ∧ ts.all TypeExpr.isFlat ∧
        ts.all TypeExpr.isFilled = slice.subscripts.all Expr.isFilled)
    (hread : p.readType field span (.subscript value slice) = .ok t) :
    t.isFlat ∧ t.isFilled = (Expr.subscript value slice).isFilled := by
  rw [readType_subscript] at hread
  split at hread
  · cases hread
  · split at hread
    · obtain ⟨vs, hvs, rfl⟩ := Except.map_eq_ok_iff.mp hread
      obtain ⟨hempty, hfilled⟩ := isEmpty_readLiteralItems hvs
      refine ⟨rfl, ?_⟩
      rw [TypeExpr.isFilled, Expr.isFilled_subscript, hempty, hfilled, Bool.and_true]
    · obtain ⟨ts, hts, rfl⟩ := Except.map_eq_ok_iff.mp hread
      obtain ⟨hempty, hflat, hfilled⟩ := hargs ts hts
      refine ⟨by rwa [TypeExpr.isFlat_generic], ?_⟩
      rw [TypeExpr.isFilled_generic, Expr.isFilled_subscript, hempty, hfilled]

mutual

/-- An annotation is read as a flat type, and as a filled one just if the annotation is filled. -/
theorem isFlat_readType_of_selfBound (h : p.scope.SelfBound) {e : Expr} {t : TypeExpr}
    (hread : p.readType field span e = .ok t) : t.isFlat ∧ t.isFilled = e.isFilled := by
  cases e with
  | constant v =>
    cases v with
    | none =>
      cases hread
      exact ⟨rfl, rfl⟩
    | str reference =>
      rw [readType] at hread
      split at hread
      · rename_i t' hresolve
        obtain rfl : t' = t := Except.ok.inj hread
        have hregular := TypeExpr.regular_of_parse (h.parse_of_resolve hresolve)
        exact ⟨hregular.isFlat, hregular.isFilled⟩
      · cases hread
    | _ => cases hread
  | name id =>
    cases hread
    exact ⟨rfl, rfl⟩
  | attr value member =>
    rw [readType] at hread
    split at hread
    · cases hread
      exact ⟨rfl, rfl⟩
    · cases hread
  | subscript value slice =>
    have hargs : ∀ ts, p.readTypes field span slice.subscripts = .ok ts →
        ts.isEmpty = slice.subscripts.isEmpty ∧ ts.all TypeExpr.isFlat ∧
          ts.all TypeExpr.isFilled = slice.subscripts.all Expr.isFilled := by
      rcases slice.subscripts_cases with ⟨items, rfl⟩ | ⟨hone, -⟩
      · intro ts hts
        have hitems : p.readTypes field span items = .ok ts := hts
        obtain ⟨hempty, hflat, hfilled⟩ := isFlat_readTypes h hitems
        exact ⟨hempty, hflat, hfilled⟩
      · rw [hone]
        intro ts hts
        rw [readTypes] at hts
        obtain ⟨t', ht', hts⟩ := Except.bind_eq_ok_iff.mp hts
        obtain ⟨hflat, hfilled⟩ := isFlat_readType_of_selfBound h ht'
        cases hts
        simp [hflat, hfilled]
    exact isFlat_readType_subscript hargs hread
  | bitOr left right =>
    rw [readType] at hread
    obtain ⟨l, hl, hread⟩ := Except.bind_eq_ok_iff.mp hread
    obtain ⟨r, hr, hread⟩ := Except.bind_eq_ok_iff.mp hread
    obtain ⟨hlflat, hlfilled⟩ := isFlat_readType_of_selfBound h hl
    obtain ⟨hrflat, hrfilled⟩ := isFlat_readType_of_selfBound h hr
    rw [← Except.ok.inj hread]
    refine ⟨isFlat_union_append hlflat hrflat, ?_⟩
    rw [TypeExpr.isFilled_union, List.all_append, all_isFilled_unionMembers,
      all_isFilled_unionMembers, hlfilled, hrfilled, Expr.isFilled]
  | _ => cases hread

theorem isFlat_readTypes (h : p.scope.SelfBound) {es : List Expr} {ts : List TypeExpr}
    (hread : p.readTypes field span es = .ok ts) :
    ts.isEmpty = es.isEmpty ∧ ts.all TypeExpr.isFlat ∧
      ts.all TypeExpr.isFilled = es.all Expr.isFilled := by
  match es with
  | [] =>
    cases hread
    exact ⟨rfl, rfl, rfl⟩
  | e :: es =>
    rw [readTypes] at hread
    obtain ⟨t, ht, hread⟩ := Except.bind_eq_ok_iff.mp hread
    obtain ⟨rest, hrest, hread⟩ := Except.bind_eq_ok_iff.mp hread
    obtain ⟨hflat, hfilled⟩ := isFlat_readType_of_selfBound h ht
    obtain ⟨-, hrestFlat, hrestFilled⟩ := isFlat_readTypes h hrest
    rw [← Except.ok.inj hread, List.all_cons, List.all_cons, List.all_cons, hflat, hfilled,
      hrestFlat, hrestFilled]
    exact ⟨rfl, rfl, rfl⟩

end

/-- **The type that an annotation is read as is flat** in every source file: its unions have two
members or more, none of which is a union.  Its subscripts have an argument just if those of the
annotation do. -/
theorem isFlat_readType {body : List Stmt} (hscope : p.scope = namespaceOf body) {e : Expr}
    {t : TypeExpr} (hread : p.readType field span e = .ok t) :
    t.isFlat ∧ t.isFilled = e.isFilled :=
  isFlat_readType_of_selfBound (hscope ▸ selfBound_namespaceOf body) hread

/-- A dataclass in a source file that imports nothing. -/
def barePlace : Place where
  framework := .dataclasses
  record := "Shape"
  scope := namespaceOf []

/-- The annotation `dict[str, "list[int] | None"] | None`. -/
def weights : Expr :=
  .bitOr (.subscript (.name "dict") (.tuple [.name "str", .constant (.str "list[int] | None")]))
    (.constant .none)

theorem isFlat_readType_weights : barePlace.scope = namespaceOf [] ∧
    ∃ t, barePlace.readType "weights" ⟨3, 4⟩ weights = .ok t ∧ t.isFlat ∧ t.isFilled := by
  have hsome : (barePlace.readType "weights" ⟨3, 4⟩ weights).toOption.isSome := by decide +kernel
  obtain ⟨t, hread⟩ := Except.exists_eq_ok hsome
  obtain ⟨hflat, hfilled⟩ := isFlat_readType rfl hread
  exact ⟨rfl, t, hread, hflat, hfilled.trans rfl⟩

/-- The annotation `tuple[()]`, the type of the empty tuple, is read as a type that is written as
`tuple[]`, which spells no type. -/
theorem isFilled_readType_emptyTuple :
    barePlace.readType "origin" ⟨3, 4⟩ (.subscript (.name "tuple") (.tuple [])) =
        .ok (.generic "tuple" []) ∧
      (TypeExpr.generic "tuple" []).isFilled = false ∧
      (TypeExpr.generic "tuple" []).text = "tuple[]" ∧
      TypeExpr.parse "tuple[]" = .error ⟨6, .name⟩ := by
  exact ⟨rfl, rfl, by decide +kernel, by decide +kernel⟩

end Place

end Scan

end RecordForms
