import RecordForms.Proofs.Scan.Types
import RecordForms.Proofs.Scan.Unit
import RecordForms.Proofs.TypeExpr.Escapes
import RecordForms.Tree.Printer

/-!
# Quoted annotations

An annotation is read from its tree, and in quotes from its text.  The two readers are compared on
the annotations that are built of names, subscripts, alternatives, `None`, and constants in the
subscript of a literal type: the tree is always read, and the text is read as the same type exactly
if nothing in it is escaped and its names are made of letters, digits and underscores.

## Main definitions

* `Expr.IsConstant`: constants, and integers after a minus
* `Expr.IsAnnotation isName e`: `e` is such an annotation, and its names satisfy `isName`

## Main results

* `Expr.IsAnnotation.exists_type`: an annotation is read as a regular type, which is written as the
  annotation is
* `Scan.Place.readType_quoted`: when a quoted annotation is the type that it is without quotes
-/

namespace RecordForms

open RecordForms.Text

namespace Expr

/-! ### The text of a tree -/

theorem itemChars_eq_map (es : List Expr) : itemChars es = es.map chars := by
  induction es with
  | nil => rfl
  | cons e es ih =>
    have hcons : itemChars (e :: es) = e.chars :: itemChars es := rfl
    rw [hcons, ih, List.map_cons]

theorem chars_bitOr (left right : Expr) :
    (bitOr left right).chars = left.chars ++ " | ".toList ++ right.chars := rfl

theorem chars_subscript (value : Expr) {slice : Expr} (h : slice.subscripts ≠ []) :
    (subscript value slice).chars =
      value.chars ++ '[' :: Value.commaSeparated (slice.subscripts.map chars) ++ [']'] := by
  rcases slice.subscripts_cases with ⟨items, rfl⟩ | ⟨hone, hne⟩
  · obtain ⟨item, items, rfl⟩ := List.exists_cons_of_ne_nil h
    rw [← itemChars_eq_map]
    rfl
  · have hchars : (subscript value slice).chars = value.chars ++ '[' :: slice.chars ++ [']'] := by
      cases slice with
      | tuple items => exact absurd rfl (hne items)
      | _ => rfl
    rw [hchars, hone]
    simp [Value.commaSeparated]

/-- A chain of attributes is written as its dotted name. -/
theorem chars_of_dottedName? {e : Expr} {path : String} (h : e.dottedName? = some path) :
    e.chars = path.toList := by
  match e with
  | name id =>
    obtain rfl : id = path := Option.some.inj h
    rfl
  | attr value member =>
    rw [dottedName?] at h
    obtain ⟨head, hhead, rfl⟩ := Option.map_eq_some_iff.mp h
    have hchars : (attr value member).chars = value.chars ++ '.' :: member.toList := rfl
    rw [hchars, chars_of_dottedName? hhead]
    simp
  | call .. | constant _ | subscript .. | tuple _ | list _ | dict _ | set _ | bitOr .. | unary ..
  | other .. => cases h

/-! ### Constants -/

/-- Constants, and integers after a minus. -/
inductive IsConstant : Expr → Prop
  | constant {v : Value} (hv : v.isConstant) : IsConstant (constant v)
  | negative {n : Int64} (hn : 0 < n) : IsConstant (unary .neg (constant (.int n)))

theorem decimalInt_neg {n : Int64} (h : 0 < n) :
    Number.decimalInt (-n).toInt = '-' :: Number.decimalInt n.toInt := by
  rw [Int64.lt_iff_toInt_lt, Int64.toInt_zero] at h
  have hneg : (-n).toInt = -n.toInt := by
    have hmax := n.toInt_lt
    rw [Int64.toInt_neg, Int.bmod_eq_of_le (by omega) (by omega)]
  obtain ⟨k, hk⟩ : ∃ k : Nat, n.toInt = k + 1 := ⟨n.toInt.toNat - 1, by omega⟩
  rw [hneg, hk]
  rfl

/-- The value of a constant is written as the constant is. -/
theorem IsConstant.exists_value {e : Expr} (h : e.IsConstant) :
    ∃ v, e.literal? = some v ∧ v.isConstant ∧ e.chars = v.chars := by
  cases h with
  | @constant v hv => exact ⟨v, rfl, hv, rfl⟩
  | @negative n hn =>
    have hmin : n ≠ Int64.minValue := by
      rintro rfl
      exact absurd hn (by decide)
    refine ⟨.int (-n), ?_, rfl, ?_⟩
    · simp only [literal?, if_neg hmin]
    · have hchars : (unary .neg (.constant (.int n))).chars =
          '-' :: Number.decimalInt n.toInt := rfl
      rw [hchars, Value.chars_int, decimalInt_neg hn]

theorem exists_values {es : List Expr} (h : ∀ e ∈ es, e.IsConstant) (span : Span) :
    ∃ vs, Scan.readLiteralItems span es = .ok vs ∧ TypeExpr.ConstantArgs vs ∧
      es.map chars = vs.map Value.chars := by
  induction es with
  | nil => exact ⟨[], rfl, by simp [TypeExpr.ConstantArgs], rfl⟩
  | cons e es ih =>
    rw [List.forall_mem_cons] at h
    obtain ⟨v, hv, hconst, hchars⟩ := h.1.exists_value
    obtain ⟨vs, hread, hvs, hmap⟩ := ih h.2
    refine ⟨v :: vs, ?_, List.forall_mem_cons.mpr ⟨hconst, hvs⟩, ?_⟩
    · rw [Scan.readLiteralItems]
      simp only [hv, hread, Except.ok_bind]
    · rw [List.map_cons, List.map_cons, hchars, hmap]

/-! ### Annotations -/

/-- Annotations of names, subscripts, alternatives and `None`, with constants in the subscripts of
literal types, where `isName` holds of the names. -/
inductive IsAnnotation (isName : String → Prop) : Expr → Prop
  | noneType : IsAnnotation isName (constant .none)
  | name {e : Expr} {path : String} (hpath : e.dottedName? = some path) (hname : isName path) :
      IsAnnotation isName e
  | generic {value slice : Expr} {origin : String} (horigin : value.dottedName? = some origin)
      (hname : isName origin) (hliteral : isLiteralOrigin origin = false)
      (hne : slice.subscripts ≠ []) (hargs : ∀ e ∈ slice.subscripts, IsAnnotation isName e) :
      IsAnnotation isName (subscript value slice)
  | literal {value slice : Expr} {origin : String} (horigin : value.dottedName? = some origin)
      (hname : isName origin) (hliteral : isLiteralOrigin origin)
      (hne : slice.subscripts ≠ []) (hargs : ∀ e ∈ slice.subscripts, e.IsConstant) :
      IsAnnotation isName (subscript value slice)
  | bitOr {left right : Expr} (hleft : IsAnnotation isName left)
      (hright : IsAnnotation isName right) : IsAnnotation isName (bitOr left right)

end Expr

namespace Scan

/-! ### Unions -/

variable {isName : String → Prop} {args : List Value → Prop} {t l r : TypeExpr}

/-- A regular type is at least one member of a union, and the members that it is are regular and no
unions. -/
theorem regular_unionMembers (h : t.Regular isName args) :
    unionMembers t ≠ [] ∧ ∀ m ∈ unionMembers t, m.isUnion = false ∧ m.Regular isName args := by
  cases h with
  | union hlength hunion hts =>
    exact ⟨List.ne_nil_of_length_pos (Nat.lt_of_succ_lt hlength),
      fun m hm => ⟨hunion m hm, hts m hm⟩⟩
  | name hpath => simpa [unionMembers, TypeExpr.isUnion] using TypeExpr.Regular.name hpath
  | generic horigin hliteral hne hts =>
    simpa [unionMembers, TypeExpr.isUnion] using TypeExpr.Regular.generic horigin hliteral hne hts
  | noneType => simpa [unionMembers, TypeExpr.isUnion] using TypeExpr.Regular.noneType
  | literal horigin hliteral hne hvs =>
    simpa [unionMembers, TypeExpr.isUnion] using
      TypeExpr.Regular.literal horigin hliteral hne hvs

/-- Two regular types make a regular union, in which no union is a member. -/
theorem regular_union (hl : l.Regular isName args) (hr : r.Regular isName args) :
    (TypeExpr.union (unionMembers l ++ unionMembers r)).Regular isName args := by
  obtain ⟨hlne, hlmem⟩ := regular_unionMembers hl
  obtain ⟨hrne, hrmem⟩ := regular_unionMembers hr
  have hboth : ∀ m ∈ unionMembers l ++ unionMembers r,
      m.isUnion = false ∧ m.Regular isName args := by
    intro m hm
    rcases List.mem_append.mp hm with hm | hm
    · exact hlmem m hm
    · exact hrmem m hm
  have hlpos := List.length_pos_iff.mpr hlne
  have hrpos := List.length_pos_iff.mpr hrne
  exact .union (by rw [List.length_append]; omega) (fun m hm => (hboth m hm).1)
    fun m hm => (hboth m hm).2

/-- A type is written as its members in a union are. -/
theorem chars_unionMembers (t : TypeExpr) :
    t.chars = List.intercalate " | ".toList ((unionMembers t).map TypeExpr.chars) := by
  cases t with
  | union members => rw [TypeExpr.chars, TypeExpr.itemChars_eq_map, unionMembers]
  | _ => simp [unionMembers, List.intercalate]

theorem chars_union_append (hl : l.Regular isName args) (hr : r.Regular isName args) :
    (TypeExpr.union (unionMembers l ++ unionMembers r)).chars =
      l.chars ++ " | ".toList ++ r.chars := by
  -- the bar between the two sides stands before the first member of the right one
  obtain ⟨m, ms, hms⟩ := List.exists_cons_of_ne_nil (regular_unionMembers hl).1
  obtain ⟨n, ns, hns⟩ := List.exists_cons_of_ne_nil (regular_unionMembers hr).1
  rw [chars_unionMembers l, chars_unionMembers r, TypeExpr.chars, TypeExpr.itemChars_eq_map,
    hms, hns]
  simp [TypeExpr.intercalate_cons]

end Scan

namespace Expr

open Scan

variable {isName : String → Prop} {p : Place} {field : String} {span : Span}

/-- Expressions that are read one by one are read as a list of types, which are written as they
are. -/
theorem exists_types {es : List Expr}
    (h : ∀ e ∈ es, ∃ t, p.readType field span e = .ok t ∧
      t.Regular isName TypeExpr.ConstantArgs ∧ e.chars = t.chars) :
    ∃ ts, p.readTypes field span es = .ok ts ∧
      (∀ t ∈ ts, t.Regular isName TypeExpr.ConstantArgs) ∧
      es.map chars = ts.map TypeExpr.chars := by
  induction es with
  | nil => exact ⟨[], by rw [Place.readTypes], by simp, rfl⟩
  | cons e es ih =>
    rw [List.forall_mem_cons] at h
    obtain ⟨t, ht, hregular, hchars⟩ := h.1
    obtain ⟨ts, hts, hall, hmap⟩ := ih h.2
    refine ⟨t :: ts, ?_, List.forall_mem_cons.mpr ⟨hregular, hall⟩, ?_⟩
    · rw [Place.readTypes, ht, Except.ok_bind, hts, Except.ok_bind]
    · rw [List.map_cons, List.map_cons, hchars, hmap]

/-- An annotation is read as a regular type, which is written as the annotation is. -/
theorem IsAnnotation.exists_type {e : Expr} (h : e.IsAnnotation isName) :
    ∃ t, p.readType field span e = .ok t ∧ t.Regular isName TypeExpr.ConstantArgs ∧
      e.chars = t.chars := by
  -- Along the annotation: a subscript is read and written argument by argument, and what is read on
  -- the two sides of a bar is joined by the bar that the union is written with.
  induction h with
  | noneType => exact ⟨.noneType, by rw [Place.readType], .noneType, rfl⟩
  | @name e path hpath hname =>
    refine ⟨.name path, Place.readType_of_dottedName? hpath, .name hname, ?_⟩
    rw [chars_of_dottedName? hpath, TypeExpr.chars]
  | @generic value slice origin horigin hname hliteral hne _ ih =>
    obtain ⟨ts, hread, hall, hmap⟩ := exists_types ih
    have hts : ts ≠ [] := by
      rintro rfl
      exact hne (List.map_eq_nil_iff.mp hmap)
    refine ⟨.generic origin ts, Place.readType_of_isLiteralOrigin_eq_false horigin hliteral hread,
      .generic hname hliteral hts hall, ?_⟩
    rw [chars_subscript value hne, chars_of_dottedName? horigin, hmap, TypeExpr.chars,
      TypeExpr.itemChars_eq_map]
  | @literal value slice origin horigin hname hliteral hne hargs =>
    obtain ⟨vs, hread, hall, hmap⟩ := exists_values hargs span
    have hvs : vs ≠ [] := by
      rintro rfl
      exact hne (List.map_eq_nil_iff.mp hmap)
    refine ⟨.literal origin vs, Place.readType_of_isLiteralOrigin horigin hliteral hread,
      .literal hname hliteral hvs hall, ?_⟩
    rw [chars_subscript value hne, chars_of_dottedName? horigin, hmap, TypeExpr.chars,
      Value.itemChars_eq_map]
  | bitOr _ _ ihleft ihright =>
    obtain ⟨l, hl, hlregular, hlchars⟩ := ihleft
    obtain ⟨r, hr, hrregular, hrchars⟩ := ihright
    refine ⟨.union (unionMembers l ++ unionMembers r), ?_, regular_union hlregular hrregular, ?_⟩
    · rw [Place.readType, hl, Except.ok_bind, hr, Except.ok_bind]
    · rw [chars_bitOr, chars_union_append hlregular hrregular, hlchars, hrchars]

end Expr

/-! ### The text of an annotation -/

namespace Namespace.SelfBound

/-- Where names denote themselves, a text denotes a type whose names are bound exactly if it spells
the type. -/
theorem resolve_eq_ok_iff {ns : Namespace} (h : ns.SelfBound) {isName : String → Prop}
    {args : List Value → Prop} {t : TypeExpr} (ht : t.Regular isName args)
    (hnames : ∀ path ∈ t.names, ns.Binds path) (reference : String) :
    ns.resolve reference = .ok t ↔ TypeExpr.parse reference = .ok t := by
  constructor
  · exact h.parse_of_resolve
  · intro hparse
    rw [resolve, hparse]
    exact substitute_eq_self ht fun path hpath => h.knows (hnames path hpath)

end Namespace.SelfBound

namespace Scan.Place

theorem readType_text_eq_ok_iff {p : Place} {field : String} {span : Span} {reference : String}
    {t : TypeExpr} : p.readType field span (.constant (.str reference)) = .ok t ↔
      p.scope.resolve reference = .ok t := by
  rw [readType]
  cases p.scope.resolve reference with
  | ok t' => simp
  | error e => simp

/-- **A quoted annotation is the type that it is without quotes** exactly if its names are made of
letters, digits and underscores, and its literal arguments are written without an escape. -/
theorem readType_quoted {p : Place} {body : List Stmt} (hscope : p.scope = namespaceOf body)
    {e : Expr} (he : e.IsAnnotation fun path => TypeExpr.IsSourceName path ∧ p.scope.Binds path)
    (field : String) (span : Span) :
    ∃ t, p.readType field span e = .ok t ∧
      (p.readType field span (.constant (.str e.text)) = .ok t ↔
        (∀ path ∈ t.names, TypeExpr.IsTypeName path) ∧ ∀ v ∈ t.values, v.isPlain) := by
  obtain ⟨t, hread, hregular, hchars⟩ := he.exists_type
  have hself : p.scope.SelfBound := hscope ▸ selfBound_namespaceOf body
  obtain ⟨hnames, hvalues⟩ := hregular.forall_names_values
  -- the quoted text is that of the type, so what is asked is when a type is what its text spells
  have htext : e.text = t.text := by rw [Expr.text, TypeExpr.text, hchars]
  have hsource : t.Regular TypeExpr.IsSourceName TypeExpr.ConstantArgs :=
    hregular.of_names_values (fun path hpath => (hnames path hpath).1) hvalues
  refine ⟨t, hread, ?_⟩
  rw [readType_text_eq_ok_iff,
    hself.resolve_eq_ok_iff hregular (fun path hpath => (hnames path hpath).2), htext,
    TypeExpr.parse_text_eq_ok_iff hsource]

/-- A source file that takes `Literal` from `typing`. -/
def typingUnit : List Stmt :=
  [.importFrom "typing" [⟨"Literal", none⟩] ⟨1, 0⟩]

/-- A dataclass in this file. -/
def typingPlace : Place where
  framework := .dataclasses
  record := "Row"
  scope := namespaceOf typingUnit

/-- The annotation `dict[str, Literal["it's", -1] | None]`. -/
def labels : Expr :=
  .subscript (.name "dict") (.tuple [.name "str",
    .bitOr (.subscript (.name "Literal")
      (.tuple [.constant (.str "it's"), .unary .neg (.constant (.int 1))])) (.constant .none)])

theorem readType_quoted_labels :
    typingPlace.scope = namespaceOf typingUnit ∧
    labels.IsAnnotation
      (fun path => TypeExpr.IsSourceName path ∧ typingPlace.scope.Binds path) ∧
    ∃ t, typingPlace.readType "labels" ⟨4, 4⟩ labels = .ok t ∧
      typingPlace.readType "labels" ⟨4, 4⟩ (.constant (.str labels.text)) = .ok t := by
  have hlabels : labels.IsAnnotation
      fun path => TypeExpr.IsSourceName path ∧ typingPlace.scope.Binds path := by
    refine .generic rfl (by decide +kernel) (by decide +kernel) (by simp [Expr.subscripts]) ?_
    simp only [Expr.subscripts, List.forall_mem_cons, List.not_mem_nil, false_imp_iff,
      implies_true, and_true]
    refine ⟨.name rfl (by decide +kernel), .bitOr ?_ .noneType⟩
    refine .literal rfl (by decide +kernel) (by decide +kernel) (by simp [Expr.subscripts]) ?_
    simp only [Expr.subscripts, List.forall_mem_cons, List.not_mem_nil, false_imp_iff,
      implies_true, and_true]
    exact ⟨.constant rfl, .negative (by decide)⟩
  have hread : typingPlace.readType "labels" ⟨4, 4⟩ labels =
      .ok (.generic "dict" [.name "str",
        .union [.literal "Literal" [.str "it's", .int (-1)], .noneType]]) := rfl
  obtain ⟨t, ht, hquoted⟩ := readType_quoted rfl hlabels "labels" ⟨4, 4⟩
  refine ⟨rfl, hlabels, t, ht, hquoted.mpr ?_⟩
  obtain rfl := Except.ok.inj (hread.symm.trans ht)
  decide +kernel

/-- The annotation `Literal["a\nb"]`, whose text is a line break between two letters. -/
def breaks : Expr :=
  .subscript (.name "Literal") (.constant (.str "a\nb"))

/-- In quotes the escape is kept as the two characters that it is written with. -/
theorem readType_quoted_breaks :
    breaks.IsAnnotation
      (fun path => TypeExpr.IsSourceName path ∧ typingPlace.scope.Binds path) ∧
    typingPlace.readType "sep" ⟨4, 4⟩ breaks = .ok (.literal "Literal" [.str "a\nb"]) ∧
    typingPlace.readType "sep" ⟨4, 4⟩ (.constant (.str breaks.text)) =
      .ok (.literal "Literal" [.str "a\\nb"]) := by
  refine ⟨?_, rfl, ?_⟩
  · refine .literal rfl (by decide +kernel) (by decide +kernel) (by simp [Expr.subscripts]) ?_
    simp only [Expr.subscripts, List.forall_mem_cons, List.not_mem_nil, false_imp_iff,
      implies_true, and_true]
    exact .constant rfl
  · rw [readType_text_eq_ok_iff]
    decide +kernel

end Scan.Place

end RecordForms
