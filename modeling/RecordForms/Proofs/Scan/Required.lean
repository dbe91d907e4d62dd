import RecordForms.Proofs.Scan.Declarations
import RecordForms.Proofs.Scan.Quoted

/-!
# Keys that are marked as required

In a typed dict the annotation of a key may be a qualifier that makes the key required, with the
type of the key as its argument.  A qualifier is found at the head of an annotation whether the
annotation is quoted or not, but it is taken off only if the annotation is a subscript.  So a quoted
one is read as it stands: the key is required, and its type has the qualifier around it.

## Main definitions

* `Expr.unqualified`: an annotation without the qualifier that is subscripted in it

## Main results

* `Scan.Place.readField_of_isRequired`: what is read of a key that is marked as required
* `Scan.Place.readField_required`: the qualifier of a key is taken off a subscript, and left on a
  quoted text
-/

namespace RecordForms

open RecordForms.Text

namespace Expr

/-- An annotation without the qualifier that is subscripted in it. -/
def unqualified : Expr → Expr
  | subscript _ slice => slice
  | e => e

/-- A quoted subscript begins with the name that is subscripted. -/
theorem headName?_quoted {text : String} {head rest : List Char}
    (htext : text.toList = head ++ '[' :: rest) (hbracket : '[' ∉ head) (htrim : trim head = head)
    (hne : head ≠ []) : (constant (.str text)).headName? = some (String.ofList head) := by
  have htake : text.toList.takeWhile (· ≠ '[') = head := by
    have hall : ∀ c ∈ head, decide (c ≠ '[') = true := fun c hc =>
      decide_eq_true fun heq => hbracket (heq ▸ hc)
    rw [htext, List.takeWhile_append_of_pos hall, List.takeWhile_cons_of_neg (by simp),
      List.append_nil]
  rw [headName?]
  simp only [htake, htrim, List.isEmpty_iff, hne, if_false]

/-- No annotation is a tuple. -/
theorem IsAnnotation.subscripts {isName : String → Prop} {e : Expr} (h : e.IsAnnotation isName) :
    e.subscripts = [e] := by
  cases h with
  | name hpath =>
    cases e with
    | tuple items => cases hpath
    | _ => rfl
  | _ => rfl

end Expr

namespace Marker

/-- The qualifiers that make a key required are names that every reader reads, and stand in no other
table of qualifiers. -/
theorem isRequired_cases {name : String} (h : isRequired name) :
    isNonField name = false ∧ isNotRequired name = false ∧ isLiteralOrigin name = false ∧
      TypeExpr.IsTypeName name ∧ TypeExpr.IsSourceName name ∧
        '[' ∉ name.toList ∧ trim name.toList = name.toList ∧ name.toList ≠ [] := by
  rw [isRequired, List.contains_iff_mem] at h
  simp only [List.mem_cons, List.not_mem_nil, or_false] at h
  rcases h with rfl | rfl | rfl
  · decide +kernel
  · decide +kernel
  · decide +kernel

end Marker

namespace Scan.Place

variable {p : Place} {key : String} {span : Span} {e : Expr} {head : String}

theorem unqualified_of_isRequired (hhead : e.headName? = some head) (h : Marker.isRequired head) :
    p.unqualified key (some e) none span = .ok (some e.unqualified) := by
  obtain ⟨-, hnot, -⟩ := Marker.isRequired_cases h
  simp only [unqualified, Option.bind_some, hhead, Option.any_some, hnot, h, Bool.not_true,
    Bool.and_false, Bool.or_self, Bool.false_eq_true, if_false, if_true]
  cases e with
  | _ => rfl

/-- A key that is marked as required has the type that is left without the qualifier, and no
default, whether or not other keys are required. -/
theorem readField_of_isRequired (hf : p.framework = .typedDict) (hhead : e.headName? = some head)
    (h : Marker.isRequired head) : p.readField (.name key) (some e) none span =
      (p.readType key span e.unqualified).map fun t => some ⟨key, some t, .absent⟩ := by
  obtain ⟨hfield, -⟩ := Marker.isRequired_cases h
  have hnone : ((some e).bind Expr.headName?).any Marker.isNonField = false := by
    rw [Option.bind_some, hhead, Option.any_some, hfield]
  have hdefault : p.framework.readDefault p.record key p.absent = .ok .absent :=
    Framework.readDefault_absenceToken _ _ _
  rw [readField, hnone, if_neg Bool.false_ne_true, readNamed_eq, if_pos hf,
    unqualified_of_isRequired hhead h, Except.ok_bind, readAnnotation]
  cases p.readType key span e.unqualified with
  | error err => rfl
  | ok t =>
    have hvalue : p.readValue span none = .ok p.absent := rfl
    simp only [Option.any_none, Bool.false_eq_true, if_false, Except.map, Except.ok_bind, hvalue,
      hdefault]

/-- The text of a subscripted qualifier is read as the type that the whole text denotes. -/
theorem readField_quoted_eq_ok_iff (hf : p.framework = .typedDict) (h : Marker.isRequired head)
    {t t' : TypeExpr} :
    p.readField (.name key) (some (.constant (.str (TypeExpr.generic head [t]).text))) none span =
        .ok (some ⟨key, some t', .absent⟩) ↔
      p.scope.resolve (TypeExpr.generic head [t]).text = .ok t' := by
  obtain ⟨-, -, -, -, -, hbracket, htrim, hne⟩ := Marker.isRequired_cases h
  have htext : (TypeExpr.generic head [t]).text.toList =
      head.toList ++ '[' :: (t.chars ++ [']']) := by
    rw [TypeExpr.text, String.toList_ofList, TypeExpr.chars_generic]
    rfl
  have hhead : (Expr.constant (.str (TypeExpr.generic head [t]).text)).headName? = some head := by
    rw [Expr.headName?_quoted htext hbracket htrim hne, String.ofList_toList]
  have hwhole (text : String) : (Expr.constant (.str text)).unqualified = .constant (.str text) :=
    rfl
  rw [readField_of_isRequired hf hhead h, hwhole, Except.map_eq_ok_iff]
  simp [readType_text_eq_ok_iff]

/-- **The qualifier of a key is taken off a subscript, and left on a quoted text.**  A key whose
annotation is a subscripted qualifier has the type in the subscript.  In quotes the same annotation
never gives this type: it gives the type with the qualifier around it, provided that the text can be
read at all, which is so if it spells its names and its literal arguments as they are. -/
theorem readField_required {body : List Stmt} (hf : p.framework = .typedDict)
    (hscope : p.scope = namespaceOf body) {qualifier : Expr}
    (hname : qualifier.dottedName? = some head) (h : Marker.isRequired head)
    (hbinds : p.scope.Binds head) (key : String) (span : Span) :
    (∀ e, p.readField (.name key) (some (.subscript qualifier e)) none span =
        (p.readType key span e).map fun t => some ⟨key, some t, .absent⟩) ∧
      ∀ e, e.IsAnnotation (fun path => TypeExpr.IsSourceName path ∧ p.scope.Binds path) →
        ∃ t, p.readType key span e = .ok t ∧
          (p.readField (.name key) (some (.constant (.str (Expr.subscript qualifier e).text))) none
              span = .ok (some ⟨key, some (.generic head [t]), .absent⟩) ↔
            (∀ path ∈ t.names, TypeExpr.IsTypeName path) ∧ ∀ v ∈ t.values, v.isPlain) ∧
          p.readField (.name key) (some (.constant (.str (Expr.subscript qualifier e).text))) none
              span ≠ .ok (some ⟨key, some t, .absent⟩) := by
  obtain ⟨-, -, hliteral, htype, hsource, -⟩ := Marker.isRequired_cases h
  have hself : p.scope.SelfBound := hscope ▸ selfBound_namespaceOf body
  refine ⟨fun e => readField_of_isRequired (e := .subscript qualifier e) hf hname h,
    fun e he => ?_⟩
  obtain ⟨t, hread, hregular, hchars⟩ : ∃ t, p.readType key span e = .ok t ∧ _ := he.exists_type
  -- the annotation is written as the type with the qualifier around it, which is regular
  have htext : (Expr.subscript qualifier e).text = (TypeExpr.generic head [t]).text := by
    rw [Expr.text, TypeExpr.text, Expr.chars_subscript qualifier (by simp [he.subscripts]),
      Expr.chars_of_dottedName? hname, he.subscripts, TypeExpr.chars_generic, List.map_singleton,
      hchars]
    simp [Value.commaSeparated]
  have hwhole : (TypeExpr.generic head [t]).Regular
      (fun path => TypeExpr.IsSourceName path ∧ p.scope.Binds path) TypeExpr.ConstantArgs :=
    .generic ⟨hsource, hbinds⟩ hliteral (List.cons_ne_nil t []) (by simpa using hregular)
  obtain ⟨hnames, hvalues⟩ := hwhole.forall_names_values
  have hspelled : (TypeExpr.generic head [t]).Regular TypeExpr.IsSourceName
      TypeExpr.ConstantArgs :=
    hwhole.of_names_values (fun path hpath => (hnames path hpath).1) hvalues
  simp only [htext, ne_eq, readField_quoted_eq_ok_iff hf h]
  refine ⟨t, hread, ?_, fun hresolve => ?_⟩
  · have hbound : ∀ path ∈ (TypeExpr.generic head [t]).names, p.scope.Binds path :=
      fun path hpath => (hnames path hpath).2
    rw [hself.resolve_eq_ok_iff hwhole hbound, TypeExpr.parse_text_eq_ok_iff hspelled]
    simp [TypeExpr.names, TypeExpr.itemNames, TypeExpr.values, TypeExpr.itemValues, htype]
  · exact TypeExpr.parse_subscripted_ne htype hspelled (hself.parse_of_resolve hresolve)

/-- A source file that takes `Required` from `typing`. -/
def requiredUnit : List Stmt :=
  [.importFrom "typing" [⟨"Required", none⟩, ⟨"TypedDict", none⟩] ⟨1, 0⟩]

/-- A typed dict in this file, whose keys are optional unless they say otherwise. -/
def optionalKeys : Place where
  framework := .typedDict
  record := "Movie"
  scope := namespaceOf requiredUnit
  total := false

/-- The annotation `dict[str, int | None]`. -/
def ratings : Expr :=
  .subscript (.name "dict") (.tuple [.name "str", .bitOr (.name "int") (.constant .none)])

theorem readField_required_ratings :
    optionalKeys.framework = .typedDict ∧ optionalKeys.scope = namespaceOf requiredUnit ∧
    (Expr.name "Required").dottedName? = some "Required" ∧ Marker.isRequired "Required" ∧
    optionalKeys.scope.Binds "Required" ∧
    ratings.IsAnnotation
      (fun path => TypeExpr.IsSourceName path ∧ optionalKeys.scope.Binds path) ∧
    ∃ t, optionalKeys.readField (.name "ratings") (some (.subscript (.name "Required") ratings))
          none ⟨4, 4⟩ = .ok (some ⟨"ratings", some t, .absent⟩) ∧
      optionalKeys.readField (.name "ratings")
          (some (.constant (.str (Expr.subscript (.name "Required") ratings).text))) none ⟨4, 4⟩ =
        .ok (some ⟨"ratings", some (.generic "Required" [t]), .absent⟩) := by
  have hrequired : Marker.isRequired "Required" := by decide
  have hbinds : optionalKeys.scope.Binds "Required" := by decide +kernel
  have hratings : ratings.IsAnnotation
      fun path => TypeExpr.IsSourceName path ∧ optionalKeys.scope.Binds path := by
    refine .generic rfl (by decide +kernel) (by decide +kernel) (by simp [Expr.subscripts]) ?_
    simp only [Expr.subscripts, List.forall_mem_cons, List.not_mem_nil, false_imp_iff,
      implies_true, and_true]
    exact ⟨.name rfl (by decide +kernel), .bitOr (.name rfl (by decide +kernel)) .noneType⟩
  have hname : (Expr.name "Required").dottedName? = some "Required" := rfl
  obtain ⟨hsubscript, hquoted⟩ :=
    readField_required rfl rfl hname hrequired hbinds "ratings" ⟨4, 4⟩
  obtain ⟨t, hread, hwhole, -⟩ := hquoted ratings hratings
  refine ⟨rfl, rfl, hname, hrequired, hbinds, hratings, t, ?_, hwhole.mpr ?_⟩
  · rw [hsubscript, hread]
    rfl
  · have htype : optionalKeys.readType "ratings" ⟨4, 4⟩ ratings =
        .ok (.generic "dict" [.name "str", .union [.name "int", .noneType]]) := rfl
    obtain rfl := Except.ok.inj (htype.symm.trans hread)
    decide +kernel

/-- The key `title` with the annotation `Required[str]`, without quotes and in quotes. -/
theorem readField_required_title :
    optionalKeys.readField (.name "title") (some (.subscript (.name "Required") (.name "str")))
        none ⟨4, 4⟩ = .ok (some ⟨"title", some (.name "str"), .absent⟩) ∧
    optionalKeys.readField (.name "title") (some (.constant (.str "Required[str]"))) none ⟨4, 4⟩ =
      .ok (some ⟨"title", some (.generic "Required" [.name "str"]), .absent⟩) := by
  refine ⟨rfl, ?_⟩
  have hhead : (Expr.constant (.str "Required[str]")).headName? = some "Required" := by
    decide +kernel
  have hresolve : optionalKeys.scope.resolve "Required[str]" =
      .ok (.generic "Required" [.name "str"]) := by decide +kernel
  rw [readField_of_isRequired rfl hhead (by decide), Expr.unqualified,
    readType_text_eq_ok_iff.mpr hresolve]
  · rfl
  · nofun

end Scan.Place

end RecordForms
