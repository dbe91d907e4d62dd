import RecordForms.Proofs.Definition.Statement
import RecordForms.Proofs.Scan.Types
import RecordForms.Scan.Record

/-!
# Reading the statement of a field

The statement that a class declares a field with, in both forms: a name with an annotation, or a
call that is assigned to a name.  Both are read as the field, up to what the framework leaves of it.

## Main definitions

* `Field.Readable f config`: the fields that a class of `f` shows without being evaluated
* `Framework.Shows`: the slots that are read again from what is written for them

## Main results

* `Scan.Place.readValue_slotExpr`: the slot of a default is read from the right of its statement
* `Scan.readMember_annotatedStmt`, `Scan.readMember_explicitStmt`: so is the field from all of it
-/

namespace RecordForms

/-- Whether an annotation with this head declares an ordinary field of the framework. -/
def Framework.isFieldHead (f : Framework) (head : String) : Bool :=
  !Marker.isNonField head &&
    (f != .typedDict || !(Marker.isRequired head || Marker.isNotRequired head))

/-- Fields that a class of `f` shows without being evaluated.  Among the empty sets these are the
defaults that the class makes by a factory. -/
structure Field.Readable (f : Framework) (config : Config) (field : Field) : Prop where
  regular : ∀ t, field.type = some t → t.Regular (fun _ => True) TypeExpr.ReadableArgs
  head : ∀ t, field.type = some t → t.head?.all f.isFieldHead
  typed : f = .namedTuple → field.type.isSome
  default : ∀ v, field.default = .value v →
    v.Readable ∨ v = .set [] ∧ f.usesFactories ∧ config.mutableDefaults = .factory

namespace Framework

/-- The slots that are read again from what is written for them. -/
inductive Shows (f : Framework) : DefaultSlot → Prop
  | token : Shows f (.token f.absenceToken)
  | value {v : Value} (hv : v.Readable) (hr : f.refusal? v = none) : Shows f (.value v)
  | factory {path : String} (hf : f.usesFactories = true) : Shows f (.factory path)

variable {f : Framework} {config : Config} {field : Field} {slot : DefaultSlot}

theorem usesFactories_cases (h : f.usesFactories = true) :
    f = .attrs ∨ f = .dataclasses := by
  cases f with
  | attrs => exact Or.inl rfl
  | dataclasses => exact Or.inr rfl
  | _ => cases h

/-- The slot that fills the default of a readable field is read again. -/
theorem Fills.shows (h : f.Fills config field.default slot) (hfield : field.Readable f config) :
    f.Shows slot := by
  cases hd : field.default with
  | absent =>
    rw [hd] at h
    cases h
    exact .token
  | value v =>
    rw [hd] at h
    cases h with
    | factory hf => exact .factory hf
    | value hf hr =>
      rcases hfield.default v hd with hv | ⟨rfl, huses, hpolicy⟩
      · exact .value hv hr
      · -- the empty set is made by its factory, so it does not stand for itself
        have hnone := hf huses
        rw [emptyFactory?, hpolicy] at hnone
        cases hnone

end Framework

namespace Scan

namespace Place

variable {p : Place} {span : Span} {slot : DefaultSlot}

theorem ne_call_of_readable {v : Value} (h : v.Readable) (func : Expr) (args : List Expr)
    (keywords : List (Keyword Expr)) : v.toExpr ≠ .call func args keywords := by
  intro heq
  have hv := h.literal?_toExpr
  rw [heq] at hv
  simp [Expr.literal?] at hv

theorem literalSlot_toExpr {v : Value} (h : v.Readable) (hr : p.framework.refusal? v = none) :
    p.literalSlot span v.toExpr = .ok (.value v) := by
  -- Where `...` means that there is no default, a default of `...` is refused.
  have hmarker : ¬ (v = .ellipsis ∧ p.framework = .pydanticV2) := by
    rintro ⟨rfl, hf⟩
    rw [hf] at hr
    cases hr
  simp only [literalSlot, h.literal?_toExpr, if_neg hmarker]

theorem readSlot_toExpr {v : Value} (h : v.Readable) (hr : p.framework.refusal? v = none) :
    p.readSlot span v.toExpr = .ok (.value v) := by
  rw [readSlot]
  · exact literalSlot_toExpr h hr
  · exact fun func args keywords => ne_call_of_readable h func args keywords

theorem factorySlot_dotted (path : String) :
    factorySlot span (.dotted path) = .ok (.factory path) := by
  simp only [factorySlot, Expr.dottedName?_dotted]

theorem argumentSlot?_factory (path : String) :
    p.argumentSlot? span ⟨some "default_factory", .dotted path⟩ = .ok (some (.factory path)) := by
  simp [argumentSlot?, factorySlot_dotted, Except.map]

theorem readSlot_factoryExpr {path : String} (hf : p.framework.usesFactories = true) :
    p.readSlot span (p.framework.factoryExpr path) = .ok (.factory path) := by
  rcases Framework.usesFactories_cases hf with h | h
  · have hspecifier : p.isSpecifier (.dotted "attrs.Factory") = false := by
      rw [isSpecifier, Expr.dottedName?_dotted, h]
      decide
    have hwrapper : p.isWrapper (.dotted "attrs.Factory") = true := by
      rw [isWrapper, Expr.dottedName?_dotted, h]
      decide
    rw [h, Framework.factoryExpr, if_pos rfl, readSlot]
    simp only [hspecifier, hwrapper, Bool.false_eq_true, if_false, if_true, wrappedSlot,
      factorySlot_dotted]
  · have hspecifier : p.isSpecifier (.dotted "dataclasses.field") = true := by
      rw [isSpecifier, Expr.dottedName?_dotted, h]
      decide
    rw [h, Framework.factoryExpr, if_neg (by decide), readSlot]
    simp only [hspecifier, if_true, specifierSlot, positionalSlot?, Except.ok_bind, argumentsSlot,
      argumentSlot?_factory, Option.getD_some]

/-- The slot of a default is read from the right of its statement. -/
theorem readValue_slotExpr (h : p.framework.Shows slot) :
    p.readValue span (p.framework.slotExpr slot) = .ok slot := by
  cases h with
  | token => rfl
  | @value v hv hr =>
    -- a mutable default would be refused by the reader, but the writer refuses it before
    have hmutable : (decide (p.framework = .dataclasses) && v.isMutable) = false := by
      rw [Bool.and_eq_false_imp, decide_eq_true_eq]
      intro hf
      rw [hf] at hr
      by_contra hv
      simp [Framework.refusal?, hv] at hr
    rw [Framework.slotExpr, readValue, readSlot_toExpr hv hr, Except.ok_bind]
    simp only [hmutable, Bool.false_eq_true, if_false]
  | factory hf =>
    rw [Framework.slotExpr, readValue, readSlot_factoryExpr hf, Except.ok_bind]

theorem isWithoutInit_slotExpr (h : p.framework.Shows slot) :
    (p.framework.slotExpr slot).any p.isWithoutInit = false := by
  cases h with
  | token => rfl
  | @value v hv hr =>
    rw [Framework.slotExpr, Option.any_some, isWithoutInit]
    exact fun func args keywords => ne_call_of_readable hv func args keywords
  | factory hf =>
    rw [Framework.slotExpr, Option.any_some, Framework.factoryExpr]
    split
    · simp [isWithoutInit]
    · simp [isWithoutInit]

/-! ### Types -/

theorem unqualified_of_isFieldHead {field : String} {e : Expr}
    (h : e.headName?.all Framework.typedDict.isFieldHead) (htotal : p.total = true) :
    p.unqualified field (some e) none span = .ok (some e) := by
  -- Neither qualifier stands around the type, so it is taken as it is.
  have hhead : e.headName?.any Marker.isNotRequired = false ∧
      e.headName?.any Marker.isRequired = false := by
    cases hname : e.headName? with
    | none => exact ⟨rfl, rfl⟩
    | some head =>
      rw [hname] at h
      simp only [Option.all_some, Framework.isFieldHead] at h
      simp_all
  simp only [unqualified, Option.bind_some, hhead.1, hhead.2, htotal, Bool.not_true,
    Bool.false_and, Bool.or_self, Bool.false_eq_true, if_false]
  split
  · rfl
  · rfl

end Place

end Scan

namespace Field.Readable

variable {f : Framework} {config : Config} {field : Field}

theorem regular_declaredType (h : field.Readable f config) :
    (Framework.declaredType field).Regular (fun _ => True) TypeExpr.ReadableArgs := by
  rw [Framework.declaredType]
  cases ht : field.type with
  | none => exact .name trivial
  | some t => exact h.regular t ht

theorem isFieldHead_declaredType (h : field.Readable f config) :
    (Framework.declaredType field).toExpr.headName?.all f.isFieldHead := by
  rw [h.regular_declaredType.headName?_toExpr, Framework.declaredType]
  cases ht : field.type with
  | none =>
    cases f with
    | _ => decide
  | some t => exact h.head t ht

end Field.Readable

/-- A field that is declared with a type keeps it. -/
theorem typeThrough_eq_declaredType {f : Framework} {field : Field}
    (h : f.allowsUntyped = false ∨ field.type.isSome) :
    typeThrough [f] field.type = some (Framework.declaredType field) := by
  unfold typeThrough Framework.declaredType
  rcases h with h | h
  · simp [h]
  · obtain ⟨t, ht⟩ := Option.isSome_iff_exists.mp h
    simp [ht]

theorem Framework.isNonField_eq_false {f : Framework} {head : Option String}
    (h : head.all f.isFieldHead) : head.any Marker.isNonField = false := by
  cases head with
  | none => rfl
  | some head =>
    simp only [Option.all_some, isFieldHead, Bool.and_eq_true, Bool.not_eq_true'] at h
    exact h.1

namespace Scan

variable {p : Place} {span : Span} {config : Config} {field : Field} {slot : DefaultSlot}

/-- What a field is read from: its head, its annotation, its value and its slot, in this order. -/
theorem Place.readField_name {name : String} {declared value : Option Expr}
    {type : Option TypeExpr} {default : FieldDefault}
    (hhead : (declared.bind Expr.headName?).any Marker.isNonField = false)
    (hqualified : p.framework = .typedDict → p.unqualified name declared value span = .ok declared)
    (hinit : value.any p.isWithoutInit = false)
    (htype : p.readAnnotation name span declared = .ok type)
    (hvalue : p.readValue span value = .ok slot)
    (hdefault : p.framework.readDefault p.record name slot = .ok default) :
    p.readField (.name name) declared value span = .ok (some ⟨name, type, default⟩) := by
  -- Only a typed dict looks at qualifiers; the other steps are the same for all frameworks.
  rw [readField, hhead, if_neg Bool.false_ne_true, readNamed]
  by_cases hf : p.framework = .typedDict
  · simp only [if_pos hf, hqualified hf, Except.ok_bind, hinit, Bool.false_eq_true, if_false, htype,
      hvalue, hdefault]
    rfl
  · simp only [if_neg hf, hinit, Bool.false_eq_true, if_false, Except.ok_bind, htype, hvalue,
      hdefault]
    rfl

theorem slotExpr_of_typedDict {f : Framework} (h : f.Fills config field.default slot)
    (hf : f = .typedDict) : f.slotExpr slot = none := by
  subst hf
  rw [← Framework.slot_of_typedDict h]
  rfl

/-- An annotated field is read from its statement. -/
theorem readMember_annotatedStmt (span : Span) (htotal : p.total = true)
    (hslot : p.framework.Fills config field.default slot)
    (hfield : field.Readable p.framework config)
    (htype : p.framework.allowsUntyped = false ∨ field.type.isSome) :
    readMember p (p.framework.annotatedStmt span (field, slot)) =
      .ok (.field (field.through [p.framework])) := by
  have hhead := hfield.isFieldHead_declaredType
  have hshows := hslot.shows hfield
  have hqualified (hf : p.framework = .typedDict) :
      p.unqualified field.name (some (Framework.declaredType field).toExpr)
        (p.framework.slotExpr slot) span = .ok (some (Framework.declaredType field).toExpr) := by
    rw [slotExpr_of_typedDict hslot hf]
    rw [hf] at hhead
    exact Place.unqualified_of_isFieldHead hhead htotal
  have hannotation : p.readAnnotation field.name span (some (Framework.declaredType field).toExpr) =
      .ok (typeThrough [p.framework] field.type) := by
    rw [Place.readAnnotation, Place.readType_toExpr hfield.regular_declaredType,
      typeThrough_eq_declaredType htype]
    rfl
  have hread := Place.readField_name (Framework.isNonField_eq_false hhead) hqualified
    (Place.isWithoutInit_slotExpr hshows) hannotation (Place.readValue_slotExpr hshows)
    (hslot.readDefault p.record field.name)
  rw [Framework.annotatedStmt, readMember, hread]
  rfl

/-! ### Fields without an annotation -/

namespace Place

theorem argumentSlot?_type (e : Expr) : p.argumentSlot? span ⟨some "type", e⟩ = .ok none := by
  simp [argumentSlot?]

theorem isWrapper_factory (hf : p.framework = .attrs) :
    p.isWrapper (.dotted "attrs.Factory") = true := by
  rw [isWrapper, Expr.dottedName?_dotted, hf]
  decide

theorem isSpecifier_field (hf : p.framework = .attrs) :
    p.isSpecifier (.dotted "attrs.field") = true := by
  rw [isSpecifier, Expr.dottedName?_dotted, hf]
  decide

/-- The slot of a default is read from the argument of the call. -/
theorem argumentSlot?_default (hf : p.framework = .attrs) (h : p.framework.Shows slot) {e : Expr}
    (he : Framework.attrs.slotExpr slot = some e) :
    p.argumentSlot? span ⟨some "default", e⟩ = .ok (some slot) := by
  have hread : p.defaultArgument span e = .ok slot := by
    cases h with
    | token => cases he
    | @value v hv hr =>
      rw [Framework.slotExpr, Option.some.injEq] at he
      rw [← he, defaultArgument]
      · exact literalSlot_toExpr hv hr
      · exact fun func args keywords => ne_call_of_readable hv func args keywords
    | factory =>
      rw [Framework.slotExpr, Option.some.injEq, Framework.factoryExpr, if_pos rfl] at he
      rw [← he, defaultArgument]
      simp only [isWrapper_factory hf, if_true, wrappedSlot, factorySlot_dotted]
  simp [argumentSlot?, hread, Except.map]

theorem argumentsSlot_explicitKeywords (hf : p.framework = .attrs) (h : p.framework.Shows slot)
    (call : Expr) (type : Option TypeExpr) :
    p.argumentsSlot span call none (Framework.explicitKeywords type slot) =
      .ok ((Framework.attrs.slotExpr slot).map fun _ => slot) := by
  have hslot : p.argumentsSlot span call none
      ((Framework.attrs.slotExpr slot).map fun e => (⟨some "default", e⟩ : Keyword Expr)).toList =
        .ok ((Framework.attrs.slotExpr slot).map fun _ => slot) := by
    cases he : Framework.attrs.slotExpr slot with
    | none => rfl
    | some e =>
      simp only [Option.map_some, Option.toList_some, argumentsSlot, argumentSlot?_default hf h he,
        Except.ok_bind]
  -- The argument `type` comes first and gives no slot.
  cases type with
  | none => exact hslot
  | some t =>
    simp only [Framework.explicitKeywords, Option.map_some, Option.toList_some,
      List.singleton_append, argumentsSlot, argumentSlot?_type, Except.ok_bind, hslot]

theorem readValue_explicit (hf : p.framework = .attrs) (h : p.framework.Shows slot)
    (type : Option TypeExpr) :
    p.readValue span (some (.call (.dotted "attrs.field") []
      (Framework.explicitKeywords type slot))) = .ok slot := by
  have hgiven : (((Framework.attrs.slotExpr slot).map fun _ => slot).getD p.absent) = slot := by
    cases h with
    | token => rfl
    | value => rfl
    | factory => rfl
  have hread : p.readSlot span (.call (.dotted "attrs.field") []
      (Framework.explicitKeywords type slot)) = .ok slot := by
    simp only [readSlot, isSpecifier_field hf, if_true, specifierSlot, positionalSlot?,
      Except.ok_bind, argumentsSlot_explicitKeywords hf h, hgiven]
  rw [readValue, hread, Except.ok_bind]
  cases h with
  | token => rfl
  | value =>
    simp only [hf, reduceCtorEq, decide_false, Bool.false_and, Bool.false_eq_true, if_false]
  | factory => rfl

theorem isWithoutInit_explicit (type : Option TypeExpr) (slot : DefaultSlot) :
    p.isWithoutInit (.call (.dotted "attrs.field") [] (Framework.explicitKeywords type slot)) =
      false := by
  have hinit : (Framework.explicitKeywords type slot).any
      (fun k => k.arg == some "init" && k.value.isFalse) = false := by
    unfold Framework.explicitKeywords
    cases type with
    | none =>
      cases Framework.attrs.slotExpr slot with
      | none => rfl
      | some e => simp
    | some t =>
      cases Framework.attrs.slotExpr slot with
      | none => simp
      | some e => simp
  rw [isWithoutInit, hinit, Bool.and_false]

end Place

theorem find?_explicitKeywords (type : Option TypeExpr) (slot : DefaultSlot) :
    ((Framework.explicitKeywords type slot).find? fun k => k.arg == some "type").map Keyword.value =
      type.map TypeExpr.toExpr := by
  unfold Framework.explicitKeywords
  cases type with
  | none =>
    cases Framework.attrs.slotExpr slot with
    | none => rfl
    | some e => simp
  | some t => simp

/-- A field without an annotation is read from its statement. -/
theorem readMember_explicitStmt (span : Span) (hf : p.framework = .attrs)
    (hslot : p.framework.Fills config field.default slot)
    (hfield : field.Readable p.framework config) :
    readMember p (Framework.explicitStmt span (field, slot)) =
      .ok (.field (field.through [p.framework])) := by
  have hshows := hslot.shows hfield
  have hhead : ((field.type.map TypeExpr.toExpr).bind Expr.headName?).all
      p.framework.isFieldHead := by
    cases ht : field.type with
    | none => rfl
    | some t =>
      rw [Option.map_some, Option.bind_some, (hfield.regular t ht).headName?_toExpr]
      exact hfield.head t ht
  have hannotation : p.readAnnotation field.name span (field.type.map TypeExpr.toExpr) =
      .ok (typeThrough [p.framework] field.type) := by
    have hkeeps : typeThrough [p.framework] field.type = field.type := by
      rw [hf]
      rfl
    rw [hkeeps]
    cases ht : field.type with
    | none => rfl
    | some t =>
      rw [Option.map_some, Place.readAnnotation, Place.readType_toExpr (hfield.regular t ht)]
      rfl
  have hinit : (some (Expr.call (.dotted "attrs.field") []
      (Framework.explicitKeywords field.type slot))).any p.isWithoutInit = false :=
    Place.isWithoutInit_explicit field.type slot
  have hread := Place.readField_name (Framework.isNonField_eq_false hhead) (by simp [hf]) hinit
    hannotation (Place.readValue_explicit hf hshows field.type)
    (hslot.readDefault p.record field.name)
  simp only [Framework.explicitStmt, readMember, readAssignment, hf, decide_true,
    Place.isSpecifier_field hf, Bool.and_self, if_true, find?_explicitKeywords, hread]
  rw [← hf]
  rfl

end Scan

end RecordForms
