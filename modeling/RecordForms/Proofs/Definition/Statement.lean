import RecordForms.Definition.Tree
import RecordForms.Proofs.Definition.Passage
import RecordForms.Scan.Markers

/-!
# The statement of a definition

What is written for a definition that was built from a schema: a class with the marker of its
framework, and in its body one statement for every field.

## Main definitions

* `Framework.annotatedStmt`, `Framework.explicitStmt`: the two forms of the statement of a field
* `Framework.fieldStmt`: the form that a class uses
* `Source.ClassLayout.MarkedAs`, `Source.ClassLayout.Declares`: the layouts with one marker, and
  those that also declare given fields

## Main results

* `Framework.classForm_describe`: a definition is written as a class with the statements of its
  fields, unless it is a named tuple without annotations
* `Framework.layout_namedTuple_untyped`: such a named tuple is written as a call
-/

namespace RecordForms

open Source

/-- The layouts that have one marker, of the framework `f`: a decorator or a base. -/
def Source.ClassLayout.MarkedAs (f : Framework) (c : ClassLayout) : Prop :=
  (∃ callee flags, c.decorator = some (callee, flags) ∧ Marker.decorator? callee = some f ∧
      c.base = none) ∨
    ∃ base, c.decorator = none ∧ c.base = some base ∧ Marker.base? base = some f

namespace Framework

/-- The expression of a default that a factory makes. -/
def factoryExpr (f : Framework) (path : String) : Expr :=
  if f = .attrs then .call (.dotted "attrs.Factory") [.dotted path] []
  else .call (.dotted "dataclasses.field") [] [⟨some "default_factory", .dotted path⟩]

/-- What stands right of a field with this slot. -/
def slotExpr (f : Framework) : DefaultSlot → Option Expr
  | .token _ => none
  | .value v => some v.toExpr
  | .factory path => some (f.factoryExpr path)

/-- The statement of a field that has an annotation. -/
def annotatedStmt (f : Framework) (span : Span) (p : Field × DefaultSlot) : Stmt :=
  .annAssign (.name p.1.name) (declaredType p.1).toExpr (f.slotExpr p.2) span

/-- The arguments of the call that describes a field in an attrs class without annotations. -/
def explicitKeywords (type : Option TypeExpr) (slot : DefaultSlot) : List (Keyword Expr) :=
  (type.map fun t => ⟨some "type", t.toExpr⟩).toList ++
    ((attrs.slotExpr slot).map fun e => ⟨some "default", e⟩).toList

/-- The statement of a field in an attrs class without annotations. -/
def explicitStmt (span : Span) (p : Field × DefaultSlot) : Stmt :=
  .assign [.name p.1.name] (.call (.dotted "attrs.field") [] (explicitKeywords p.1.type p.2)) span

/-- Whether a class with these fields has no annotations because some field has no type. -/
def isExplicit (f : Framework) (pairs : List (Field × DefaultSlot)) : Bool :=
  f == .attrs && pairs.any fun p => p.1.type.isNone

/-- The statement of a field in a class with these fields. -/
def fieldStmt (f : Framework) (span : Span) (pairs : List (Field × DefaultSlot)) :
    Field × DefaultSlot → Stmt :=
  if f.isExplicit pairs then explicitStmt span else f.annotatedStmt span

end Framework

/-- The layouts of a class of `f` that declares these fields. -/
structure Source.ClassLayout.Declares (c : ClassLayout) (f : Framework) (name : String)
    (pairs : List (Field × DefaultSlot)) : Prop where
  name : c.name = name
  marked : c.MarkedAs f
  keywords : f = .typedDict → c.keywords = []
  body : ∀ span, c.body.map (Entry.toStmt span) = pairs.map (f.fieldStmt span pairs)

namespace Framework

variable {f : Framework} {config : Config} {name : String} {scope : Namespace} {kwOnly : Bool}
  {pairs : List (Field × DefaultSlot)}

/-- The attribute that an attrs class declares for a field and the slot of its default. -/
def attrsAttribute (p : Field × DefaultSlot) : AttrsAttribute where
  name := p.1.name
  type := p.1.type.map .resolved
  default := p.2

theorem toStmt_assignedEntry (span : Span) (p : Field × DefaultSlot) :
    (attrsAttribute p).assignedEntry.toStmt span = explicitStmt span p := by
  obtain ⟨⟨name, type, default⟩, slot⟩ := p
  cases type with
  | none => cases slot <;> rfl
  | some t => cases slot <;> rfl

theorem toStmt_annotatedEntry (span : Span) (p : Field × DefaultSlot) :
    (attrsAttribute p).annotatedEntry.toStmt span = attrs.annotatedStmt span p := by
  obtain ⟨⟨name, type, default⟩, slot⟩ := p
  cases type with
  | none => cases slot <;> rfl
  | some t => cases slot <;> rfl

theorem layout_attrs : ∃ c, (attrs.describe name scope kwOnly pairs).layout = .classForm c ∧
    c.Declares attrs name pairs := by
  refine ⟨AttrsClass.layout ⟨name, scope, pairs.map attrsAttribute, kwOnly⟩, rfl, ?_⟩
  constructor
  · rfl
  · exact Or.inl ⟨_, _, rfl, by decide, rfl⟩
  · nofun
  · intro span
    -- one attribute without a type is enough to write all of them without annotations
    have hexplicit : ((pairs.map attrsAttribute).any fun a => a.type.isNone) =
        attrs.isExplicit pairs := by
      simp [isExplicit, attrsAttribute, Function.comp_def]
    simp only [AttrsClass.layout, hexplicit, List.map_map, fieldStmt]
    refine List.map_congr_left fun p _ => ?_
    split
    · exact toStmt_assignedEntry span p
    · exact toStmt_annotatedEntry span p

theorem fieldStmt_of_ne_attrs (hf : f ≠ .attrs) (span : Span) :
    f.fieldStmt span pairs = f.annotatedStmt span := by
  rw [fieldStmt, isExplicit, beq_false_of_ne hf, Bool.false_and]
  rfl

theorem layout_dataclasses : ∃ c, (dataclasses.describe name scope kwOnly pairs).layout =
    .classForm c ∧ c.Declares dataclasses name pairs := by
  refine ⟨_, rfl, rfl, Or.inl ⟨_, _, rfl, by decide, rfl⟩, nofun, fun span => ?_⟩
  simp only [Dataclass.layout, List.map_map, fieldStmt_of_ne_attrs (f := dataclasses) (by decide)]
  refine List.map_congr_left fun p _ => ?_
  obtain ⟨field, slot⟩ := p
  cases slot <;> rfl

/-- Frameworks without factories give a default by value or not at all. -/
theorem toStmt_annotated {p : Field × DefaultSlot} (hslot : f.Fills config p.1.default p.2)
    (hf : f.usesFactories = false) (specifier : String) (span : Span) :
    (Entry.annotated p.1.name (.stored (.resolved (declaredType p.1)))
      (initializer specifier [] (slotGiven p.2))).toStmt span = f.annotatedStmt span p := by
  obtain ⟨⟨name, type, default⟩, slot⟩ := p
  cases hslot with
  | token => rfl
  | factory huses =>
    rw [hf] at huses
    cases huses
  | value => rfl

theorem layout_msgspec (hslots : ∀ p ∈ pairs, msgspec.Fills config p.1.default p.2) :
    ∃ c, (msgspec.describe name scope kwOnly pairs).layout = .classForm c ∧
      c.Declares msgspec name pairs := by
  refine ⟨_, rfl, rfl, Or.inr ⟨_, rfl, rfl, by decide⟩, nofun, fun span => ?_⟩
  simp only [StructClass.layout, List.map_map, fieldStmt_of_ne_attrs (f := msgspec) (by decide)]
  refine List.map_congr_left fun p hp => ?_
  simp only [Function.comp_apply, if_true]
  exact toStmt_annotated (hslots p hp) rfl "msgspec.field" span

theorem layout_pydanticV2 (hnames : (pairs.map fun p => p.1.name).Nodup)
    (hslots : ∀ p ∈ pairs, pydanticV2.Fills config p.1.default p.2) :
    ∃ c, (pydanticV2.describe name scope kwOnly pairs).layout = .classForm c ∧
      c.Declares pydanticV2 name pairs := by
  refine ⟨_, rfl, rfl, Or.inr ⟨_, rfl, rfl, by decide⟩, nofun, fun span => ?_⟩
  simp only [PydanticModel.layout, describe.pydanticFields,
    NameMap.entries_ofList_map (fun p : Field × DefaultSlot => p.1.name) _ hnames, List.map_map,
    fieldStmt_of_ne_attrs (f := pydanticV2) (by decide)]
  refine List.map_congr_left fun p hp => ?_
  simp only [Function.comp_apply]
  exact toStmt_annotated (hslots p hp) rfl "pydantic.Field" span

theorem layout_typedDict (hnames : (pairs.map fun p => p.1.name).Nodup)
    (hslots : ∀ p ∈ pairs, typedDict.Fills config p.1.default p.2) :
    ∃ c, (typedDict.describe name scope kwOnly pairs).layout = .classForm c ∧
      c.Declares typedDict name pairs := by
  refine ⟨_, rfl, rfl, Or.inr ⟨_, rfl, rfl, by decide⟩, fun _ => rfl, fun span => ?_⟩
  simp only [TypedDict.layout,
    NameMap.entries_ofList_map (fun p : Field × DefaultSlot => p.1.name) _ hnames, List.map_map,
    fieldStmt_of_ne_attrs (f := typedDict) (by decide)]
  refine List.map_congr_left fun p hp => ?_
  rw [annotatedStmt, ← slot_of_typedDict (hslots p hp)]
  rfl

theorem toStmt_tupleEntry {p : Field × DefaultSlot}
    (hslot : namedTuple.Fills config p.1.default p.2) (span : Span) :
    (Entry.annotated p.1.name
      (match p.1.type.map Annotation.resolved with
        | some a => .stored a
        | none => .any)
      ((slotValue? p.2).map fun v => .value (.value v))).toStmt span =
        namedTuple.annotatedStmt span p := by
  obtain ⟨⟨name, type, default⟩, slot⟩ := p
  cases hslot with
  | token => cases type <;> rfl
  | factory huses => cases huses
  | value => cases type <;> rfl

/-- A named tuple with an annotation, or without fields, is a class. -/
theorem layout_namedTuple (hnames : (pairs.map fun p => p.1.name).Nodup)
    (hslots : ∀ p ∈ pairs, namedTuple.Fills config p.1.default p.2)
    (htyped : pairs = [] ∨ ∃ p ∈ pairs, p.1.type.isSome) :
    ∃ c, (namedTuple.describe name scope kwOnly pairs).layout = .classForm c ∧
      c.Declares namedTuple name pairs := by
  have htype {p : Field × DefaultSlot} (hp : p ∈ pairs) :=
    NameMap.get?_ofList_filterMap (fun p : Field × DefaultSlot => p.1.name)
      (fun p => p.1.type.map Annotation.resolved) hnames hp
  have hvalue {p : Field × DefaultSlot} (hp : p ∈ pairs) :=
    NameMap.get?_ofList_filterMap (fun p : Field × DefaultSlot => p.1.name)
      (fun p => slotValue? p.2) hnames hp
  rw [describe_namedTuple, Definition.layout, NamedTuple.layout, if_neg]
  · refine ⟨_, rfl, rfl, Or.inr ⟨_, rfl, rfl, by decide⟩, nofun, fun span => ?_⟩
    simp only [List.map_map, fieldStmt_of_ne_attrs (f := namedTuple) (by decide)]
    refine List.map_congr_left fun p hp => ?_
    simp only [Function.comp_apply, htype hp, hvalue hp]
    exact toStmt_tupleEntry (hslots p hp) span
  · -- the other form is for fields without any annotation
    rw [Bool.and_eq_true, Bool.not_eq_true', List.isEmpty_eq_false_iff]
    rintro ⟨hempty, hfields⟩
    rcases htyped with rfl | ⟨p, hp, ht⟩
    · exact hfields rfl
    · have hget := htype hp
      rw [NameMap.get?, List.isEmpty_iff.mp hempty, NameMap.find] at hget
      obtain ⟨t, ht⟩ := Option.isSome_iff_exists.mp ht
      rw [ht] at hget
      cases hget

/-- A named tuple that has fields, but no annotation, is a call. -/
theorem layout_namedTuple_untyped (hnames : (pairs.map fun p => p.1.name).Nodup)
    (hne : pairs ≠ []) (huntyped : ∀ p ∈ pairs, p.1.type = none) :
    (namedTuple.describe name scope kwOnly pairs).layout =
      .tupleForm name (pairs.map fun p => p.1.name) (pairs.filterMap fun p => slotValue? p.2) := by
  have hannotations : (pairs.filterMap fun p =>
      (p.1.type.map Annotation.resolved).map fun a => (p.1.name, a)) = [] := by
    rw [List.filterMap_eq_nil_iff]
    intro p hp
    rw [huntyped p hp]
    rfl
  rw [describe_namedTuple, Definition.layout, NamedTuple.layout, hannotations, if_pos]
  · -- the defaults are looked up by name, and the name of each field finds its own
    rw [List.filterMap_map]
    congr 1
    refine List.filterMap_congr fun p hp => ?_
    exact NameMap.get?_ofList_filterMap (fun p : Field × DefaultSlot => p.1.name)
      (fun p => slotValue? p.2) hnames hp
  · cases pairs with
    | nil => exact absurd rfl hne
    | cons p pairs => rfl

/-- A definition is written as a class with the statements of its fields, unless it is a named tuple
without annotations. -/
theorem classForm_describe (hf : f ≠ .pydanticV1) (hnames : (pairs.map fun p => p.1.name).Nodup)
    (hslots : ∀ p ∈ pairs, f.Fills config p.1.default p.2)
    (htyped : f = .namedTuple → pairs = [] ∨ ∃ p ∈ pairs, p.1.type.isSome) :
    ∃ c, (f.describe name scope kwOnly pairs).layout = .classForm c ∧ c.Declares f name pairs := by
  cases f with
  | attrs => exact layout_attrs
  | dataclasses => exact layout_dataclasses
  | msgspec => exact layout_msgspec hslots
  | namedTuple => exact layout_namedTuple hnames hslots (htyped rfl)
  | pydanticV1 => exact absurd rfl hf
  | pydanticV2 => exact layout_pydanticV2 hnames hslots
  | typedDict => exact layout_typedDict hnames hslots

/-- A typed definition is written as a class with the statements of its fields. -/
theorem layout_describe (hf : f ≠ .pydanticV1) (hnames : (pairs.map fun p => p.1.name).Nodup)
    (hslots : ∀ p ∈ pairs, f.Fills config p.1.default p.2)
    (htyped : f = .namedTuple → ∀ p ∈ pairs, p.1.type.isSome) :
    ∃ c, (f.describe name scope kwOnly pairs).layout = .classForm c ∧ c.Declares f name pairs := by
  refine classForm_describe hf hnames hslots fun hf => ?_
  cases pairs with
  | nil => exact Or.inl rfl
  | cons p pairs => exact Or.inr ⟨p, List.mem_cons_self, htyped hf p List.mem_cons_self⟩

end Framework

end RecordForms
