import RecordForms.Definition.Reading
import RecordForms.Proofs.Except
import RecordForms.Proofs.Schema.Distinct

/-!
# Definitions that have a schema

A definition has a schema if nothing stands against it: no field is computed, each declared field is
one, has a type that is known and a default that is understood, and no two have one name.  Otherwise
the first thing that stands against it is reported.

## Main definitions

* `Definition.declared`, `Definition.annotations`, `Definition.slots`: the names of the declared
  fields, and the annotations and default slots that are stored for them
* `Definition.IsReadable d`: nothing stands against a schema of `d`
* `Definition.MemberError d m e`: `e` is what stands against the member `m`

## Main results

* `Definition.readMember_eq_error_iff`: what is reported of one member
* `Framework.read_all_or_first_error`: exactly when a definition has a schema, what the schema
  declares, and what is reported if there is none
-/

namespace RecordForms

/-- Whether the framework understands a slot: its own token, a value, or a builtin factory. -/
def Framework.Accepts (f : Framework) : DefaultSlot → Prop
  | .token t => t = f.absenceToken
  | .value _ => True
  | .factory path => path ∈ ["list", "dict", "set", "tuple", "frozenset"]

/-- What stands against a slot that is not understood. -/
inductive Framework.SlotError (f : Framework) (record field : String) :
    DefaultSlot → RecordError → Prop
  | token {t : AbsenceToken} (ht : t ≠ f.absenceToken) :
      SlotError f record field (.token t) (.unsupportedMember record field (.foreignToken f t))
  | factory {path : String} (hpath : path ∉ ["list", "dict", "set", "tuple", "frozenset"]) :
      SlotError f record field (.factory path)
        (.unsupportedMember record field (.unknownFactory path))

namespace Definition

/-- The names of the declared fields, in order of declaration. -/
def declared : Definition → List String
  | attrs c => c.attributes.map AttrsAttribute.name
  | dataclass c => c.fields.map DataclassField.name
  | struct c => c.fields.map StructField.name
  | namedTuple c => c.fields
  | pydantic c => c.fields.names
  | typedDict c => c.annotations.names

/-- Whether every declared field is one: a parameter of the constructor, or a required key. -/
def Admissible : Definition → Prop
  | attrs c => ∀ a ∈ c.attributes, a.init
  | dataclass c => ∀ f ∈ c.fields, f.init
  | struct _ | namedTuple _ | pydantic _ => True
  | typedDict c => ∀ key ∈ c.annotations.names, key ∉ c.optional.names

/-- The annotations that are stored for the declared fields.  In a named tuple an annotation under
another name belongs to no field. -/
def annotations : Definition → List Annotation
  | attrs c => c.attributes.filterMap AttrsAttribute.type
  | dataclass c => c.fields.map DataclassField.type
  | struct c => c.fields.map StructField.type
  | namedTuple c => c.fields.filterMap c.annotations.get?
  | pydantic c => c.fields.entries.filterMap fun entry => PydanticField.annotation entry.2
  | typedDict c => c.annotations.entries.map Prod.snd

/-- The default slots of the declared fields.  A named tuple has a table of values instead, and a
typed dict has no defaults. -/
def slots : Definition → List DefaultSlot
  | attrs c => c.attributes.map AttrsAttribute.default
  | dataclass c => c.fields.map DataclassField.default
  | struct c => c.fields.map StructField.default
  | pydantic c => c.fields.entries.map fun entry => entry.2.default
  | namedTuple _ | typedDict _ => []

/-- Whether an annotation denotes a type where the record is defined. -/
def Resolves (d : Definition) (a : Annotation) : Prop :=
  ∃ t, d.scope.resolveAnnotation a = .ok t

/-- Whether nothing stands against a schema of the definition. -/
structure IsReadable (d : Definition) : Prop where
  computed : d.computed = []
  admissible : d.Admissible
  resolves : ∀ a ∈ d.annotations, d.Resolves a
  accepts : ∀ slot ∈ d.slots, d.framework.Accepts slot
  distinct : d.declared.Nodup

/-- What stands against a member: that it is no field, or else its type, or else its default. -/
inductive MemberError (d : Definition) (m : Member) : RecordError → Prop
  | member {fault : MemberFault} (hfault : m.fault = some fault) :
      MemberError d m (.unsupportedMember d.name m.name fault)
  | type {a : Annotation} {reason : Namespace.Unresolved} (hfault : m.fault = none)
      (ha : m.annotation = some a) (hreason : d.scope.resolveAnnotation a = .error reason) :
      MemberError d m (.typeResolution d.name m.name a.reference reason)
  | default {e : RecordError} (hfault : m.fault = none) (htype : ∀ a ∈ m.annotation, d.Resolves a)
      (hslot : d.framework.SlotError d.name m.name m.default e) : MemberError d m e

end Definition

section Slots

variable {f : Framework} {record field : String} {slot : DefaultSlot} {e : RecordError}

theorem emptyOfFactory?_eq_none_iff {path : String} : emptyOfFactory? path = none ↔
    path ∉ ["list", "dict", "set", "tuple", "frozenset"] := by
  simp [emptyOfFactory?, builtinFactories, @eq_comm _ path]

theorem Framework.readDefault_eq_error_iff :
    f.readDefault record field slot = .error e ↔ f.SlotError record field slot e := by
  constructor
  · intro h
    cases slot with
    | token t =>
      by_cases ht : t = f.absenceToken
      · simp [readDefault, ht] at h
      · rw [readDefault, if_neg ht] at h
        exact Except.error.inj h ▸ .token ht
    | value v =>
      simp only [readDefault] at h
      split at h <;> cases h
    | factory path =>
      cases hpath : emptyOfFactory? path with
      | some v => simp [readDefault, hpath] at h
      | none =>
        simp only [readDefault, hpath] at h
        exact Except.error.inj h ▸ .factory (emptyOfFactory?_eq_none_iff.mp hpath)
  · rintro (ht | hpath)
    · exact if_neg ht
    · simp only [readDefault, emptyOfFactory?_eq_none_iff.mpr hpath]

theorem Framework.exists_slotError_iff :
    (∃ e, f.SlotError record field slot e) ↔ ¬ f.Accepts slot := by
  constructor
  · rintro ⟨e, ht | hpath⟩
    · exact ht
    · exact hpath
  · intro h
    cases slot with
    | token t => exact ⟨_, .token h⟩
    | value v => exact absurd trivial h
    | factory path => exact ⟨_, .factory h⟩

end Slots

namespace Definition

variable {d : Definition} {m : Member} {s : Schema} {e : RecordError}

/-! ### Members -/

theorem name_members : d.members.map Member.name = d.declared := by
  cases d with
  | attrs c | dataclass c | struct c | pydantic c | typedDict c =>
    simp [members, declared, NameMap.names, Function.comp_def]
  | namedTuple c =>
    simp [members, declared, Function.comp_def]

theorem admissible_iff : d.Admissible ↔ ∀ m ∈ d.members, m.fault = none := by
  cases d with
  | attrs c | dataclass c => simp [members, Admissible]
  | struct c | namedTuple c | pydantic c =>
    simp only [members, Admissible, List.forall_mem_map, implies_true]
  | typedDict c =>
    simp only [members, Admissible, NameMap.names, List.forall_mem_map, NameSet.contains]
    simp

theorem annotation_members : d.members.filterMap Member.annotation = d.annotations := by
  cases d with
  | attrs c | namedTuple c | pydantic c =>
    simp only [members, annotations, List.filterMap_map, Function.comp_def]
  | dataclass c | struct c | typedDict c => simp [members, annotations, List.filterMap_map]

theorem accepts_iff : (∀ slot ∈ d.slots, d.framework.Accepts slot) ↔
    ∀ m ∈ d.members, d.framework.Accepts m.default := by
  cases d with
  | attrs c | dataclass c | struct c | pydantic c =>
    simp only [members, slots, List.forall_mem_map]
  | namedTuple c =>
    -- a field without an entry in the table has the token of the framework
    simp only [slots, members, List.forall_mem_map]
    refine iff_of_true (List.forall_mem_nil _) fun name _ => ?_
    cases c.defaults.get? name with
    | some v => trivial
    | none => rfl
  | typedDict c =>
    simp only [slots, members, List.forall_mem_map]
    exact iff_of_true (List.forall_mem_nil _) fun _ _ => rfl

/-! ### One member -/

theorem readType_eq_error_iff {field : String} {a? : Option Annotation} :
    d.readType field a? = .error e ↔ ∃ a reason, a? = some a ∧
      d.scope.resolveAnnotation a = .error reason ∧
        e = .typeResolution d.name field a.reference reason := by
  cases a? with
  | none => simp [readType]
  | some a =>
    simp only [readType, Option.some.injEq, ↓existsAndEq, true_and]
    cases d.scope.resolveAnnotation a with
    | ok t => simp
    | error reason => simp [eq_comm]

theorem exists_readType_iff {field : String} {a? : Option Annotation} :
    (∃ type, d.readType field a? = .ok type) ↔ ∀ a ∈ a?, d.Resolves a := by
  cases a? with
  | none => simp [readType]
  | some a =>
    simp only [readType, Resolves, Option.mem_some_iff, forall_eq']
    cases d.scope.resolveAnnotation a with
    | ok t => simp
    | error reason => simp

/-- What is reported of a member. -/
theorem readMember_eq_error_iff : d.readMember m = .error e ↔ d.MemberError m e := by
  unfold readMember
  cases hfault : m.fault with
  | some fault =>
    constructor
    · rintro ⟨⟩
      exact .member hfault
    · rintro (hfault' | hfault' | hfault')
      · rw [Option.some.inj (hfault.symm.trans hfault')]
      all_goals cases hfault.symm.trans hfault'
  | none =>
    simp only [Except.bind_eq_error_iff, readType_eq_error_iff,
      Framework.readDefault_eq_error_iff, reduceCtorEq, and_false, exists_false, or_false,
      exists_and_right, exists_readType_iff]
    constructor
    · rintro (⟨a, reason, ha, hreason, rfl⟩ | ⟨htype, hslot⟩)
      · exact .type hfault ha hreason
      · exact .default hfault htype hslot
    · rintro (hfault' | ⟨-, ha, hreason⟩ | ⟨-, htype, hslot⟩)
      · cases hfault.symm.trans hfault'
      · exact Or.inl ⟨_, _, ha, hreason, rfl⟩
      · exact Or.inr ⟨htype, hslot⟩

/-- Nothing stands against a member just if it is a field, its type is known and its default is
understood. -/
theorem forall_not_memberError_iff : (∀ e, ¬ d.MemberError m e) ↔ m.fault = none ∧
    (∀ a ∈ m.annotation, d.Resolves a) ∧ d.framework.Accepts m.default := by
  constructor
  · intro h
    have hfault : m.fault = none := Option.eq_none_iff_forall_ne_some.mpr fun fault hfault =>
      h _ (.member hfault)
    have htype : ∀ a ∈ m.annotation, d.Resolves a := fun a ha =>
      Except.exists_eq_ok_iff.mpr fun reason hreason => h _ (.type hfault ha hreason)
    refine ⟨hfault, htype, not_not.mp fun hslot => ?_⟩
    obtain ⟨e, he⟩ := Framework.exists_slotError_iff.mpr hslot
    exact h e (.default hfault htype he)
  · rintro ⟨hfault, htype, hslot⟩ e (hfault' | ⟨-, ha, hreason⟩ | ⟨-, -, he⟩)
    · cases hfault.symm.trans hfault'
    · obtain ⟨t, ht⟩ := htype _ ha
      cases ht.symm.trans hreason
    · exact Framework.exists_slotError_iff.mp ⟨e, he⟩ hslot

theorem name_of_readMember {field : Field} (h : d.readMember m = .ok field) :
    field.name = m.name := by
  unfold readMember at h
  split at h
  · cases h
  · obtain ⟨type, -, h⟩ := Except.bind_eq_ok_iff.mp h
    obtain ⟨default, -, h⟩ := Except.bind_eq_ok_iff.mp h
    cases h
    rfl

/-! ### All members -/

theorem names_of_mapM {fields : List Field} (h : d.members.mapM d.readMember = .ok fields) :
    fields.map Field.name = d.declared := by
  have hfields := Except.mapM_eq_ok_iff.mp h
  rw [← name_members, ← List.forall₂_eq_eq_eq, List.forall₂_map_left_iff,
    List.forall₂_map_right_iff]
  exact hfields.flip.imp fun field m hfield => name_of_readMember hfield

theorem mapM_readMember_eq_error_iff : d.members.mapM d.readMember = .error e ↔
    d.members.IsFirstFault d.MemberError e := by
  rw [Except.mapM_eq_error_iff]
  exact List.isFirstFault_congr fun m _ e => readMember_eq_error_iff

theorem exists_mapM_readMember_iff : (∃ fields, d.members.mapM d.readMember = .ok fields) ↔
    ∀ m ∈ d.members, ∀ e, ¬ d.MemberError m e :=
  Except.exists_eq_ok_iff_of_firstFault fun _ => mapM_readMember_eq_error_iff

theorem forall_members_iff : (∀ m ∈ d.members, ∀ e, ¬ d.MemberError m e) ↔ d.Admissible ∧
    (∀ a ∈ d.annotations, d.Resolves a) ∧ ∀ slot ∈ d.slots, d.framework.Accepts slot := by
  have hresolves : (∀ a ∈ d.annotations, d.Resolves a) ↔
      ∀ m ∈ d.members, ∀ a ∈ m.annotation, d.Resolves a := by
    simp only [← annotation_members, List.mem_filterMap, forall_exists_index, and_imp]
    exact ⟨fun h m hm a ha => h a m hm ha, fun h a m hm ha => h m hm a ha⟩
  rw [admissible_iff, hresolves, accepts_iff]
  simp only [forall_not_memberError_iff, forall₂_and]

/-! ### Definitions -/

theorem schema?_eq_error_iff : d.schema? = .error e ↔
    (∃ field rest, d.computed = field :: rest ∧ e = .unsupportedMember d.name field .computed) ∨
      d.computed = [] ∧ (d.members.IsFirstFault d.MemberError e ∨
        (∀ m ∈ d.members, ∀ e', ¬ d.MemberError m e') ∧
          ∃ n, IsFirstRepeated d.declared n ∧ e = .duplicateField d.name n) := by
  unfold schema?
  cases hcomputed : d.computed with
  | cons field rest => simp [eq_comm]
  | nil =>
    simp only [Except.bind_eq_error_iff, mapM_readMember_eq_error_iff, reduceCtorEq, false_and,
      exists_false, false_or, true_and, ← exists_mapM_readMember_iff,
      Schema.ofFields?_eq_error_iff]
    refine or_congr_right ⟨?_, ?_⟩
    · rintro ⟨fields, hfields, n, hn, rfl⟩
      exact ⟨⟨fields, hfields⟩, n, names_of_mapM hfields ▸ hn, rfl⟩
    · rintro ⟨⟨fields, hfields⟩, n, hn, rfl⟩
      exact ⟨fields, hfields, n, names_of_mapM hfields ▸ hn, rfl⟩

theorem schema?_eq_ok (h : d.schema? = .ok s) : s.name = d.name ∧ s.fieldNames = d.declared := by
  unfold schema? at h
  split at h
  · cases h
  · obtain ⟨fields, hfields, hs⟩ := Except.bind_eq_ok_iff.mp h
    obtain ⟨hname, hsfields⟩ := Schema.ofFields?_eq_ok_iff.mp hs
    exact ⟨hname, by rw [Schema.fieldNames, hsfields, names_of_mapM hfields]⟩

theorem exists_schema?_iff : (∃ s, d.schema? = .ok s) ↔ d.IsReadable := by
  constructor
  · rintro ⟨s, hs⟩
    have hnames : d.declared.Nodup := (schema?_eq_ok hs).2 ▸ s.nodup
    unfold schema? at hs
    split at hs
    · cases hs
    · rename_i hcomputed
      obtain ⟨fields, hfields, -⟩ := Except.bind_eq_ok_iff.mp hs
      obtain ⟨hadmissible, hresolves, haccepts⟩ :=
        forall_members_iff.mp (exists_mapM_readMember_iff.mp ⟨fields, hfields⟩)
      exact ⟨hcomputed, hadmissible, hresolves, haccepts, hnames⟩
  · rintro ⟨hcomputed, hadmissible, hresolves, haccepts, hnames⟩
    obtain ⟨fields, hfields⟩ := exists_mapM_readMember_iff.mpr
      (forall_members_iff.mpr ⟨hadmissible, hresolves, haccepts⟩)
    refine ⟨⟨d.name, fields, (names_of_mapM hfields).symm ▸ hnames⟩, ?_⟩
    simp only [schema?, hcomputed, hfields, Except.ok_bind]
    exact Schema.ofFields?_eq_ok_iff.mpr ⟨rfl, rfl⟩

end Definition

/-- **A definition has a schema exactly when nothing stands against it, and otherwise the first
thing that does is reported.**  The schema has the name of the record and its declared fields, in
order.  A computed field is reported before all others; of the declared fields the first with a
fault counts; and that two have one name is reported only if each is faultless by itself. -/
theorem Framework.read_all_or_first_error (d : Definition) :
    ((∃ s, d.framework.read d = .ok s) ↔ d.IsReadable) ∧
    (∀ s, d.framework.read d = .ok s → s.name = d.name ∧ s.fieldNames = d.declared) ∧
    ∀ e, d.framework.read d = .error e ↔
      (∃ field rest, d.computed = field :: rest ∧
        e = .unsupportedMember d.name field .computed) ∨
      d.computed = [] ∧ (d.members.IsFirstFault d.MemberError e ∨
        (∀ m ∈ d.members, ∀ e', ¬ d.MemberError m e') ∧
          ∃ n, IsFirstRepeated d.declared n ∧ e = .duplicateField d.name n) := by
  rw [Framework.read, if_pos rfl]
  exact ⟨Definition.exists_schema?_iff, fun s => Definition.schema?_eq_ok,
    fun e => Definition.schema?_eq_error_iff⟩

/-- In a named tuple an annotation under another name than its fields' is not read. -/
theorem Framework.read_all_or_first_error_point :
    ∃ s, namedTuple.read (.namedTuple ⟨"Point", .ofName "geometry", ["x", "y"],
        .ofList [("x", .resolved (.name "int")), ("z", .forward "Angle")],
        .ofList [("y", .int 0)]⟩) = .ok s ∧
      s.name = "Point" ∧ s.fieldNames = ["x", "y"] :=
  have h := read_all_or_first_error (.namedTuple ⟨"Point", .ofName "geometry", ["x", "y"],
    .ofList [("x", .resolved (.name "int")), ("z", .forward "Angle")], .ofList [("y", .int 0)]⟩)
  ⟨_, rfl, h.2.1 _ rfl⟩

end RecordForms
