import RecordForms.Definition.Reading
import RecordForms.Proofs.Definition.Slots

/-!
# Passing through frameworks

What is left of a schema after a definition has been built from it and read again, in one framework
or in several one after another.  Two things get lost: that a field has no type, where a framework
asks for one, and that a default is `None`, where a framework cannot tell it from no default.

## Main definitions

* `Field.through`, `Schema.through`: what the frameworks of a path leave of a field and of a schema

## Main results

* `Framework.schema?_build`: a definition has the schema it was built from, up to these losses
* `Framework.read_eq_schema?`: a framework reads the schema of its own definitions
* `Schema.through_through`: the losses of two paths add up
* `Schema.through_eq_self`: a typed schema without `None` loses nothing
-/

namespace RecordForms

/-- Whether a class of the framework can declare a field without a type. -/
def Framework.allowsUntyped : Framework → Bool
  | attrs | namedTuple => true
  | dataclasses | msgspec | pydanticV1 | pydanticV2 | typedDict => false

/-- What the frameworks of a path leave of a default: the first version of pydantic takes `None` for
no default. -/
def FieldDefault.through (path : List Framework) (d : FieldDefault) : FieldDefault :=
  if d = .value .none ∧ .pydanticV1 ∈ path then .absent else d

/-- What the frameworks of a path leave of a type: one that asks for types makes a missing type
`typing.Any`. -/
def typeThrough (path : List Framework) (type : Option TypeExpr) : Option TypeExpr :=
  if path.all Framework.allowsUntyped then type else some (type.getD (.name "typing.Any"))

/-- What the frameworks of a path leave of a field. -/
def Field.through (path : List Framework) (field : Field) : Field where
  name := field.name
  type := typeThrough path field.type
  default := field.default.through path

/-- What the frameworks of a path leave of a schema. -/
def Schema.through (path : List Framework) (s : Schema) : Schema where
  name := s.name
  fields := s.fields.map (Field.through path)
  nodup := by simpa [Function.comp_def, Field.through] using s.nodup

section Through

variable {path p q : List Framework}

theorem FieldDefault.through_through (d : FieldDefault) :
    (d.through p).through q = d.through (p ++ q) := by
  unfold through
  by_cases hp : d = .value .none ∧ .pydanticV1 ∈ p
  · simp [hp.1, hp.2]
  · by_cases hd : d = .value .none <;> simp_all

theorem typeThrough_typeThrough (type : Option TypeExpr) :
    typeThrough q (typeThrough p type) = typeThrough (p ++ q) type := by
  unfold typeThrough
  rw [List.all_append]
  by_cases hp : p.all Framework.allowsUntyped
  · simp only [hp, if_true, Bool.true_and]
  · simp only [hp, Bool.false_eq_true, if_false, Bool.false_and, Option.getD_some, ite_self]

theorem typeThrough_some (t : TypeExpr) : typeThrough path (some t) = some t :=
  ite_self _

theorem Field.through_through (field : Field) :
    (field.through p).through q = field.through (p ++ q) := by
  simp only [Field.through, typeThrough_typeThrough, FieldDefault.through_through]

/-- A typed field loses nothing, unless its default is `None` and there is a step through the first
version of pydantic. -/
theorem Field.through_eq_self {field : Field} (htype : field.type.isSome)
    (hnone : field.default ≠ .value .none ∨ .pydanticV1 ∉ path) : field.through path = field := by
  obtain ⟨t, ht⟩ := Option.isSome_iff_exists.mp htype
  have htype : typeThrough path field.type = field.type := by rw [ht, typeThrough_some]
  have hdefault : field.default.through path = field.default := if_neg (by tauto)
  unfold Field.through
  rw [htype, hdefault]

/-- A field that has a type, or may be without one, loses nothing on one way through a framework
that tells `None` from no default. -/
theorem Field.through_singleton {f : Framework} {field : Field}
    (htype : f.allowsUntyped ∨ field.type.isSome) (hf : f ≠ .pydanticV1) :
    field.through [f] = field := by
  rcases htype with hallows | htype
  · have hkeeps : typeThrough [f] field.type = field.type := if_pos (by simpa using hallows)
    have hdefault : field.default.through [f] = field.default := if_neg (by simp [hf.symm])
    unfold Field.through
    rw [hkeeps, hdefault]
  · exact Field.through_eq_self htype (Or.inr (by simpa using hf.symm))

/-- The losses of two paths add up. -/
theorem Schema.through_through (s : Schema) : (s.through p).through q = s.through (p ++ q) := by
  apply Schema.ext
  · rfl
  · simp [Schema.through, Function.comp_def, Field.through_through]

@[simp] theorem Schema.through_nil (s : Schema) : s.through [] = s := by
  have hfield (field : Field) : field.through [] = field := by
    simp [Field.through, typeThrough, FieldDefault.through]
  apply Schema.ext
  · rfl
  · simp [Schema.through, funext hfield]

/-- A typed schema without `None`, or without a step through the first version of pydantic, loses
nothing. -/
theorem Schema.through_eq_self {s : Schema} (htyped : ∀ field ∈ s.fields, field.type.isSome)
    (hnone : (∀ field ∈ s.fields, field.default ≠ .value .none) ∨ .pydanticV1 ∉ path) :
    s.through path = s := by
  apply Schema.ext
  · rfl
  · refine (List.map_congr_left fun field hf => ?_).trans (List.map_id _)
    exact Field.through_eq_self (htyped field hf) (hnone.imp_left fun h => h field hf)

end Through

namespace Framework

variable {f : Framework} {config : Config} {name : String} {scope : Namespace} {kwOnly : Bool}
  {pairs : List (Field × DefaultSlot)}

@[simp] theorem framework_describe : (f.describe name scope kwOnly pairs).framework = f := by
  cases f <;> rfl

@[simp] theorem name_describe : (f.describe name scope kwOnly pairs).name = name := by
  cases f <;> rfl

@[simp] theorem computed_describe : (f.describe name scope kwOnly pairs).computed = [] := by
  cases f <;> rfl

/-- The member that a definition declares for a field and the slot of its default. -/
def member (f : Framework) (p : Field × DefaultSlot) : Member where
  name := p.1.name
  fault := none
  annotation := (typeThrough [f] p.1.type).map .resolved
  default := p.2

/-- The value of a slot that holds one. -/
def slotValue? : DefaultSlot → Option Value
  | .value v => some v
  | .token _ | .factory _ => none

/-- A named tuple keeps the types and the values that there are. -/
theorem describe_namedTuple : namedTuple.describe name scope kwOnly pairs =
    .namedTuple ⟨name, scope, pairs.map fun p => p.1.name,
      .ofList (pairs.filterMap fun p => (p.1.type.map .resolved).map fun a => (p.1.name, a)),
      .ofList (pairs.filterMap fun p => (slotValue? p.2).map fun v => (p.1.name, v))⟩ := by
  dsimp only [describe]
  congr 3
  · congr 1
    funext ⟨field, slot⟩
    exact (Option.map_map ..).symm
  · congr 1
    funext ⟨field, slot⟩
    cases slot <;> rfl

/-- A named tuple reports the slots that it was given. -/
theorem reported_of_namedTuple {d : FieldDefault} {slot : DefaultSlot}
    (h : namedTuple.Fills config d slot) :
    (match slotValue? slot with
      | some v => .value v
      | none => .token .notPresent) = slot := by
  cases h with
  | token => rfl
  | factory hf => cases hf
  | value => rfl

/-- A typed dict has no defaults. -/
theorem slot_of_typedDict {d : FieldDefault} {slot : DefaultSlot}
    (h : typedDict.Fills config d slot) : .token .notPresent = slot := by
  cases h with
  | token => rfl
  | factory hf => cases hf
  | value hf hv => cases hv

/-- The members of a definition are its fields, in order. -/
theorem members_describe (hnames : (pairs.map fun p => p.1.name).Nodup)
    (hslots : ∀ p ∈ pairs, f.Fills config p.1.default p.2) :
    (f.describe name scope kwOnly pairs).members = pairs.map f.member := by
  have hentries {β : Type} (g : Field × DefaultSlot → β) :
      (NameMap.ofList (pairs.map fun p => (p.1.name, g p))).entries =
        pairs.map fun p => (p.1.name, g p) :=
    NameMap.entries_ofList_map (fun p : Field × DefaultSlot => p.1.name) g hnames
  cases f with
  | attrs | dataclasses | msgspec =>
    -- these hold a list of fields
    simp only [describe, Definition.members, List.map_map]
    rfl
  | namedTuple =>
    -- two maps beside the list of names: what is in neither map has no type or no default
    rw [describe_namedTuple]
    simp only [Definition.members, List.map_map]
    refine List.map_congr_left fun p hp => ?_
    have htype := NameMap.get?_ofList_filterMap (fun p : Field × DefaultSlot => p.1.name)
      (fun p => p.1.type.map Annotation.resolved) hnames hp
    have hvalue := NameMap.get?_ofList_filterMap (fun p : Field × DefaultSlot => p.1.name)
      (fun p => slotValue? p.2) hnames hp
    simp only [Function.comp_apply, htype, hvalue]
    exact congrArg (Member.mk p.1.name none (p.1.type.map .resolved))
      (reported_of_namedTuple (hslots p hp))
  | pydanticV1 | pydanticV2 =>
    -- one map, which lists the fields in the order of the schema
    simp only [describe, describe.pydanticFields, Definition.members, hentries, List.map_map]
    rfl
  | typedDict =>
    simp only [describe, Definition.members, hentries, List.map_map]
    refine List.map_congr_left fun p hp => ?_
    simp only [Function.comp_apply, member, slot_of_typedDict (hslots p hp)]
    rfl

/-- A slot is read as the default that fills it, up to `None`. -/
theorem Fills.readDefault {d : FieldDefault} {slot : DefaultSlot} (h : f.Fills config d slot)
    (record field : String) : f.readDefault record field slot = .ok (d.through [f]) := by
  cases h with
  | token => exact readDefault_absenceToken f record field
  | @factory v path _ hv =>
    -- the factory makes the very container it stands for, which is not `None`
    obtain ⟨hmutable, hempty⟩ := emptyFactory?_eq_some hv
    have hne : v ≠ .none := fun h => by subst h; cases hmutable
    simp [Framework.readDefault, hempty, FieldDefault.through, hne]
  | @value v =>
    by_cases hv : v = .none
    · cases f <;> simp [Framework.readDefault, readsNoneAsAbsent, FieldDefault.through, hv]
    · simp [Framework.readDefault, FieldDefault.through, hv]

/-- A member that was declared for a field is read as what the framework leaves of it. -/
theorem readMember_member {d : Definition} {p : Field × DefaultSlot} (hd : d.framework = f)
    (hslot : f.Fills config p.1.default p.2) :
    d.readMember (f.member p) = .ok (p.1.through [f]) := by
  have htype : d.readType p.1.name ((typeThrough [f] p.1.type).map .resolved) =
      .ok (typeThrough [f] p.1.type) := by
    cases typeThrough [f] p.1.type <;> rfl
  simp only [Definition.readMember, member, htype, hd, hslot.readDefault, Except.ok_bind]
  rfl

/-- A definition has the schema it was built from, up to the losses of its framework. -/
theorem schema?_build {s : Schema} {d : Definition} (h : f.build config s = .ok d) :
    d.schema? = .ok (s.through [f]) := by
  obtain ⟨kwOnly, pairs, -, hfields, hslots, rfl⟩ := exists_slots_of_build h
  have hnames := nodup_names hfields
  have hread : (pairs.map f.member).mapM
      (f.describe s.name (config.target s.name) kwOnly pairs).readMember =
        .ok (s.fields.map (Field.through [f])) := by
    rw [List.mapM_map, ← hfields, List.map_map]
    exact Except.mapM_eq_ok_map fun p hp => readMember_member framework_describe (hslots p hp)
  unfold Definition.schema?
  simp only [computed_describe, members_describe hnames hslots, hread, name_describe,
    Except.ok_bind]
  exact Schema.ofFields?_eq_ok_iff.mpr ⟨rfl, rfl⟩

theorem framework_of_build {s : Schema} {d : Definition} (h : f.build config s = .ok d) :
    d.framework = f := by
  obtain ⟨kwOnly, pairs, -, -, -, rfl⟩ := exists_slots_of_build h
  exact framework_describe

theorem name_of_build {s : Schema} {d : Definition} (h : f.build config s = .ok d) :
    d.name = s.name := by
  obtain ⟨kwOnly, pairs, -, -, -, rfl⟩ := exists_slots_of_build h
  exact name_describe

/-- A framework reads the schema of its own definitions. -/
theorem read_eq_schema? {d : Definition} (h : d.framework = f) : f.read d = d.schema? :=
  if_pos h

/-- **A definition that was built is read as the schema it was built from**, but for two losses: a
missing type is `typing.Any` where the framework asks for types, and `None` is no default where the
framework cannot tell the two apart. -/
theorem read_of_build {s : Schema} {d : Definition} (h : f.build config s = .ok d) :
    f.read d = .ok (s.through [f]) := by
  rw [read_eq_schema? (framework_of_build h)]
  exact schema?_build h

theorem read_of_build_pydanticV1 :
    ∃ d, pydanticV1.build {} ⟨"Job", [⟨"owner", none, .value .none⟩,
        ⟨"tags", some (.name "list"), .value (.list [])⟩], by decide⟩ = .ok d ∧
      pydanticV1.read d = .ok ⟨"Job", [⟨"owner", some (.name "typing.Any"), .absent⟩,
        ⟨"tags", some (.name "list"), .value (.list [])⟩], by decide⟩ := by
  obtain ⟨d, hd⟩ : ∃ d, pydanticV1.build {} ⟨"Job", [⟨"owner", none, .value .none⟩,
      ⟨"tags", some (.name "list"), .value (.list [])⟩], by decide⟩ = .ok d := ⟨_, rfl⟩
  exact ⟨d, hd, (read_of_build hd).trans (by decide)⟩

end Framework

end RecordForms
