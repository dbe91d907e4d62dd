import RecordForms.Proofs.Definition.Passage
import RecordForms.Proofs.Schema.Order

/-!
# Definitions that their frameworks accept

A framework refuses a class at the time it is defined if a required field follows one with a
default, or if a default cannot stand where it is.  What is built from a schema is never refused:
the order of the fields is decided once, on the schema, and the slots of the defaults keep it.

## Main definitions

* `Definition.Declares d s`: `d` declares the fields of `s`, required where they have no default
* `DefaultsLast slots`: no slot without a default follows one with a default
* `Positional config s kwOnly slots`: what is asked of a class that may ask for keywords
* `Definition.Accepted config s d`: what the framework of `d` asks of it

## Main results

* `Framework.keywordOnly?_eq_ok`: when a class asks for keywords, and when it need not
* `Framework.accepted_of_build`: what is built declares the fields of its schema and is accepted
-/

namespace RecordForms

/-- Whether a slot gives a default: a value, or a factory that makes one. -/
def DefaultSlot.hasDefault : DefaultSlot → Bool
  | .token _ => false
  | .value _ | .factory _ => true

/-- Whether no slot without a default follows one with a default. -/
def DefaultsLast (slots : List DefaultSlot) : Prop :=
  slots.Pairwise fun before after => before.hasDefault → after.hasDefault

/-- Whether a definition declares the fields of a schema: the same names in the same order, and just
where there is no default its framework's own token. -/
def Definition.Declares (d : Definition) (s : Schema) : Prop :=
  List.Forall₂ (fun field member => member.name = field.name ∧
    (field.default = .absent ↔ member.default = .token d.framework.absenceToken)) s.fields d.members

/-- What is asked of a class whose instances are built by position unless it asks for keywords. -/
structure Positional (config : Config) (s : Schema) (kwOnly : Bool) (slots : List DefaultSlot) :
    Prop where
  kwOnly_iff : kwOnly = true ↔ s.orderViolation?.isSome ∧ config.ordering = .keywordOnly
  defaultsLast : kwOnly = false → DefaultsLast slots

/-- What the framework of a definition asks of it, where the definition was built from the schema
`s`. -/
def Definition.Accepted (config : Config) (s : Schema) : Definition → Prop
  | attrs c => Positional config s c.kwOnly (c.attributes.map AttrsAttribute.default)
  | dataclass c =>
    -- no default that instances would share
    Positional config s c.kwOnly (c.fields.map DataclassField.default) ∧
      ∀ field ∈ c.fields, ∀ v, field.default = .value v → v.isMutable = false
  | struct c =>
    -- of such defaults only the empty ones, which are copied
    Positional config s c.kwOnly (c.fields.map StructField.default) ∧
      ∀ field ∈ c.fields, ∀ v, field.default = .value v → v.isMutable → v.isEmptyContainer
  | namedTuple c =>
    c.defaults.names <:+ c.fields ∧ (∀ name ∈ c.annotations.names, name ∈ c.fields) ∧
      ∀ field ∈ s.fields, field.default = .absent → c.defaults.get? field.name = none
  | pydantic c => ∀ entry ∈ c.fields.entries, entry.2.default ≠ .value .ellipsis
  | typedDict c =>
    (∀ name, name ∈ c.required.names ↔ name ∈ c.annotations.names) ∧ c.optional = .empty

namespace Framework

variable {f : Framework} {config : Config} {s : Schema} {d : Definition} {kwOnly : Bool}
  {pairs : List (Field × DefaultSlot)}

/-- A class that may ask for keywords does so where the order is violated; a class that has no such
choice keeps the order. -/
theorem keywordOnly?_eq_ok (h : f.keywordOnly? config s = .ok kwOnly) :
    (f.ordering = .keywordOnlyFallback →
      (kwOnly = true ↔ s.orderViolation?.isSome ∧ config.ordering = .keywordOnly) ∧
        (kwOnly = false → s.orderViolation? = none)) ∧
      (f.ordering = .positional → s.orderViolation? = none) := by
  unfold keywordOnly? at h
  cases hviolation : s.orderViolation? with
  | none =>
    rw [hviolation] at h
    obtain rfl := Except.ok.inj h
    simp
  | some p =>
    obtain ⟨field, after⟩ := p
    rw [hviolation] at h
    cases hordering : f.ordering <;> cases hpolicy : config.ordering <;>
      simp_all

/-! ### The slots of a definition -/

theorem Fills.hasDefault {default : FieldDefault} {slot : DefaultSlot}
    (h : f.Fills config default slot) : slot.hasDefault = default.isPresent := by
  cases h with
  | token => rfl
  | factory => rfl
  | value => rfl

/-- Just where there is no default the slot holds the framework's own token. -/
theorem Fills.absent_iff {default : FieldDefault} {slot : DefaultSlot}
    (h : f.Fills config default slot) : default = .absent ↔ slot = .token f.absenceToken := by
  cases h with
  | token => simp
  | factory => simp
  | value => simp

/-- The slots of a schema in order are in order. -/
theorem defaultsLast_of_fills (hslots : ∀ p ∈ pairs, f.Fills config p.1.default p.2)
    (hfields : pairs.map Prod.fst = s.fields) (horder : s.orderViolation? = none) :
    DefaultsLast (pairs.map Prod.snd) := by
  rw [Schema.orderViolation?_eq_none_iff, ← hfields, InOrder, List.pairwise_map] at horder
  rw [DefaultsLast, List.pairwise_map]
  refine horder.imp_of_mem fun {p q} hp hq himp hdefault => ?_
  rw [(hslots q hq).hasDefault]
  rw [(hslots p hp).hasDefault] at hdefault
  exact himp hdefault

theorem positional_of_fills (hk : f.keywordOnly? config s = .ok kwOnly)
    (hslots : ∀ p ∈ pairs, f.Fills config p.1.default p.2)
    (hfields : pairs.map Prod.fst = s.fields) (hordering : f.ordering = .keywordOnlyFallback) :
    Positional config s kwOnly (pairs.map Prod.snd) := by
  obtain ⟨hkwOnly, horder⟩ := (keywordOnly?_eq_ok hk).1 hordering
  exact ⟨hkwOnly, fun h => defaultsLast_of_fills hslots hfields (horder h)⟩

/-! ### Named tuples -/

theorem fst_filterMap_eq {α β : Type} (key : α → String) (value? : α → Option β) {l : List α}
    (h : ∀ a ∈ l, (value? a).isSome) :
    (l.filterMap fun a => (value? a).map fun v => (key a, v)).map Prod.fst = l.map key := by
  induction l with
  | nil => rfl
  | cons a l ih =>
    rw [List.forall_mem_cons] at h
    obtain ⟨v, hv⟩ := Option.isSome_iff_exists.mp h.1
    simp only [List.filterMap_cons, hv, Option.map_some, List.map_cons, ih h.2]

/-- Names with a value, if they are last among all names, are a suffix of them. -/
theorem fst_filterMap_suffix {α β : Type} (key : α → String) (value? : α → Option β) {l : List α}
    (h : l.Pairwise fun a b => (value? a).isSome → (value? b).isSome) :
    (l.filterMap fun a => (value? a).map fun v => (key a, v)).map Prod.fst <:+ l.map key := by
  induction l with
  | nil => exact List.suffix_rfl
  | cons a l ih =>
    cases ha : value? a with
    | none =>
      simp only [List.filterMap_cons, ha, Option.map_none, List.map_cons]
      exact (ih (List.pairwise_cons.mp h).2).trans (List.suffix_cons (key a) _)
    | some v =>
      -- whatever follows has a value too, so no name is left out
      have hall : ∀ b ∈ a :: l, (value? b).isSome := by
        have ha' : (value? a).isSome := Option.isSome_of_eq_some ha
        rw [List.forall_mem_cons]
        exact ⟨ha', fun b hb => (List.pairwise_cons.mp h).1 b hb ha'⟩
      exact ⟨[], fst_filterMap_eq key value? hall⟩

/-- The slot of a default in a named tuple holds a value just where there is a default. -/
theorem slotValue?_of_fills {default : FieldDefault} {slot : DefaultSlot}
    (h : namedTuple.Fills config default slot) :
    (slotValue? slot).isSome = slot.hasDefault := by
  cases h with
  | token => rfl
  | factory hf => cases hf
  | value => rfl

theorem accepted_namedTuple {name : String} {scope : Namespace}
    (hslots : ∀ p ∈ pairs, namedTuple.Fills config p.1.default p.2)
    (hfields : pairs.map Prod.fst = s.fields) (horder : s.orderViolation? = none) :
    (namedTuple.describe name scope kwOnly pairs).Accepted config s := by
  have hnames := nodup_names hfields
  rw [describe_namedTuple]
  refine ⟨?_, ?_, ?_⟩
  · -- the fields with a default are last, and their names are the keys of the map of defaults
    have hlast := defaultsLast_of_fills hslots hfields horder
    rw [DefaultsLast, List.pairwise_map] at hlast
    have hvalues : pairs.Pairwise fun p q => (slotValue? p.2).isSome → (slotValue? q.2).isSome := by
      refine hlast.imp_of_mem fun {p q} hp hq himp => ?_
      rwa [slotValue?_of_fills (hslots p hp), slotValue?_of_fills (hslots q hq)]
    have hkeys := NameMap.fst_filterMap_sublist (fun p : Field × DefaultSlot => p.1.name)
      (fun p => slotValue? p.2) pairs
    rw [NameMap.names, NameMap.entries_ofList (hnames.sublist hkeys)]
    exact fst_filterMap_suffix (fun p : Field × DefaultSlot => p.1.name) (fun p => slotValue? p.2)
      hvalues
  · have hkeys := NameMap.fst_filterMap_sublist (fun p : Field × DefaultSlot => p.1.name)
      (fun p => p.1.type.map Annotation.resolved) pairs
    intro key hkey
    rw [NameMap.names, NameMap.entries_ofList (hnames.sublist hkeys)] at hkey
    exact hkeys.subset hkey
  · intro field hfield habsent
    rw [← hfields] at hfield
    obtain ⟨p, hp, rfl⟩ := List.mem_map.mp hfield
    have hslot : p.2 = .token namedTuple.absenceToken := (hslots p hp).absent_iff.mp habsent
    have hget := NameMap.get?_ofList_filterMap (fun p : Field × DefaultSlot => p.1.name)
      (fun p => slotValue? p.2) hnames hp
    rw [hget, hslot]
    rfl

/-! ### Definitions -/

/-- A definition declares the fields that it was built from. -/
theorem declares_describe {name : String} {scope : Namespace}
    (hslots : ∀ p ∈ pairs, f.Fills config p.1.default p.2)
    (hfields : pairs.map Prod.fst = s.fields) :
    (f.describe name scope kwOnly pairs).Declares s := by
  have hnames := nodup_names hfields
  rw [Definition.Declares, members_describe hnames hslots, ← hfields, List.forall₂_map_left_iff,
    List.forall₂_map_right_iff, List.forall₂_same, framework_describe]
  intro p hp
  exact ⟨rfl, (hslots p hp).absent_iff⟩

/-- A value in a slot is none that the framework refuses. -/
theorem refusal?_eq_none (hslots : ∀ p ∈ pairs, f.Fills config p.1.default p.2)
    {p : Field × DefaultSlot} (hp : p ∈ pairs) {v : Value} (hv : p.2 = .value v) :
    f.refusal? v = none := by
  have hfills := hslots p hp
  rw [hv] at hfills
  generalize p.1.default = default at hfills
  cases hfills with
  | value _ hrefusal => exact hrefusal

theorem accepted_describe {name : String} {scope : Namespace}
    (hk : f.keywordOnly? config s = .ok kwOnly)
    (hslots : ∀ p ∈ pairs, f.Fills config p.1.default p.2)
    (hfields : pairs.map Prod.fst = s.fields) :
    (f.describe name scope kwOnly pairs).Accepted config s := by
  have hnames := nodup_names hfields
  have hentries {β : Type} (g : Field × DefaultSlot → β) :
      (NameMap.ofList (pairs.map fun p => (p.1.name, g p))).entries =
        pairs.map fun p => (p.1.name, g p) :=
    NameMap.entries_ofList_map (fun p : Field × DefaultSlot => p.1.name) g hnames
  cases f with
  | attrs =>
    have hpositional := positional_of_fills hk hslots hfields rfl
    simpa [describe, Definition.Accepted, Function.comp_def] using hpositional
  | dataclasses =>
    have hpositional := positional_of_fills hk hslots hfields rfl
    refine ⟨by simpa [Function.comp_def] using hpositional, ?_⟩
    intro field hfield v hv
    obtain ⟨p, hp, rfl⟩ := List.mem_map.mp hfield
    simpa [refusal?] using refusal?_eq_none hslots hp hv
  | msgspec =>
    have hpositional := positional_of_fills hk hslots hfields rfl
    refine ⟨by simpa [Function.comp_def] using hpositional, ?_⟩
    intro field hfield v hv
    obtain ⟨p, hp, rfl⟩ := List.mem_map.mp hfield
    simpa [refusal?] using refusal?_eq_none hslots hp hv
  | namedTuple => exact accepted_namedTuple hslots hfields ((keywordOnly?_eq_ok hk).2 rfl)
  | pydanticV1 | pydanticV2 =>
    simp only [describe, describe.pydanticFields, Definition.Accepted, hentries]
    intro entry hentry hv
    obtain ⟨p, hp, rfl⟩ := List.mem_map.mp hentry
    have hrefusal := refusal?_eq_none hslots hp hv
    simp [refusal?] at hrefusal
  | typedDict =>
    simp only [describe, Definition.Accepted, NameMap.names, hentries]
    refine ⟨fun key => ?_, trivial⟩
    rw [NameSet.mem_ofList, List.map_map]
    rfl

/-- **What is built from a schema is accepted by its framework**, under every configuration: it
declares the fields of the schema, and no default stands where the framework refuses one. -/
theorem accepted_of_build (h : f.build config s = .ok d) :
    d.framework = f ∧ d.Declares s ∧ d.Accepted config s := by
  obtain ⟨kwOnly, pairs, hk, hfields, hslots, rfl⟩ := exists_slots_of_build h
  exact ⟨framework_describe, declares_describe hslots hfields,
    accepted_describe hk hslots hfields⟩

/-- A schema whose required field follows a default that instances would share. -/
def jobSchema : Schema where
  name := "Job"
  fields := [⟨"tags", some (.name "list"), .value (.list [])⟩, ⟨"owner", none, .absent⟩]
  nodup := by decide

theorem accepted_of_build_job : ∃ d, dataclasses.build {} jobSchema = .ok d ∧
    d.framework = dataclasses ∧ d.Declares jobSchema ∧ d.Accepted {} jobSchema := by
  obtain ⟨d, hd⟩ : ∃ d, dataclasses.build {} jobSchema = .ok d := ⟨_, rfl⟩
  exact ⟨d, hd, accepted_of_build hd⟩

end Framework

end RecordForms
