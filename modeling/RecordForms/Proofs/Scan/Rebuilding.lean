import RecordForms.Proofs.Definition.Passage
import RecordForms.Proofs.Scan.Defaults

/-!
# Building what was scanned

A record of a source file can be built again in its own framework, and the definition has the schema
that was scanned.  The reader of syntax trees is as strict as the builder: it refuses a default that
a dataclass could not hold, takes `...` in a pydantic model for no default, finds no default in a
typed dict, and finds a type wherever one is needed.

## Main results

* `Scan.isSome_annotation`: a field without a type is declared in attrs classes only
* `Scan.Declares.exists_fills`: the default of a scanned field fills a slot of its framework
* `Scan.rebuilt_of_records`: a scanned record is built and read again as it was
-/

namespace RecordForms

namespace Scan

variable {p : Place} {d : Declaration} {field : Field} {f : Framework}

/-! ### Types -/

theorem eq_some_of_bind_field? {found : Option Declaration}
    (h : found.bind Declaration.field? = some d) : found = some d := by
  cases found with
  | none => cases h
  | some d' =>
    rw [Option.bind_some, Declaration.field?] at h
    split at h
    · exact h
    · cases h

/-- In the body of a class, what is not declared by an annotation is declared by a call, which only
attrs classes have. -/
theorem isSome_of_mem_memberDeclarations {body : List Stmt} (hd : d ∈ memberDeclarations f body)
    (hf : f ≠ .attrs) : d.annotation.isSome := by
  obtain ⟨s, -, h⟩ := List.mem_filterMap.mp hd
  have hmember := eq_some_of_bind_field? h
  unfold memberDeclaration? at hmember
  split at hmember
  · obtain rfl := Option.some.inj hmember
    rfl
  · rw [if_neg (by simp [hf])] at hmember
    cases hmember
  · cases hmember

/-- Every entry of a list of fields has a type; a name alone has any. -/
theorem isSome_of_mem_entryDeclarations {span : Span} {entries : List Expr}
    (hd : d ∈ entryDeclarations span entries) : d.annotation.isSome := by
  obtain ⟨e, -, h⟩ := List.mem_filterMap.mp hd
  have hentry := eq_some_of_bind_field? h
  unfold entryDeclaration? at hentry
  split at hentry
  · obtain rfl := Option.some.inj hentry
    rfl
  · obtain rfl := Option.some.inj hentry
    rfl
  · obtain rfl := Option.some.inj hentry
    rfl
  · cases hentry

/-- A field without a type is declared in attrs classes only. -/
theorem isSome_annotation {s : Stmt} (hd : d ∈ declarations f s) (hf : f ≠ .attrs) :
    d.annotation.isSome := by
  cases s with
  | classDef c => exact isSome_of_mem_memberDeclarations hd hf
  | assign targets value span =>
    cases value with
    | call func args keywords =>
      rw [declarations] at hd
      cases hparts : functionalParts? args with
      | none =>
        rw [hparts] at hd
        cases hd
      | some parts =>
        rw [hparts] at hd
        exact isSome_of_mem_entryDeclarations hd
    | _ => cases hd
  | _ => cases hd

/-! ### Defaults -/

/-- Of the values that instances would share, a dataclass has the empty ones, made by a factory. -/
theorem exists_fills_dataclasses {v : Value} (h : v.isMutable → v.isEmptyContainer) :
    ∃ slot, Framework.dataclasses.Fills {} (.value v) slot := by
  by_cases hmutable : v.isMutable
  · obtain ⟨path, hpath⟩ := exists_factoryOfEmpty? hmutable (h hmutable)
    refine ⟨.factory path, .factory rfl ?_⟩
    rw [Framework.emptyFactory?, hmutable]
    exact hpath
  · exact Framework.exists_fills (by simp [Framework.refusal?, hmutable])

/-- The default of a scanned field fills a slot of its framework. -/
theorem Declares.exists_fills (h : Declares p d field)
    (hp : p.framework ∈ [.attrs, .dataclasses, .pydanticV2, .typedDict]) :
    ∃ slot, p.framework.Fills {} field.default slot := by
  obtain ⟨-, -, hnone, slot, hslot, hdefault⟩ := h.exists_slot
  obtain ⟨hwritten, hmutable⟩ := Place.written_readValue hslot
  cases hfield : field.default with
  | absent => exact ⟨_, .token⟩
  | value v =>
    rw [hfield] at hdefault
    have hv := eq_value_or_isEmptyContainer hdefault
    simp only [List.mem_cons, List.not_mem_nil, or_false] at hp
    rcases hp with hf | hf | hf | hf
    · -- an attrs class holds any value
      rw [hf]
      exact Framework.exists_fills rfl
    · -- the reader has refused a value that instances would share
      rw [hf]
      refine exists_fills_dataclasses fun hshared => ?_
      rcases hv with hvalue | ⟨-, hempty⟩
      · rw [hmutable hf v hvalue] at hshared
        cases hshared
      · exact hempty
    · -- the reader has taken `...` for no default
      rw [hf]
      refine Framework.exists_fills (if_neg ?_)
      rcases hv with rfl | ⟨-, hempty⟩
      · exact hwritten.ne_ellipsis hf
      · rintro rfl
        cases hempty
    · -- the reader has refused every value
      rw [hnone hf] at hslot
      obtain rfl := Except.ok.inj hslot
      rcases hv with hvalue | ⟨⟨path, hfactory⟩, -⟩
      · cases hvalue
      · cases hfactory

/-! ### Records -/

/-- A scanned record is accepted by its framework and comes back as it was. -/
theorem rebuilt_of_readRecord {scope : Namespace} {s : Stmt} {r : ScannedRecord}
    (h : readRecord scope s = .ok (some r))
    (hr : r.framework ∈ [.attrs, .dataclasses, .pydanticV2, .typedDict]) :
    ∃ d, r.framework.build {} r.schema = .ok d ∧ r.framework.read d = .ok r.schema := by
  obtain ⟨p, hp, hdeclared⟩ := exists_declares h
  have hall : ∀ f ∈ [Framework.attrs, .dataclasses, .pydanticV2, .typedDict],
      f.ordering ≠ .positional ∧ f ≠ .pydanticV1 := by decide
  obtain ⟨hordering, hversion⟩ := hall r.framework hr
  have hslots : ∀ field ∈ r.schema.fields, ∃ slot, r.framework.Fills {} field.default slot := by
    intro field hfield
    obtain ⟨d, -, hd⟩ := hdeclared field hfield
    rw [← hp] at hr ⊢
    exact hd.exists_fills hr
  -- an untyped field would gain `typing.Any` on the way, but only attrs classes declare one
  have htyped : ∀ field ∈ r.schema.fields, r.framework.allowsUntyped ∨ field.type.isSome := by
    intro field hfield
    obtain ⟨d, hmem, hd⟩ := hdeclared field hfield
    by_cases hf : r.framework = .attrs
    · rw [hf]
      exact Or.inl rfl
    · right
      rw [hd.exists_slot.2.1]
      exact isSome_annotation hmem hf
  have hkept : r.schema.through [r.framework] = r.schema := by
    refine Schema.ext rfl ((List.map_congr_left fun field hfield => ?_).trans (List.map_id _))
    exact Field.through_singleton (htyped field hfield) hversion
  -- any order of the fields is accepted: the default configuration asks for keywords
  have horder : ∃ kwOnly, r.framework.keywordOnly? {} r.schema = .ok kwOnly :=
    Framework.exists_keywordOnly? hordering rfl r.schema
  obtain ⟨d, hd⟩ := Framework.exists_build horder hslots
  refine ⟨d, hd, ?_⟩
  rw [Framework.read_eq_schema? (Framework.framework_of_build hd), Framework.schema?_build hd,
    hkept]

/-- **What was scanned can be built again**, in an attrs class, a dataclass, a pydantic model or a
typed dict: under the default configuration the framework of the record accepts its schema, and
reads it from the definition without any loss. -/
theorem rebuilt_of_records {body : List Stmt} {rs : List ScannedRecord} {r : ScannedRecord}
    (h : records body = .ok rs) (hr : r ∈ rs)
    (hf : r.framework ∈ [.attrs, .dataclasses, .pydanticV2, .typedDict]) :
    ∃ d, r.framework.build {} r.schema = .ok d ∧ r.framework.read d = .ok r.schema := by
  obtain ⟨s, -, hread⟩ := exists_of_mem_readRecords h hr
  exact rebuilt_of_readRecord hread hf

/-- A module with a dataclass, in which a field without a default follows one with a factory. -/
def tagsBody : List Stmt :=
  [.importModules [⟨"dataclasses", none⟩] ⟨1, 0⟩,
    .classDef ⟨"Job", [], [], [.attr (.name "dataclasses") "dataclass"],
      [.annAssign (.name "tags") (.subscript (.name "list") (.name "str"))
          (some (.call (.attr (.name "dataclasses") "field") []
            [⟨some "default_factory", .name "list"⟩])) ⟨5, 4⟩,
        .annAssign (.name "owner") (.name "str") none ⟨6, 4⟩], ⟨4, 0⟩⟩]

theorem rebuilt_of_records_tags : ∃ r, records tagsBody = .ok [r] ∧ r.framework = .dataclasses ∧
    ∃ d, r.framework.build {} r.schema = .ok d ∧ r.framework.read d = .ok r.schema := by
  obtain ⟨r, hread, hf⟩ : ∃ r, records tagsBody = .ok [r] ∧ r.framework = .dataclasses :=
    ⟨⟨.dataclasses, ⟨"Job", [⟨"tags", some (.generic "list" [.name "str"]), .value (.list [])⟩,
      ⟨"owner", some (.name "str"), .absent⟩], by decide⟩, [], ⟨4, 0⟩⟩, rfl, rfl⟩
  refine ⟨r, hread, hf, rebuilt_of_records hread List.mem_cons_self ?_⟩
  rw [hf]
  decide

end Scan

end RecordForms
