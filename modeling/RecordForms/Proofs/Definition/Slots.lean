import RecordForms.Definition.Building
import RecordForms.Proofs.Except

/-!
# The slots of a definition

What a framework puts into the slot of a default, and what it builds from a schema that it accepts:
one slot for every field, described in the order of the fields.

## Main definitions

* `Framework.Fills config`: the slots that a framework gives a default

## Main results

* `Framework.slot?_eq_ok_iff`: a field has a slot exactly if its default can be filled in
* `Framework.exists_build`: a definition is built if every default fills a slot
* `Framework.exists_slots_of_build`: a definition that was built describes a slot for every field
-/

namespace RecordForms.Framework

variable {f : Framework} {config : Config} {record : String} {field : Field} {slot : DefaultSlot}

/-- The slots that a framework gives a default. -/
inductive Fills (f : Framework) (config : Config) : FieldDefault → DefaultSlot → Prop
  /-- No default is the framework's own token. -/
  | token : Fills f config .absent (.token f.absenceToken)
  /-- An empty container is made by its factory. -/
  | factory {v : Value} {path : String} (hf : f.usesFactories = true)
    (hv : emptyFactory? config v = some path) : Fills f config (.value v) (.factory path)
  /-- Any other value stands for itself, unless the framework refuses it. -/
  | value {v : Value} (hf : f.usesFactories = true → emptyFactory? config v = none)
    (hv : f.refusal? v = none) : Fills f config (.value v) (.value v)

/-- A field has a slot exactly if its default can be filled in. -/
theorem slot?_eq_ok_iff :
    f.slot? config record field = .ok slot ↔ f.Fills config field.default slot := by
  unfold slot? writeDefault
  cases hd : field.default with
  | absent =>
    simp only [Except.ok.injEq]
    exact ⟨fun h => h ▸ .token, fun h => by cases h; rfl⟩
  | value v =>
    simp only
    -- a factory is tried first, and a value is refused only where it stands for itself
    cases hp : (if f.usesFactories then emptyFactory? config v else none) with
    | some path =>
      have hf : f.usesFactories = true := by
        by_contra hf
        simp [hf] at hp
      rw [if_pos hf] at hp
      simp only [Except.ok.injEq]
      constructor
      · rintro rfl
        exact .factory hf hp
      · rintro (_ | ⟨-, hv⟩ | ⟨hn, -⟩)
        · rw [hp, Option.some.injEq] at hv
          rw [hv]
        · rw [hn hf] at hp
          cases hp
    | none =>
      have hn (hf : f.usesFactories = true) : emptyFactory? config v = none := by
        rwa [if_pos hf] at hp
      cases hr : f.refusal? v with
      | none =>
        simp only [Except.ok.injEq]
        constructor
        · rintro rfl
          exact .value hn hr
        · rintro (_ | ⟨hf, hv⟩ | -)
          · rw [hn hf] at hv
            cases hv
          · rfl
      | some fault =>
        refine ⟨nofun, ?_⟩
        rintro (_ | ⟨hf, hv⟩ | ⟨-, hv⟩)
        · rw [hn hf] at hv
          cases hv
        · rw [hr] at hv
          cases hv

/-- A factory stands only for an empty list, dict or set, which it makes. -/
theorem emptyFactory?_eq_some {v : Value} {path : String}
    (h : emptyFactory? config v = some path) :
    v.isMutable = true ∧ emptyOfFactory? path = some v := by
  unfold emptyFactory? at h
  split at h
  · rename_i hv
    exact ⟨(Bool.and_eq_true_iff.mp hv).1, emptyOfFactory?_factoryOfEmpty? h⟩
  · cases h

/-- A value that the framework does not refuse fills a slot, by itself or by a factory. -/
theorem exists_fills {v : Value} (h : f.refusal? v = none) :
    ∃ slot, f.Fills config (.value v) slot := by
  by_cases huses : f.usesFactories
  · cases hv : emptyFactory? config v with
    | some path => exact ⟨.factory path, .factory huses hv⟩
    | none => exact ⟨.value v, .value (fun _ => hv) h⟩
  · exact ⟨.value v, .value (fun hf => absurd hf huses) h⟩

/-- Where classes may ask for keywords, no order of the fields stands against a definition, unless
the framework knows positions only. -/
theorem exists_keywordOnly? (hf : f.ordering ≠ .positional)
    (hconfig : config.ordering = .keywordOnly) (s : Schema) :
    ∃ kwOnly, f.keywordOnly? config s = .ok kwOnly := by
  unfold keywordOnly?
  cases s.orderViolation? with
  | none => exact ⟨false, rfl⟩
  | some p =>
    rw [hconfig]
    cases hordering : f.ordering with
    | unconstrained => exact ⟨false, rfl⟩
    | keywordOnlyFallback => exact ⟨true, rfl⟩
    | positional => exact absurd hordering hf

/-- A definition is built if its order is accepted and every default fills a slot. -/
theorem exists_build {s : Schema} (horder : ∃ kwOnly, f.keywordOnly? config s = .ok kwOnly)
    (hslots : ∀ field ∈ s.fields, ∃ slot, f.Fills config field.default slot) :
    ∃ d, f.build config s = .ok d := by
  obtain ⟨kwOnly, hk⟩ := horder
  obtain ⟨slots, hs⟩ : ∃ slots, s.fields.mapM (f.slot? config s.name) = .ok slots :=
    Except.exists_mapM fun field hfield =>
      (hslots field hfield).imp fun _ hslot => slot?_eq_ok_iff.mpr hslot
  exact ⟨_, Except.bind_eq_ok_iff.mpr ⟨kwOnly, hk, Except.bind_eq_ok_iff.mpr ⟨slots, hs, rfl⟩⟩⟩

/-- What is built from a schema describes its fields, each with a slot that its default fills. -/
theorem exists_slots_of_build {s : Schema} {d : Definition} (h : f.build config s = .ok d) :
    ∃ kwOnly pairs, f.keywordOnly? config s = .ok kwOnly ∧ pairs.map Prod.fst = s.fields ∧
      (∀ p ∈ pairs, f.Fills config p.1.default p.2) ∧
      d = f.describe s.name (config.target s.name) kwOnly pairs := by
  -- The two steps that may fail; the rest of the construction does not.
  obtain ⟨kwOnly, hk, h⟩ := Except.bind_eq_ok_iff.mp h
  obtain ⟨slots, hs, h⟩ := Except.bind_eq_ok_iff.mp h
  obtain ⟨hlen, hfills⟩ := List.forall₂_iff_zip.mp (Except.mapM_eq_ok_iff.mp hs)
  refine ⟨kwOnly, s.fields.zip slots, hk, List.map_fst_zip (Nat.le_of_eq hlen), ?_,
    (Except.ok.inj h).symm⟩
  rintro ⟨field, slot⟩ hp
  exact slot?_eq_ok_iff.mp (hfills hp)

/-- The names of a schema differ, so no entry of a map takes the place of another one. -/
theorem nodup_names {s : Schema} {pairs : List (Field × DefaultSlot)}
    (hfields : pairs.map Prod.fst = s.fields) : (pairs.map fun p => p.1.name).Nodup := by
  have h := s.nodup
  rwa [← hfields, List.map_map] at h

end RecordForms.Framework
