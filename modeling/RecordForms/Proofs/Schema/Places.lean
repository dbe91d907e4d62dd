import Mathlib.Data.List.Nodup
import RecordForms.Proofs.Schema.Order

/-!
# Where the order of fields is violated

Whether fields are in order, and where they are not, depends only on which of them have a default.
The two fields that are reported stand next to each other: at the first place that has no default
but has one somewhere before it, and at the place right before that.

## Main definitions

* `IsLate defaults j`: there is no default at place `j`, but one at some place before it
* `IsFirstLate defaults j`: `j` is the first such place
* `Schema.violationPlaces?`: the places of the two fields that are reported

## Main results

* `inOrder_iff_exists_append`: fields are in order if those with a default come last
* `isViolation_iff`: the two fields that are reported, by their places
* `Schema.orderViolation?_exact`: what is reported, and that only the defaults matter for it
-/

namespace RecordForms

/-- Whether there is no default at place `j`, but one at some place before it. -/
def IsLate (defaults : List Bool) (j : Nat) : Prop :=
  defaults[j]? = some false ∧ ∃ i < j, defaults[i]? = some true

/-- Whether `j` is the first place without a default that has one before it. -/
def IsFirstLate (defaults : List Bool) (j : Nat) : Prop :=
  IsLate defaults j ∧ ∀ k < j, ¬ IsLate defaults k

/-- The places, among the fields, of the field that is out of order and of the one before it. -/
def Schema.violationPlaces? (s : Schema) : Option (Nat × Nat) :=
  s.orderViolation?.map fun p => (s.fields.idxOf p.1, s.fields.idxOf p.2)

variable {fields : List Field} {field after : Field} {defaults rest : List Bool} {i j k : Nat}

/-! ### Fields in order -/

/-- Fields are in order just if they are some without a default and after them some with one. -/
theorem inOrder_iff_exists_append : InOrder fields ↔
    ∃ required optional, fields = required ++ optional ∧
      (∀ f ∈ required, f.hasDefault = false) ∧ ∀ f ∈ optional, f.hasDefault = true := by
  constructor
  · intro h
    induction fields with
    | nil => exact ⟨[], [], rfl, nofun, nofun⟩
    | cons first fields ih =>
      by_cases hfirst : first.hasDefault
      · -- from the first default on, every field has one
        refine ⟨[], first :: fields, rfl, nofun, ?_⟩
        exact List.forall_mem_cons.mpr ⟨hfirst, h.all_hasDefault hfirst⟩
      · rw [Bool.not_eq_true] at hfirst
        rw [inOrder_cons_of_not_hasDefault hfirst] at h
        obtain ⟨required, optional, rfl, hrequired, hoptional⟩ := ih h
        refine ⟨first :: required, optional, rfl, ?_, hoptional⟩
        exact List.forall_mem_cons.mpr ⟨hfirst, hrequired⟩
  · rintro ⟨required, optional, rfl, hrequired, hoptional⟩
    have hnone {f g : Field} (hf : f ∈ required) : f.hasDefault → g.hasDefault := by
      intro hdefault
      rw [hrequired f hf] at hdefault
      cases hdefault
    apply List.pairwise_append.mpr
    refine ⟨?_, inOrder_of_forall hoptional, fun f hf g _ => hnone hf⟩
    exact List.pairwise_of_forall_mem_list fun f hf g _ => hnone hf

theorem getElem?_hasDefault {b : Bool} : (fields.map Field.hasDefault)[j]? = some b ↔
    ∃ f, fields[j]? = some f ∧ f.hasDefault = b := by
  rw [List.getElem?_map, Option.map_eq_some_iff]

/-- Fields are in order just if no place is late. -/
theorem inOrder_iff_forall_not_isLate :
    InOrder fields ↔ ∀ j, ¬ IsLate (fields.map Field.hasDefault) j := by
  rw [InOrder, List.pairwise_iff_getElem]
  constructor
  · rintro h j ⟨hj, i, hij, hi⟩
    obtain ⟨f, hf, hdefault⟩ := getElem?_hasDefault.mp hi
    obtain ⟨g, hg, hnone⟩ := getElem?_hasDefault.mp hj
    obtain ⟨hilt, rfl⟩ := List.getElem?_eq_some_iff.mp hf
    obtain ⟨hjlt, rfl⟩ := List.getElem?_eq_some_iff.mp hg
    have hlater := h i j hilt hjlt hij hdefault
    rw [hnone] at hlater
    cases hlater
  · intro h i j hi hj hij hdefault
    by_contra hnone
    rw [Bool.not_eq_true] at hnone
    apply h j
    refine ⟨getElem?_hasDefault.mpr ⟨fields[j], List.getElem?_eq_getElem hj, hnone⟩, i, hij, ?_⟩
    exact getElem?_hasDefault.mpr ⟨fields[i], List.getElem?_eq_getElem hi, hdefault⟩

/-! ### The first late place -/

/-- Whether a place is late does not depend on what comes after it. -/
theorem isLate_append (hk : k < defaults.length) :
    IsLate (defaults ++ rest) k ↔ IsLate defaults k := by
  unfold IsLate
  rw [List.getElem?_append_left hk]
  refine and_congr_right fun _ => exists_congr fun i => and_congr_right fun hi => ?_
  rw [List.getElem?_append_left (Nat.lt_trans hi hk)]

theorem IsLate.lt_length (h : IsLate defaults j) : j < defaults.length :=
  (List.getElem?_eq_some_iff.mp h.1).1

/-- There is a default right before the first late place. -/
theorem IsFirstLate.getElem?_pred (h : IsFirstLate defaults (j + 1)) :
    defaults[j]? = some true := by
  obtain ⟨hlate, hfirst⟩ := h
  have hlt : j < defaults.length := Nat.lt_trans (Nat.lt_succ_self j) hlate.lt_length
  obtain ⟨-, i, hi, hdefault⟩ := hlate
  rcases Nat.lt_succ_iff_lt_or_eq.mp hi with hlt' | rfl
  · -- otherwise that place would be late already
    by_contra hne
    have hnone : defaults[j]? = some false := by
      rw [List.getElem?_eq_getElem hlt, Option.some.injEq] at hne ⊢
      exact Bool.eq_false_iff.mpr hne
    exact hfirst j (Nat.lt_succ_self j) ⟨hnone, i, hlt', hdefault⟩
  · exact hdefault

theorem eq_take_append (hfield : fields[i + 1]? = some field) (hafter : fields[i]? = some after) :
    fields = fields.take i ++ after :: field :: fields.drop (i + 2) := by
  obtain ⟨hi, rfl⟩ := List.getElem?_eq_some_iff.mp hafter
  obtain ⟨hi', rfl⟩ := List.getElem?_eq_some_iff.mp hfield
  rw [← List.drop_eq_getElem_cons hi', ← List.drop_eq_getElem_cons hi, List.take_append_drop]

/-- The field that is out of order stands at the first late place, and the one that is reported with
it right before it. -/
theorem isViolation_iff : IsViolation fields field after ↔
    ∃ i, fields[i + 1]? = some field ∧ fields[i]? = some after ∧ after.hasDefault ∧
      IsFirstLate (fields.map Field.hasDefault) (i + 1) := by
  constructor
  · rintro ⟨before, rest, rfl, hinOrder, hafter, hfield⟩
    have hplace : (before ++ after :: field :: rest)[before.length]? = some after := by simp
    have hnext : (before ++ after :: field :: rest)[before.length + 1]? = some field := by simp
    refine ⟨before.length, hnext, hplace, hafter, ⟨?_, before.length, Nat.lt_succ_self _, ?_⟩, ?_⟩
    · exact getElem?_hasDefault.mpr ⟨field, hnext, hfield⟩
    · exact getElem?_hasDefault.mpr ⟨after, hplace, hafter⟩
    · intro k hk hlate
      apply inOrder_iff_forall_not_isLate.mp hinOrder k
      rw [List.append_cons, List.map_append] at hlate
      exact (isLate_append (by simpa using hk)).mp hlate
  · rintro ⟨i, hfield, hafter, hdefault, hlate, hfirst⟩
    have hfields := eq_take_append hfield hafter
    obtain ⟨f, hf, hnone⟩ := getElem?_hasDefault.mp hlate.1
    obtain rfl := Option.some.inj (hfield.symm.trans hf)
    refine ⟨fields.take i, fields.drop (i + 2), hfields, ?_, hdefault, hnone⟩
    apply inOrder_iff_forall_not_isLate.mpr
    intro k hk
    have hklt : k < i + 1 := by
      have hlt := hk.lt_length
      simp only [List.length_map, List.length_append, List.length_take,
        List.length_singleton] at hlt
      omega
    apply hfirst k hklt
    rw [hfields, List.append_cons, List.map_append]
    exact (isLate_append hk.lt_length).mpr hk

/-! ### What is reported -/

namespace Schema

variable {s t : Schema}

theorem nodup_fields (s : Schema) : s.fields.Nodup :=
  .of_map Field.name s.nodup

theorem idxOf_of_getElem? (h : s.fields[i]? = some field) : s.fields.idxOf field = i := by
  obtain ⟨hi, rfl⟩ := List.getElem?_eq_some_iff.mp h
  exact s.nodup_fields.idxOf_getElem i hi

/-- The places that are reported are the first late one and the one right before it. -/
theorem violationPlaces?_eq_some_iff : s.violationPlaces? = some (i, j) ↔
    i = j + 1 ∧ IsFirstLate (s.fields.map Field.hasDefault) i := by
  rw [violationPlaces?, Option.map_eq_some_iff]
  constructor
  · rintro ⟨⟨field, after⟩, hreported, hplaces⟩
    obtain ⟨k, hfield, hafter, -, hfirst⟩ :=
      isViolation_iff.mp (orderViolation?_eq_some_iff.mp hreported)
    dsimp only at hplaces
    rw [idxOf_of_getElem? hfield, idxOf_of_getElem? hafter] at hplaces
    obtain ⟨rfl, rfl⟩ := Prod.mk.inj hplaces
    exact ⟨rfl, hfirst⟩
  · rintro ⟨rfl, hfirst⟩
    obtain ⟨field, hfield, -⟩ := getElem?_hasDefault.mp hfirst.1.1
    obtain ⟨after, hafter, hdefault⟩ := getElem?_hasDefault.mp hfirst.getElem?_pred
    refine ⟨(field, after), ?_, ?_⟩
    · exact orderViolation?_eq_some_iff.mpr
        (isViolation_iff.mpr ⟨j, hfield, hafter, hdefault, hfirst⟩)
    · dsimp only
      rw [idxOf_of_getElem? hfield, idxOf_of_getElem? hafter]

/-- Only which fields have a default matters for the places that are reported. -/
theorem violationPlaces?_congr
    (h : t.fields.map Field.hasDefault = s.fields.map Field.hasDefault) :
    t.violationPlaces? = s.violationPlaces? := by
  apply Option.ext
  rintro ⟨i, j⟩
  rw [violationPlaces?_eq_some_iff, violationPlaces?_eq_some_iff, h]

/-- **The check of the order is exact.**  Nothing is reported just if the fields with a default come
last.  Otherwise the report is on the first field without a default that has one with a default
before it, and on the field right before it, which has one.  The places of the two are the same for
every schema that has defaults at the same places, whatever its names, types and values are. -/
theorem orderViolation?_exact (s : Schema) :
    (s.orderViolation? = none ↔ ∃ required optional, s.fields = required ++ optional ∧
      (∀ f ∈ required, f.hasDefault = false) ∧ ∀ f ∈ optional, f.hasDefault = true) ∧
    (∀ field after, s.orderViolation? = some (field, after) ↔
      ∃ i, s.fields[i + 1]? = some field ∧ s.fields[i]? = some after ∧ after.hasDefault ∧
        IsFirstLate (s.fields.map Field.hasDefault) (i + 1)) ∧
    ∀ t : Schema, t.fields.map Field.hasDefault = s.fields.map Field.hasDefault →
      t.violationPlaces? = s.violationPlaces? := by
  refine ⟨?_, fun field after => ?_, fun t => violationPlaces?_congr⟩
  · rw [orderViolation?_eq_none_iff, inOrder_iff_exists_append]
  · rw [orderViolation?_eq_some_iff, isViolation_iff]

/-- A schema with a required field after a default, and another one after it. -/
def queueSchema : Schema where
  name := "Queue"
  fields := [⟨"owner", none, .absent⟩, ⟨"limit", some (.name "int"), .value (.int 8)⟩,
    ⟨"name", some (.name "str"), .absent⟩, ⟨"tags", none, .absent⟩]
  nodup := by decide

/-- The same schema with other names and types and another default. -/
def shelfSchema : Schema where
  name := "Shelf"
  fields := [⟨"room", some (.name "str"), .absent⟩, ⟨"row", none, .value .none⟩,
    ⟨"width", none, .absent⟩, ⟨"books", some (.name "list"), .absent⟩]
  nodup := by decide

theorem orderViolation?_exact_shelf :
    shelfSchema.fields.map Field.hasDefault = queueSchema.fields.map Field.hasDefault ∧
      queueSchema.violationPlaces? = some (2, 1) ∧ shelfSchema.violationPlaces? = some (2, 1) := by
  have hdefaults :
      shelfSchema.fields.map Field.hasDefault = queueSchema.fields.map Field.hasDefault := by
    decide
  have hqueue : queueSchema.violationPlaces? = some (2, 1) := by decide
  exact ⟨hdefaults, hqueue,
    ((orderViolation?_exact queueSchema).2.2 shelfSchema hdefaults).trans hqueue⟩

end Schema

end RecordForms
