import Mathlib.Data.List.Basic
import RecordForms.Schema.Basic

/-!
# The order of fields

Fields are in order if no field without a default follows one with a default.  Where they are not,
one pair of neighbours is reported: the field that ends the order, and the one before it.

## Main definitions

* `InOrder fields`: no field without a default follows one with a default
* `IsViolation fields field after`: `field` is the first that is out of order, right after `after`

## Main results

* `Schema.orderViolation?_eq_none_iff`, `Schema.orderViolation?_eq_some_iff`: what is reported
-/

namespace RecordForms

/-- Whether no field without a default follows one with a default. -/
def InOrder (fields : List Field) : Prop :=
  fields.Pairwise fun before after => before.hasDefault → after.hasDefault

/-- Whether `field` is the first one that is out of order: it has no default, `after` comes right
before it and has one, and up to there the fields are in order. -/
def IsViolation (fields : List Field) (field after : Field) : Prop :=
  ∃ before rest, fields = before ++ after :: field :: rest ∧ InOrder (before ++ [after]) ∧
    after.hasDefault ∧ field.hasDefault = false

variable {fields : List Field} {field after : Field}

theorem InOrder.all_hasDefault (h : InOrder (field :: fields)) (hfield : field.hasDefault) :
    ∀ g ∈ fields, g.hasDefault :=
  fun g hg => (List.pairwise_cons.mp h).1 g hg hfield

theorem inOrder_of_forall (h : ∀ g ∈ fields, g.hasDefault) : InOrder fields :=
  List.pairwise_of_forall_mem_list fun _ _ g hg _ => h g hg

theorem inOrder_cons_of_not_hasDefault (h : field.hasDefault = false) :
    InOrder (field :: fields) ↔ InOrder fields := by
  simp [InOrder, h]

/-! ### Nothing is reported -/

theorem violation?_some_eq_none_iff {last : Field} :
    violation? (some last) fields = none ↔ ∀ field ∈ fields, field.hasDefault := by
  induction fields generalizing last with
  | nil => simp [violation?]
  | cons field fields ih =>
    by_cases hfield : field.hasDefault
    · rw [violation?, if_pos hfield, ih, List.forall_mem_cons]
      exact ⟨fun h => ⟨hfield, h⟩, fun h => h.2⟩
    · simp [violation?, hfield]

theorem violation?_none_eq_none_iff : violation? none fields = none ↔ InOrder fields := by
  induction fields with
  | nil => simp [violation?, InOrder]
  | cons field fields ih =>
    by_cases hfield : field.hasDefault
    · -- from the first default on, every field has one
      rw [violation?, if_pos hfield, violation?_some_eq_none_iff]
      constructor
      · intro h
        exact inOrder_of_forall (List.forall_mem_cons.mpr ⟨hfield, h⟩)
      · intro h
        exact h.all_hasDefault hfield
    · rw [inOrder_cons_of_not_hasDefault (Bool.eq_false_iff.mpr hfield), ← ih]
      simp [violation?, hfield]

/-! ### A pair is reported -/

/-- After a field with a default the next one without a default is reported, with the field right
before it. -/
theorem violation?_some_eq_some_iff {last : Field} (hlast : last.hasDefault) :
    violation? (some last) fields = some (field, after) ↔
      ∃ before rest, last :: fields = before ++ after :: field :: rest ∧
        (∀ g ∈ before ++ [after], g.hasDefault) ∧ field.hasDefault = false := by
  -- Induction on the fields left, from any field with a default.
  induction fields generalizing last with
  | nil =>
    refine ⟨nofun, ?_⟩
    rintro ⟨before, rest, hfields, -⟩
    have hlength := congrArg List.length hfields
    simp only [List.length_cons, List.length_nil, List.length_append] at hlength
    omega
  | cons next fields ih =>
    by_cases hnext : next.hasDefault
    · rw [violation?, if_pos hnext, ih hnext]
      constructor
      · rintro ⟨before, rest, hfields, hdefaults, hfield⟩
        refine ⟨last :: before, rest, by rw [hfields, List.cons_append], ?_, hfield⟩
        exact List.forall_mem_cons.mpr ⟨hlast, hdefaults⟩
      · rintro ⟨before, rest, hfields, hdefaults, hfield⟩
        cases before with
        | nil =>
          cases hfields
          rw [hnext] at hfield
          cases hfield
        | cons g before =>
          obtain ⟨-, htail⟩ := List.cons.inj hfields
          exact ⟨before, rest, htail, (List.forall_mem_cons.mp hdefaults).2, hfield⟩
    · rw [violation?, if_neg hnext]
      constructor
      · rintro ⟨⟩
        exact ⟨[], fields, rfl, by simpa using hlast, Bool.eq_false_iff.mpr hnext⟩
      · rintro ⟨before, rest, hfields, hdefaults, -⟩
        cases before with
        | nil =>
          cases hfields
          rfl
        | cons g before =>
          -- then the next field would be among those with a default
          obtain ⟨-, htail⟩ := List.cons.inj hfields
          have hmem : next ∈ before ++ [after] := by
            cases before with
            | nil =>
              cases htail
              exact List.mem_singleton_self _
            | cons h before =>
              obtain ⟨rfl, -⟩ := List.cons.inj htail
              exact List.mem_cons_self
          exact absurd (hdefaults next (List.mem_cons_of_mem g hmem)) hnext

/-- The first field that is out of order is reported, with the field right before it. -/
theorem violation?_none_eq_some_iff :
    violation? none fields = some (field, after) ↔ IsViolation fields field after := by
  induction fields with
  | nil =>
    refine ⟨nofun, ?_⟩
    rintro ⟨before, rest, hfields, -⟩
    simp at hfields
  | cons first fields ih =>
    by_cases hfirst : first.hasDefault
    · -- from here on, in order is to have a default
      rw [violation?, if_pos hfirst, violation?_some_eq_some_iff hfirst]
      refine exists_congr fun before => exists_congr fun rest => and_congr_right fun hfields => ?_
      rw [← and_assoc]
      refine and_congr_left fun _ => ?_
      constructor
      · intro h
        exact ⟨inOrder_of_forall h, h after (by simp)⟩
      · rintro ⟨hinOrder, hafter⟩
        cases before with
        | nil => simpa using hafter
        | cons g before =>
          cases hfields
          exact List.forall_mem_cons.mpr ⟨hfirst, hinOrder.all_hasDefault hfirst⟩
    · have hnot : first.hasDefault = false := Bool.eq_false_iff.mpr hfirst
      rw [violation?, if_neg hfirst, ih]
      constructor
      · rintro ⟨before, rest, rfl, hinOrder, hdefaults⟩
        exact ⟨first :: before, rest, rfl, (inOrder_cons_of_not_hasDefault hnot).mpr hinOrder,
          hdefaults⟩
      · rintro ⟨before, rest, hfields, hinOrder, hafter, hfield⟩
        cases before with
        | nil =>
          cases hfields
          exact absurd hafter hfirst
        | cons g before =>
          cases hfields
          exact ⟨before, rest, rfl, (inOrder_cons_of_not_hasDefault hnot).mp hinOrder, hafter,
            hfield⟩

namespace Schema

variable {s : Schema}

/-- The order of a schema is violated unless its defaults are last. -/
theorem orderViolation?_eq_none_iff : s.orderViolation? = none ↔ InOrder s.fields :=
  violation?_none_eq_none_iff

/-- What is reported is the first field that is out of order, and the one that it follows. -/
theorem orderViolation?_eq_some_iff :
    s.orderViolation? = some (field, after) ↔ IsViolation s.fields field after :=
  violation?_none_eq_some_iff

/-- Fields that are not in order have a first one that is out of order. -/
theorem exists_isViolation_iff :
    (∃ field after, IsViolation s.fields field after) ↔ ¬ InOrder s.fields := by
  rw [← orderViolation?_eq_none_iff]
  simp only [← orderViolation?_eq_some_iff]
  cases s.orderViolation? with
  | none => simp
  | some pair => simpa using ⟨pair.1, pair.2, rfl⟩

end Schema

end RecordForms
