import RecordForms.Schema.Basic

/-!
# Distinct names of fields

A list of fields makes a schema if no two of them have one name; otherwise the first name that
repeats an earlier one is reported.

## Main definitions

* `IsFirstRepeated`: the first name of a list that repeats an earlier one

## Main results

* `firstRepeated_eq_some_iff`: it is the one that is found
* `Schema.ofFields?_eq_error_iff`: exactly when and how a list of fields makes no schema
-/

namespace RecordForms

/-- The first name of a list that repeats an earlier one: those before it are distinct, and it is
among them. -/
def IsFirstRepeated (names : List String) (n : String) : Prop :=
  ∃ before after, names = before ++ n :: after ∧ before.Nodup ∧ n ∈ before

/-- The name that is found comes after distinct names that have not been seen, and it is one of
these or has been seen. -/
theorem firstRepeated_seen_eq_some_iff {seen names : List String} {n : String} :
    firstRepeated seen names = some n ↔ ∃ before after, names = before ++ n :: after ∧
      before.Nodup ∧ (∀ m ∈ before, m ∉ seen) ∧ (n ∈ before ∨ n ∈ seen) := by
  induction names generalizing seen with
  | nil => simp [firstRepeated]
  | cons first names ih =>
    rw [firstRepeated]
    split
    · -- The first name has been seen, so nothing comes before the one that is found.
      rename_i hseen
      constructor
      · rintro ⟨⟩
        exact ⟨[], names, rfl, List.nodup_nil, List.forall_mem_nil _, Or.inr hseen⟩
      · rintro ⟨before, after, hnames, -, hunseen, hn⟩
        cases before with
        | nil =>
          cases hnames
          rfl
        | cons m before =>
          cases hnames
          exact absurd hseen (hunseen first List.mem_cons_self)
    · -- The first name is new: it goes to the names before the one that is found.
      rename_i hunseen
      rw [ih]
      constructor
      · rintro ⟨before, after, rfl, hnodup, hbefore, hn⟩
        refine ⟨first :: before, after, rfl, List.nodup_cons.mpr ⟨fun hfirst => ?_, hnodup⟩, ?_, ?_⟩
        · exact hbefore first hfirst List.mem_cons_self
        · simp only [List.forall_mem_cons]
          exact ⟨hunseen, fun m hm hmem => hbefore m hm (List.mem_cons_of_mem _ hmem)⟩
        · simp only [List.mem_cons] at hn ⊢
          grind
      · rintro ⟨before, after, hnames, hnodup, hbefore, hn⟩
        cases before with
        | nil =>
          cases hnames
          simp [hunseen] at hn
        | cons m before =>
          cases hnames
          rw [List.nodup_cons] at hnodup
          rw [List.forall_mem_cons] at hbefore
          refine ⟨before, after, rfl, hnodup.2, fun m hm => ?_, ?_⟩
          · rw [List.mem_cons, not_or]
            exact ⟨fun e => hnodup.1 (e ▸ hm), hbefore.2 m hm⟩
          · simp only [List.mem_cons] at hn ⊢
            grind

/-- The first name that repeats an earlier one is found. -/
theorem firstRepeated_eq_some_iff {names : List String} {n : String} :
    firstRepeated [] names = some n ↔ IsFirstRepeated names n := by
  simp [firstRepeated_seen_eq_some_iff, IsFirstRepeated]

namespace Schema

/-- A list of fields makes no schema exactly if a name repeats an earlier one, and the first that
does is reported. -/
theorem ofFields?_eq_error_iff {name : String} {fields : List Field} {e : RecordError} :
    ofFields? name fields = .error e ↔
      ∃ n, IsFirstRepeated (fields.map Field.name) n ∧ e = .duplicateField name n := by
  unfold ofFields?
  split
  · rename_i h
    simp [← firstRepeated_eq_some_iff, h]
  · rename_i n h
    simp [← firstRepeated_eq_some_iff, h, eq_comm]

end Schema

end RecordForms
