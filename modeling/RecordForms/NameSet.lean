/-!
# Sets of names, in order of their characters

A finite set of names, held as the ascending list of its members, so that two sets with the same
members are equal.

## Main definitions

* `NameSet`: the sets
* `NameSet.insert`, `NameSet.ofList`, `NameSet.contains`

## Main results

* `NameSet.mem_insert`: an insertion adds its own name and nothing else
* `NameSet.mem_ofList`: the set of the names of a list has these names as members
-/

namespace RecordForms

namespace NameSet

/-- The ascending list with `name` put in its place. -/
def place (name : String) : List String → List String
  | [] => [name]
  | n :: rest =>
    if name < n then name :: n :: rest
    else if n < name then n :: place name rest
    else n :: rest

theorem mem_place (name key : String) (names : List String) :
    key ∈ place name names ↔ key = name ∨ key ∈ names := by
  induction names with
  | nil => simp [place]
  | cons n rest ih =>
    unfold place
    split
    · simp
    · split
      · simp only [List.mem_cons, ih]
        constructor <;> rintro (h | h | h) <;> simp [h]
      · rename_i h₁ h₂
        have h : n = name := String.le_antisymm (String.not_lt.mp h₁) (String.not_lt.mp h₂)
        subst h
        simp

theorem pairwise_place (name : String) {names : List String} (h : names.Pairwise (· < ·)) :
    (place name names).Pairwise (· < ·) := by
  induction names with
  | nil => simp [place]
  | cons n rest ih =>
    rw [List.pairwise_cons] at h
    unfold place
    split
    · rename_i hn
      rw [List.pairwise_cons, List.pairwise_cons]
      refine ⟨fun a ha => ?_, h⟩
      rcases List.mem_cons.mp ha with rfl | ha
      · exact hn
      · exact String.lt_trans hn (h.1 a ha)
    · split
      · rename_i hn
        rw [List.pairwise_cons]
        refine ⟨fun a ha => ?_, ih h.2⟩
        rcases (mem_place name a rest).mp ha with rfl | ha
        · exact hn
        · exact h.1 a ha
      · rw [List.pairwise_cons]
        exact h

end NameSet

/-- A finite set of names. -/
structure NameSet where
  /-- The members, in ascending order. -/
  names : List String
  /-- The order is strict: no member is listed twice. -/
  ascending : names.Pairwise (· < ·)
  deriving DecidableEq

namespace NameSet

/-- The set without members. -/
def empty : NameSet := ⟨[], List.Pairwise.nil⟩

instance : Inhabited NameSet := ⟨empty⟩

/-- The set with `name` added. -/
def insert (s : NameSet) (name : String) : NameSet :=
  ⟨place name s.names, pairwise_place name s.ascending⟩

/-- The set of the names of a list. -/
def ofList (names : List String) : NameSet :=
  names.foldl insert empty

/-- Whether `name` is a member. -/
def contains (s : NameSet) (name : String) : Bool :=
  s.names.contains name

/-- Whether there is no member. -/
def isEmpty (s : NameSet) : Bool :=
  s.names.isEmpty

@[simp] theorem names_empty : empty.names = [] := rfl

/-- An insertion adds its own name and nothing else. -/
theorem mem_insert (s : NameSet) (name key : String) :
    key ∈ (s.insert name).names ↔ key = name ∨ key ∈ s.names :=
  mem_place name key s.names

theorem mem_foldl_insert (names : List String) (s : NameSet) (key : String) :
    key ∈ (names.foldl insert s).names ↔ key ∈ names ∨ key ∈ s.names := by
  induction names generalizing s with
  | nil => simp
  | cons name names ih =>
    rw [List.foldl_cons, ih, mem_insert, List.mem_cons, or_left_comm, or_assoc]

/-- The set of the names of a list has these names as members. -/
theorem mem_ofList {names : List String} {key : String} :
    key ∈ (ofList names).names ↔ key ∈ names := by
  simp [ofList, mem_foldl_insert]

end NameSet

end RecordForms
