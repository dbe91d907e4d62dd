import Mathlib.Data.List.Forall2
import Mathlib.Tactic.Tauto

/-!
# Computations that may fail

When a sequence of computations succeeds, what it then gives, and which fault it ends with if it
fails.

## Main definitions

* `List.IsFirstFault as fault e`: `e` is a fault of the first item of `as` that has one
* `Except.Below x y`: `y` gives what `x` gives, wherever `x` succeeds

## Main results

* `Except.bind_eq_ok_iff`, `Except.bind_eq_error_iff`: two computations one after the other succeed
  if both do, and fail as the first of them that fails
* `Except.mapM_eq_ok_iff`, `Except.mapM_eq_error_iff`: the same for a computation on every item of a
  list
* `Except.Below.bind`: what is true of two computations is true of the two one after the other
-/

namespace List

variable {α ε : Type} {fault fault' : α → ε → Prop} {as bs : List α} {e : ε}

/-- Whether `e` is a fault of the first item that has one. -/
def IsFirstFault (as : List α) (fault : α → ε → Prop) (e : ε) : Prop :=
  ∃ before a after, as = before ++ a :: after ∧ (∀ b ∈ before, ∀ e', ¬ fault b e') ∧ fault a e

@[simp] theorem not_isFirstFault_nil : ¬ ([] : List α).IsFirstFault fault e := by
  rintro ⟨before, a, after, has, -⟩
  simp at has

theorem isFirstFault_cons {a : α} : (a :: as).IsFirstFault fault e ↔
    fault a e ∨ (∀ e', ¬ fault a e') ∧ as.IsFirstFault fault e := by
  constructor
  · rintro ⟨before, b, after, has, hbefore, hb⟩
    cases before with
    | nil =>
      cases has
      exact Or.inl hb
    | cons c before =>
      cases has
      rw [forall_mem_cons] at hbefore
      exact Or.inr ⟨hbefore.1, before, b, after, rfl, hbefore.2, hb⟩
  · rintro (ha | ⟨ha, before, b, after, rfl, hbefore, hb⟩)
    · exact ⟨[], a, as, rfl, forall_mem_nil _, ha⟩
    · exact ⟨a :: before, b, after, rfl, forall_mem_cons.mpr ⟨ha, hbefore⟩, hb⟩

theorem isFirstFault_append : (as ++ bs).IsFirstFault fault e ↔
    as.IsFirstFault fault e ∨ (∀ a ∈ as, ∀ e', ¬ fault a e') ∧ bs.IsFirstFault fault e := by
  induction as with
  | nil => simp
  | cons a as ih =>
    rw [cons_append, isFirstFault_cons, isFirstFault_cons, ih, forall_mem_cons]
    tauto

theorem isFirstFault_congr (h : ∀ a ∈ as, ∀ e, fault a e ↔ fault' a e) :
    as.IsFirstFault fault e ↔ as.IsFirstFault fault' e := by
  induction as with
  | nil => simp
  | cons a as ih =>
    rw [forall_mem_cons] at h
    simp only [isFirstFault_cons, h.1, ih h.2]

/-- One of the faults is the first as soon as there is any. -/
theorem exists_isFirstFault_iff :
    (∃ e, as.IsFirstFault fault e) ↔ ∃ a ∈ as, ∃ e, fault a e := by
  induction as with
  | nil => simp
  | cons a as ih =>
    simp only [isFirstFault_cons, exists_or, exists_and_left, ih, exists_mem_cons_iff]
    by_cases ha : ∃ e, fault a e
    · simp [ha]
    · simp [not_exists.mp ha]

end List

namespace Except

variable {ε α β : Type}

@[simp] theorem ok_bind (a : α) (f : α → Except ε β) : (Except.ok a >>= f) = f a := rfl

@[simp] theorem error_bind (e : ε) (f : α → Except ε β) :
    (Except.error e >>= f) = .error e := rfl

theorem bind_eq_ok_iff {x : Except ε α} {f : α → Except ε β} {b : β} :
    x >>= f = .ok b ↔ ∃ a, x = .ok a ∧ f a = .ok b := by
  cases x with
  | error e => simp
  | ok a => simp

theorem bind_eq_error_iff {x : Except ε α} {f : α → Except ε β} {e : ε} :
    x >>= f = .error e ↔ x = .error e ∨ ∃ a, x = .ok a ∧ f a = .error e := by
  cases x with
  | error e' => simp
  | ok a => simp

theorem map_eq_ok_iff {x : Except ε α} {f : α → β} {b : β} :
    x.map f = .ok b ↔ ∃ a, x = .ok a ∧ f a = b := by
  cases x with
  | error e => simp [Except.map]
  | ok a => simp [Except.map]

theorem mapError_eq_ok_iff {x : Except ε α} {f : ε → β} {a : α} :
    x.mapError f = .ok a ↔ x = .ok a := by
  cases x with
  | error e => simp [Except.mapError]
  | ok b => simp [Except.mapError]

theorem mapError_eq_error_iff {x : Except ε α} {f : ε → β} {b : β} :
    x.mapError f = .error b ↔ ∃ e, x = .error e ∧ f e = b := by
  cases x with
  | error e => simp [Except.mapError]
  | ok a => simp [Except.mapError]

theorem mapM_eq_ok_iff {f : α → Except ε β} {as : List α} {bs : List β} :
    as.mapM f = .ok bs ↔ List.Forall₂ (fun a b => f a = .ok b) as bs := by
  induction as generalizing bs with
  | nil =>
    rw [List.mapM_nil, List.forall₂_nil_left_iff]
    exact ⟨fun h => (Except.ok.inj h).symm, fun h => h ▸ rfl⟩
  | cons a as ih =>
    rw [List.mapM_cons, List.forall₂_cons_left_iff, bind_eq_ok_iff]
    constructor
    · rintro ⟨b, hb, h⟩
      obtain ⟨bs', hbs, h⟩ := bind_eq_ok_iff.mp h
      exact ⟨b, bs', hb, ih.mp hbs, (Except.ok.inj h).symm⟩
    · rintro ⟨b, bs', hb, hbs, rfl⟩
      exact ⟨b, hb, bind_eq_ok_iff.mpr ⟨bs', ih.mpr hbs, rfl⟩⟩

/-- A computation on every item of a list fails as the first of them that fails. -/
theorem mapM_eq_error_iff {f : α → Except ε β} {as : List α} {e : ε} :
    as.mapM f = .error e ↔ as.IsFirstFault (fun a e => f a = .error e) e := by
  induction as with
  | nil => simp [pure, Except.pure]
  | cons a as ih =>
    rw [List.mapM_cons, List.isFirstFault_cons, bind_eq_error_iff]
    refine or_congr_right ?_
    cases ha : f a with
    | error e' => simp
    | ok b => simp [← ih, bind_eq_error_iff, pure, Except.pure]

/-- A computation succeeds or fails. -/
theorem exists_eq_ok_iff {x : Except ε α} : (∃ a, x = .ok a) ↔ ∀ e, x ≠ .error e := by
  cases x with
  | error e => simp
  | ok a => simp

/-- A computation that fails with the first fault of some items succeeds if none of them has any. -/
theorem exists_eq_ok_iff_of_firstFault {x : Except ε α} {items : List β} {fault : β → ε → Prop}
    (h : ∀ e, x = .error e ↔ items.IsFirstFault fault e) :
    (∃ a, x = .ok a) ↔ ∀ b ∈ items, ∀ e, ¬ fault b e := by
  rw [exists_eq_ok_iff, ← not_exists]
  simp only [h, List.exists_isFirstFault_iff, not_exists, not_and]

theorem exists_eq_ok {x : Except ε α} (h : x.toOption.isSome) : ∃ a, x = .ok a := by
  cases x with
  | error e => cases h
  | ok a => exact ⟨a, rfl⟩

theorem eq_ok_of_toOption {x : Except ε α} {a : α} (h : x.toOption = some a) : x = .ok a := by
  cases x with
  | error e => cases h
  | ok b => rw [Option.some.inj h]

theorem exists_mapM {f : α → Except ε β} {as : List α} (h : ∀ a ∈ as, ∃ b, f a = .ok b) :
    ∃ bs, as.mapM f = .ok bs := by
  induction as with
  | nil => exact ⟨[], rfl⟩
  | cons a as ih =>
    rw [List.forall_mem_cons] at h
    obtain ⟨b, hb⟩ := h.1
    obtain ⟨bs, hbs⟩ := ih h.2
    rw [mapM_eq_ok_iff] at hbs
    exact ⟨b :: bs, mapM_eq_ok_iff.mpr (.cons hb hbs)⟩

/-- A computation that gives `g` of every item gives `g` of all. -/
theorem mapM_eq_ok_map {f : α → Except ε β} {g : α → β} {as : List α}
    (h : ∀ a ∈ as, f a = .ok (g a)) : as.mapM f = .ok (as.map g) := by
  rw [mapM_eq_ok_iff, List.forall₂_map_right_iff, List.forall₂_same]
  exact h

/-! ### Computations that succeed more often -/

/-- Whether `y` gives what `x` gives, wherever `x` succeeds. -/
def Below (x y : Except ε α) : Prop :=
  ∀ a, x = .ok a → y = .ok a

namespace Below

variable {x y : Except ε α} {f g : α → Except ε β}

theorem refl (x : Except ε α) : x.Below x :=
  fun _ h => h

theorem of_error (e : ε) (y : Except ε α) : (error e).Below y :=
  nofun

theorem bind (h : x.Below y) (hf : ∀ a, (f a).Below (g a)) : (x >>= f).Below (y >>= g) := by
  intro b hb
  obtain ⟨a, ha, hb⟩ := bind_eq_ok_iff.mp hb
  exact bind_eq_ok_iff.mpr ⟨a, h a ha, hf a b hb⟩

theorem map (h : x.Below y) (f : α → β) : (x.map f).Below (y.map f) := by
  intro b hb
  obtain ⟨a, ha, hb⟩ := map_eq_ok_iff.mp hb
  exact map_eq_ok_iff.mpr ⟨a, h a ha, hb⟩

theorem ite {c : Prop} [Decidable c] {x' y' : Except ε α} (h : x.Below y) (h' : x'.Below y') :
    (if c then x else x').Below (if c then y else y') := by
  split
  · exact h
  · exact h'

/-- Two computations of which each gives what the other gives succeed with the same, if at all. -/
theorem toOption_eq (h : x.Below y) (h' : y.Below x) : x.toOption = y.toOption := by
  cases x with
  | ok a => rw [h a rfl]
  | error e =>
    cases y with
    | ok b => cases h' b rfl
    | error e' => rfl

end Below

end Except
