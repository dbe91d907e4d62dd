import RecordForms.Proofs.TypeExpr.Taken

/-!
# Flat types

A type is flat if its unions have two members or more, none of which is a union, and filled if
nothing in it is subscripted with nothing.  A type is only written as a type expression if it is
both.  What the reader of types reads is both, since it is regular.

## Main definitions

* `TypeExpr.isFlat`: the unions in a type have two members or more, none of which is a union
* `TypeExpr.isFilled`: the subscripts in a type have an argument
* `TypeExpr.IsRegular`: the types that are regular, whatever their names and values are
* `ReadersRegular fuel`: what the readers read is regular when they are called with this fuel

## Main results

* `Regular.isFlat`, `Regular.isFilled`: a regular type is flat and filled
* `regular_of_parse`: what a text spells is regular
-/

namespace RecordForms.TypeExpr

mutual

/-- Whether the unions in a type have two members or more, none of which is a union. -/
def isFlat : TypeExpr → Bool
  | generic _ args => areFlat args
  | union members => 2 ≤ members.length && members.all (fun t => !t.isUnion) && areFlat members
  | name _ | noneType | literal .. => true

/-- Whether the types of a list are flat. -/
def areFlat : List TypeExpr → Bool
  | [] => true
  | t :: ts => isFlat t && areFlat ts

end

mutual

/-- Whether the subscripts in a type have an argument. -/
def isFilled : TypeExpr → Bool
  | generic _ args => !args.isEmpty && areFilled args
  | union members => areFilled members
  | literal _ values => !values.isEmpty
  | name _ | noneType => true

/-- Whether the types of a list are filled. -/
def areFilled : List TypeExpr → Bool
  | [] => true
  | t :: ts => isFilled t && areFilled ts

end

variable {origin : String} {t : TypeExpr} {ts : List TypeExpr}

theorem areFlat_eq_all (ts : List TypeExpr) : areFlat ts = ts.all isFlat := by
  induction ts with
  | nil => rfl
  | cons t ts ih => rw [areFlat, ih, List.all_cons]

theorem areFilled_eq_all (ts : List TypeExpr) : areFilled ts = ts.all isFilled := by
  induction ts with
  | nil => rfl
  | cons t ts ih => rw [areFilled, ih, List.all_cons]

theorem isFlat_generic (origin : String) (ts : List TypeExpr) :
    (generic origin ts).isFlat = ts.all isFlat := by
  rw [isFlat, areFlat_eq_all]

theorem isFlat_union (ts : List TypeExpr) :
    (union ts).isFlat = (2 ≤ ts.length && ts.all (fun t => !t.isUnion) && ts.all isFlat) := by
  rw [isFlat, areFlat_eq_all]

theorem isFilled_generic (origin : String) (ts : List TypeExpr) :
    (generic origin ts).isFilled = (!ts.isEmpty && ts.all isFilled) := by
  rw [isFilled, areFilled_eq_all]

theorem isFilled_union (ts : List TypeExpr) : (union ts).isFilled = ts.all isFilled := by
  rw [isFilled, areFilled_eq_all]

namespace Regular

variable {isName : String → Prop} {args : List Value → Prop}

theorem isFlat (h : t.Regular isName args) : t.isFlat := by
  induction h with
  | generic _ _ _ _ ih => rwa [isFlat_generic, List.all_eq_true]
  | union hlength hunion _ ih =>
    rw [isFlat_union, Bool.and_eq_true, Bool.and_eq_true, decide_eq_true_eq, List.all_eq_true,
      List.all_eq_true]
    exact ⟨⟨hlength, fun t ht => by rw [hunion t ht, Bool.not_false]⟩, ih⟩
  | name | noneType | literal => rfl

theorem isFilled (h : t.Regular isName args) : t.isFilled := by
  induction h with
  | @generic _ ts _ _ hne _ ih =>
    rw [isFilled_generic, Bool.and_eq_true, List.all_eq_true]
    exact ⟨by simpa using hne, ih⟩
  | union _ _ _ ih => rwa [isFilled_union, List.all_eq_true]
  | literal _ _ hne => simpa [TypeExpr.isFilled] using hne
  | name | noneType => rfl

end Regular

/-! ### What is read -/

/-- The types that are regular, whatever their names and values are. -/
abbrev IsRegular (t : TypeExpr) : Prop :=
  t.Regular (fun _ => True) fun _ => True

/-- What the four readers of types read is regular when they are called with this fuel, and only
alternatives are a union. -/
structure ReadersRegular (fuel : Nat) : Prop where
  alternatives : ∀ {cs t rest}, alternatives fuel cs = .ok (t, rest) → t.IsRegular
  moreAlternatives : ∀ {acc cs ts rest}, moreAlternatives fuel acc cs = .ok (ts, rest) →
    ∃ new, ts = acc.reverse ++ new ∧ ∀ t ∈ new, t.isUnion = false ∧ t.IsRegular
  primary : ∀ {cs t rest}, primary fuel cs = .ok (t, rest) → t.isUnion = false ∧ t.IsRegular
  moreArguments : ∀ {acc cs ts rest}, moreArguments fuel acc cs = .ok (ts, rest) →
    ∃ new, ts = acc.reverse ++ new ∧ ∀ t ∈ new, t.IsRegular

/-- Alternatives that are no unions make a regular type. -/
theorem regular_ofMembers {isName : String → Prop} {args : List Value → Prop} (hne : ts ≠ [])
    (h : ∀ t ∈ ts, t.isUnion = false ∧ t.Regular isName args) :
    (ofMembers ts).Regular isName args := by
  match ts with
  | [] => exact absurd rfl hne
  | [t] => exact (h t List.mem_cons_self).2
  | t :: t' :: ts =>
    exact .union (by simp) (fun m hm => (h m hm).1) fun m hm => (h m hm).2

namespace ReadersRegular

variable {fuel : Nat} {cs rest : List Char}

theorem alternatives_succ (h : ReadersRegular fuel)
    (hread : TypeExpr.alternatives (fuel + 1) cs = .ok (t, rest)) :
    t.IsRegular := by
  rw [TypeExpr.alternatives] at hread
  obtain ⟨⟨first, mid⟩, hfirst, hread⟩ := Except.bind_eq_ok_iff.mp hread
  obtain ⟨⟨ts, tail⟩, hmore, heq⟩ := Except.bind_eq_ok_iff.mp hread
  obtain ⟨rfl, rfl⟩ := Prod.mk.inj (Except.ok.inj heq)
  obtain ⟨new, rfl, hnew⟩ := h.moreAlternatives hmore
  exact regular_ofMembers (by simp) (List.forall_mem_cons.mpr ⟨h.primary hfirst, hnew⟩)

theorem moreAlternatives_succ (h : ReadersRegular fuel) {acc : List TypeExpr}
    (hread : TypeExpr.moreAlternatives (fuel + 1) acc cs = .ok (ts, rest)) :
    ∃ new, ts = acc.reverse ++ new ∧ ∀ t ∈ new, t.isUnion = false ∧ t.IsRegular := by
  rw [TypeExpr.moreAlternatives] at hread
  split at hread
  · obtain ⟨⟨t, mid⟩, hfirst, hmore⟩ := Except.bind_eq_ok_iff.mp hread
    obtain ⟨new, rfl, hnew⟩ := h.moreAlternatives hmore
    refine ⟨t :: new, ?_, List.forall_mem_cons.mpr ⟨h.primary hfirst, hnew⟩⟩
    rw [List.reverse_cons, List.append_assoc, List.singleton_append]
  · obtain ⟨rfl, rfl⟩ := Prod.mk.inj (Except.ok.inj hread)
    exact ⟨[], (List.append_nil _).symm, by simp⟩

theorem moreArguments_succ (h : ReadersRegular fuel) {acc : List TypeExpr}
    (hread : TypeExpr.moreArguments (fuel + 1) acc cs = .ok (ts, rest)) :
    ∃ new, ts = acc.reverse ++ new ∧ ∀ t ∈ new, t.IsRegular := by
  rw [TypeExpr.moreArguments] at hread
  split at hread
  · split at hread
    · obtain ⟨rfl, -⟩ := took_of_close hread
      exact ⟨[], (List.append_nil _).symm, by simp⟩
    · obtain ⟨⟨t, mid⟩, hfirst, hmore⟩ := Except.bind_eq_ok_iff.mp hread
      obtain ⟨new, rfl, hnew⟩ := h.moreArguments hmore
      refine ⟨t :: new, ?_, List.forall_mem_cons.mpr ⟨h.alternatives hfirst, hnew⟩⟩
      rw [List.reverse_cons, List.append_assoc, List.singleton_append]
  · obtain ⟨rfl, -⟩ := took_of_close hread
    exact ⟨[], (List.append_nil _).symm, by simp⟩

theorem primary_succ (h : ReadersRegular fuel)
    (hread : TypeExpr.primary (fuel + 1) cs = .ok (t, rest)) :
    t.isUnion = false ∧ t.IsRegular := by
  -- A subscript is read with its first argument, so it is never empty.
  rw [TypeExpr.primary] at hread
  obtain ⟨⟨path, mid⟩, -, hread⟩ := Except.bind_eq_ok_iff.mp hread
  simp only at hread
  split at hread
  · obtain ⟨rfl, rfl⟩ := Prod.mk.inj (Except.ok.inj hread)
    exact ⟨rfl, .noneType⟩
  · split at hread
    · obtain ⟨rfl, rfl⟩ := Prod.mk.inj (Except.ok.inj hread)
      exact ⟨rfl, .name trivial⟩
    · split at hread
      · rename_i hliteral
        obtain ⟨⟨v, tail⟩, -, hread⟩ := Except.bind_eq_ok_iff.mp hread
        obtain ⟨⟨vs, tail'⟩, hmore, heq⟩ := Except.bind_eq_ok_iff.mp hread
        obtain ⟨rfl, rfl⟩ := Prod.mk.inj (Except.ok.inj heq)
        obtain ⟨new, rfl, -⟩ := took_literalItems hmore
        exact ⟨rfl, .literal trivial hliteral (by simp) trivial⟩
      · rename_i hliteral
        obtain ⟨⟨arg, tail⟩, hfirst, hread⟩ := Except.bind_eq_ok_iff.mp hread
        obtain ⟨⟨ts, tail'⟩, hmore, heq⟩ := Except.bind_eq_ok_iff.mp hread
        obtain ⟨rfl, rfl⟩ := Prod.mk.inj (Except.ok.inj heq)
        obtain ⟨new, rfl, hnew⟩ := h.moreArguments hmore
        refine ⟨rfl, .generic trivial (Bool.eq_false_iff.mpr hliteral) (by simp) ?_⟩
        exact List.forall_mem_cons.mpr ⟨h.alternatives hfirst, hnew⟩

end ReadersRegular

/-- What the readers of types read is regular, with whatever fuel. -/
theorem readersRegular (fuel : Nat) : ReadersRegular fuel := by
  -- All four at once: each call is to one of them with less fuel.
  induction fuel with
  | zero =>
    refine ⟨fun h => ?_, fun h => ?_, fun h => ?_, fun h => ?_⟩
    · cases h
    · cases h
    · cases h
    · cases h
  | succ fuel ih =>
    exact ⟨ih.alternatives_succ, ih.moreAlternatives_succ, ih.primary_succ, ih.moreArguments_succ⟩

/-- What a text spells is regular. -/
theorem regular_of_parse {s : String} (h : parse s = .ok t) :
    t.IsRegular := by
  obtain ⟨rest, hread, -⟩ := exists_alternatives_of_parse h
  exact (readersRegular _).alternatives hread

end RecordForms.TypeExpr
