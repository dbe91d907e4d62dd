import RecordForms.Proofs.Scan.Unit
import RecordForms.Proofs.TypeExpr.Flat

/-!
# Names that denote unions

Resolving a type puts what its names denote in their places, and leaves everything around them as it
is.  So a name that denotes a union becomes a union where it stands.  In a subscript, or as the
whole type, that keeps the type flat; as a member of a union it does not, since the two unions are
not joined.

## Main definitions

* `Namespace.BindsFlat ns`: what `ns` binds names to is flat
* `Namespace.keepsFlat ns s`: no member of a union in `s` is a name that denotes a union

## Main results

* `Namespace.isFlat_substitute`: replacing the names of a regular type gives a flat type just if no
  member of a union in it is a name that denotes a union
* `Namespace.isFlat_resolve`: the same for the type that a text denotes
-/

namespace RecordForms.Namespace

/-- Whether what a namespace binds names to is flat. -/
def BindsFlat (ns : Namespace) : Prop :=
  ∀ name t, ns.lookup name = some t → t.isFlat

theorem SelfBound.bindsFlat {ns : Namespace} (h : ns.SelfBound) : ns.BindsFlat := by
  intro name t hlookup
  rw [h name t hlookup]
  rfl

theorem BindsFlat.bind {ns : Namespace} {t : TypeExpr} (h : ns.BindsFlat) (name : String)
    (ht : t.isFlat) : (ns.bind name t).BindsFlat := by
  intro key t' hlookup
  simp only [lookup, Namespace.bind, NameMap.get?_insert] at hlookup
  split at hlookup
  · rwa [← Option.some.inj hlookup]
  · exact h key t' hlookup

/-- Whether a type is a name that denotes a union. -/
def denotesUnion (ns : Namespace) : TypeExpr → Bool
  | .name path =>
    match ns.resolvePath path with
    | .ok t => t.isUnion
    | .error _ => false
  | _ => false

mutual

/-- Whether no member of a union in a type is a name that denotes a union. -/
def keepsFlat (ns : Namespace) : TypeExpr → Bool
  | .generic _ args => ns.keepFlat args
  | .union members => members.all (fun t => !ns.denotesUnion t) && ns.keepFlat members
  | .name _ | .noneType | .literal .. => true

/-- Whether no member of a union in the types of a list is a name that denotes a union. -/
def keepFlat (ns : Namespace) : List TypeExpr → Bool
  | [] => true
  | t :: ts => ns.keepsFlat t && ns.keepFlat ts

end

variable {ns : Namespace} {s t : TypeExpr} {ts ts' : List TypeExpr}

theorem keepFlat_eq_all (ns : Namespace) (ts : List TypeExpr) :
    ns.keepFlat ts = ts.all ns.keepsFlat := by
  induction ts with
  | nil => rfl
  | cons t ts ih => rw [keepFlat, ih, List.all_cons]

/-- The types of a list are resolved one by one. -/
theorem substituteItems_eq_ok_iff : ns.substituteItems ts = .ok ts' ↔
    List.Forall₂ (fun t t' => ns.substitute t = .ok t') ts ts' := by
  induction ts generalizing ts' with
  | nil =>
    rw [substituteItems, List.forall₂_nil_left_iff]
    exact ⟨fun h => (Except.ok.inj h).symm, fun h => h ▸ rfl⟩
  | cons t ts ih =>
    rw [substituteItems, List.forall₂_cons_left_iff, Except.bind_eq_ok_iff]
    constructor
    · rintro ⟨t', ht, h⟩
      obtain ⟨rest, hts, h⟩ := Except.bind_eq_ok_iff.mp h
      exact ⟨t', rest, ht, ih.mp hts, (Except.ok.inj h).symm⟩
    · rintro ⟨t', rest, ht, hts, rfl⟩
      exact ⟨t', ht, Except.bind_eq_ok_iff.mpr ⟨rest, ih.mpr hts, rfl⟩⟩

/-- What is asked of the types that a list is resolved to can be asked of the types in it. -/
theorem all_substituteItems {p q : TypeExpr → Bool} (h : ns.substituteItems ts = .ok ts')
    (heq : ∀ t ∈ ts, ∀ t', ns.substitute t = .ok t' → p t' = q t) : ts'.all p = ts.all q := by
  rw [substituteItems_eq_ok_iff] at h
  induction h with
  | nil => rfl
  | cons ht _ ih =>
    rw [List.forall_mem_cons] at heq
    rw [List.all_cons, List.all_cons, heq.1 _ ht, ih heq.2]

theorem isFlat_of_resolvePath (hns : ns.BindsFlat) {path : String}
    (h : ns.resolvePath path = .ok t) : t.isFlat := by
  obtain ⟨-, hlookup⟩ | ⟨head, -, -, rfl⟩ := resolvePath_eq_ok_iff.mp h
  · exact hns path t hlookup
  · rfl

/-- A type that is no union becomes one just if it is a name that denotes a union. -/
theorem isUnion_of_substitute (hs : s.isUnion = false) (h : ns.substitute s = .ok t) :
    t.isUnion = ns.denotesUnion s := by
  cases s with
  | name path =>
    rw [substitute] at h
    simp only [denotesUnion, h]
  | generic origin args =>
    obtain ⟨origin', -, h⟩ := Except.bind_eq_ok_iff.mp h
    obtain ⟨args', -, h⟩ := Except.bind_eq_ok_iff.mp h
    rw [← Except.ok.inj h]
    rfl
  | union members => cases hs
  | noneType =>
    cases h
    rfl
  | literal origin values =>
    obtain ⟨origin', -, h⟩ := Except.bind_eq_ok_iff.mp h
    rw [← Except.ok.inj h]
    rfl

/-- Replacing the names of a regular type gives a flat type just if no member of a union in it is a
name that denotes a union. -/
theorem isFlat_substitute (hns : ns.BindsFlat) (hs : s.IsRegular) (h : ns.substitute s = .ok t) :
    t.isFlat = ns.keepsFlat s := by
  -- Along the type: only the names of it change, and a name alone is resolved to a flat type.
  induction hs generalizing t with
  | name =>
    rw [substitute] at h
    exact isFlat_of_resolvePath hns h
  | @generic origin ts _ _ _ _ ih =>
    obtain ⟨origin', -, h⟩ := Except.bind_eq_ok_iff.mp h
    obtain ⟨ts', hts, h⟩ := Except.bind_eq_ok_iff.mp h
    rw [← Except.ok.inj h, TypeExpr.isFlat_generic, keepsFlat, keepFlat_eq_all]
    exact all_substituteItems hts fun t ht _ ht' => ih t ht ht'
  | @union ts hlength hunion _ ih =>
    obtain ⟨ts', hts, h⟩ := Except.bind_eq_ok_iff.mp h
    have hlength' : 2 ≤ ts'.length := (substituteItems_eq_ok_iff.mp hts).length_eq ▸ hlength
    have hmembers : ts'.all (fun t => !t.isUnion) = ts.all fun t => !ns.denotesUnion t :=
      all_substituteItems hts fun t ht _ ht' => by rw [isUnion_of_substitute (hunion t ht) ht']
    have hflat : ts'.all TypeExpr.isFlat = ts.all ns.keepsFlat :=
      all_substituteItems hts fun t ht _ ht' => ih t ht ht'
    rw [← Except.ok.inj h, TypeExpr.isFlat_union, keepsFlat, keepFlat_eq_all, hmembers, hflat,
      decide_eq_true hlength', Bool.true_and]
  | noneType =>
    cases h
    rfl
  | literal =>
    obtain ⟨origin', -, h⟩ := Except.bind_eq_ok_iff.mp h
    rw [← Except.ok.inj h]
    rfl

/-- **The type that a text denotes is flat** just if no member of a union that the text spells is a
name that denotes a union, where the names are bound to flat types. -/
theorem isFlat_resolve (hns : ns.BindsFlat) {reference : String}
    (h : ns.resolve reference = .ok t) :
    ∃ s, TypeExpr.parse reference = .ok s ∧ t.isFlat = ns.keepsFlat s := by
  rw [resolve] at h
  split at h
  · rename_i s hparse
    exact ⟨s, hparse, isFlat_substitute hns (TypeExpr.regular_of_parse hparse) h⟩
  · cases h

/-- A namespace in which a name denotes a union. -/
def scalarNamespace : Namespace :=
  (ofName "shapes").bind "Scalar" (.union [.name "int", .name "float"])

theorem bindsFlat_scalarNamespace : scalarNamespace.BindsFlat :=
  (selfBound_ofName "shapes").bindsFlat.bind "Scalar" (by decide)

theorem isFlat_resolve_subscript : scalarNamespace.BindsFlat ∧
    ∃ t, scalarNamespace.resolve "list[Scalar] | None" = .ok t ∧ t.isFlat := by
  have hread : scalarNamespace.resolve "list[Scalar] | None" =
      .ok (.union [.generic "list" [.union [.name "int", .name "float"]], .noneType]) := by
    decide +kernel
  obtain ⟨s, hparse, hflat⟩ := isFlat_resolve bindsFlat_scalarNamespace hread
  refine ⟨bindsFlat_scalarNamespace, _, hread, ?_⟩
  have hspelled : TypeExpr.parse "list[Scalar] | None" =
      .ok (.union [.generic "list" [.name "Scalar"], .noneType]) := by decide +kernel
  obtain rfl := Except.ok.inj (hspelled.symm.trans hparse)
  rw [hflat]
  decide +kernel

/-- As a member of a union, a name that denotes a union becomes a union in a union. -/
theorem isFlat_resolve_member : scalarNamespace.BindsFlat ∧
    ∃ t, scalarNamespace.resolve "Scalar | None" = .ok t ∧ t.isFlat = false := by
  refine ⟨bindsFlat_scalarNamespace,
    .union [.union [.name "int", .name "float"], .noneType], ?_, ?_⟩
  · decide +kernel
  · decide

end RecordForms.Namespace
