import RecordForms.Proofs.Namespace
import RecordForms.Scan.Unit

/-!
# Names that denote themselves

Whatever the statements of a source file are, a name that its namespace knows denotes itself: an
assignment, an import and a class bind their names to nothing else.  So resolving a type in it
refuses the type or leaves it as it is.

## Main definitions

* `Namespace.Binds ns path`: `ns` binds the simple name `path`, or imports or binds what the dotted
  name `path` begins with
* `Namespace.SelfBound ns`: every name that `ns` binds denotes itself

## Main results

* `Namespace.SelfBound.eq_of_substitute`: a type whose names are replaced by themselves
* `Namespace.SelfBound.parse_of_resolve`: a text that denotes the type that it spells
* `Scan.selfBound_namespaceOf`: the namespace of a source file is self-bound
-/

namespace RecordForms

namespace Namespace

variable {ns : Namespace}

/-- Whether a simple name is bound, or the first component of a dotted name is imported or bound. -/
def Binds (ns : Namespace) (path : String) : Prop :=
  match moduleOf? path with
  | none => ns.bindings.contains path
  | some head => ns.isImported head ∨ ns.bindings.contains head

instance (ns : Namespace) (path : String) : Decidable (ns.Binds path) :=
  match h : moduleOf? path with
  | none => decidable_of_iff (ns.bindings.contains path) (by simp [Binds, h])
  | some head =>
    decidable_of_iff (ns.isImported head ∨ ns.bindings.contains head) (by simp [Binds, h])

/-- Every name that is bound denotes itself. -/
def SelfBound (ns : Namespace) : Prop :=
  ∀ name t, ns.lookup name = some t → t = .name name

namespace SelfBound

theorem knows (h : ns.SelfBound) {path : String} (hbinds : ns.Binds path) : ns.Knows path := by
  rw [Binds] at hbinds
  rw [Knows]
  cases hmodule : moduleOf? path with
  | some head =>
    rw [hmodule] at hbinds
    exact hbinds
  | none =>
    rw [hmodule] at hbinds
    -- what a bound name denotes is the name
    obtain ⟨t, ht⟩ := Option.isSome_iff_exists.mp hbinds
    have hlookup : ns.lookup path = some t := ht
    simp only [hlookup, h path t hlookup]

theorem define (h : ns.SelfBound) (name : String) : (ns.define name).SelfBound := by
  intro key t hlookup
  simp only [lookup, Namespace.define, bind, NameMap.get?_insert] at hlookup
  split at hlookup
  · rename_i hkey
    rw [← Option.some.inj hlookup, hkey]
  · exact h key t hlookup

theorem addImport (h : ns.SelfBound) (module : String) : (ns.addImport module).SelfBound := h

/-- What every step keeps is kept by one step after another. -/
theorem foldl {α : Type} {step : Namespace → α → Namespace}
    (hstep : ∀ ns a, ns.SelfBound → (step ns a).SelfBound) (h : ns.SelfBound) (as : List α) :
    (as.foldl step ns).SelfBound := by
  induction as generalizing ns with
  | nil => exact h
  | cons a as ih => exact ih (hstep ns a h)

/-! ### Resolving a type -/

theorem eq_of_resolvePath (h : ns.SelfBound) {path : String} {t : TypeExpr}
    (hpath : ns.resolvePath path = .ok t) : t = .name path := by
  obtain ⟨-, hlookup⟩ | ⟨head, -, -, rfl⟩ := resolvePath_eq_ok_iff.mp hpath
  · exact h path t hlookup
  · rfl

theorem eq_of_resolveOrigin (h : ns.SelfBound) {origin path : String}
    (horigin : ns.resolveOrigin origin = .ok path) : path = origin := by
  rw [Namespace.resolveOrigin] at horigin
  split at horigin
  · rename_i path' hpath
    obtain rfl : path' = path := Except.ok.inj horigin
    exact TypeExpr.name.inj (h.eq_of_resolvePath hpath)
  · cases horigin
  · cases horigin

mutual

/-- A type that is resolved among names that denote themselves is left as it is. -/
theorem eq_of_substitute (h : ns.SelfBound) {t t' : TypeExpr} (hread : ns.substitute t = .ok t') :
    t' = t := by
  match t with
  | .name path =>
    rw [substitute] at hread
    exact h.eq_of_resolvePath hread
  | .generic origin args =>
    rw [substitute] at hread
    obtain ⟨origin', horigin, hread⟩ := Except.bind_eq_ok_iff.mp hread
    obtain ⟨args', hargs, heq⟩ := Except.bind_eq_ok_iff.mp hread
    rw [← Except.ok.inj heq, h.eq_of_resolveOrigin horigin, eq_of_substituteItems h hargs]
  | .union members =>
    rw [substitute] at hread
    obtain ⟨members', hmembers, heq⟩ := Except.bind_eq_ok_iff.mp hread
    rw [← Except.ok.inj heq, eq_of_substituteItems h hmembers]
  | .literal origin values =>
    rw [substitute] at hread
    obtain ⟨origin', horigin, heq⟩ := Except.bind_eq_ok_iff.mp hread
    rw [← Except.ok.inj heq, h.eq_of_resolveOrigin horigin]
  | .noneType =>
    rw [substitute] at hread
    exact (Except.ok.inj hread).symm

theorem eq_of_substituteItems (h : ns.SelfBound) {ts ts' : List TypeExpr}
    (hread : ns.substituteItems ts = .ok ts') : ts' = ts := by
  match ts with
  | [] =>
    rw [substituteItems] at hread
    exact (Except.ok.inj hread).symm
  | t :: ts =>
    rw [substituteItems] at hread
    obtain ⟨t', ht, hread⟩ := Except.bind_eq_ok_iff.mp hread
    obtain ⟨ts', hts, heq⟩ := Except.bind_eq_ok_iff.mp hread
    rw [← Except.ok.inj heq, eq_of_substitute h ht, eq_of_substituteItems h hts]

end

/-- Among names that denote themselves a text denotes nothing but the type that it spells. -/
theorem parse_of_resolve (h : ns.SelfBound) {reference : String} {t : TypeExpr}
    (hread : ns.resolve reference = .ok t) : TypeExpr.parse reference = .ok t := by
  rw [resolve] at hread
  split at hread
  · rename_i t' hparse
    rw [hparse, h.eq_of_substitute hread]
  · cases hread

end SelfBound

theorem selfBound_ofName (name : String) : (ofName name).SelfBound := by
  -- the builtin types are bound one after another, and nothing is bound before
  have hfold : ofName name = builtinTypes.foldl define ⟨name, .empty, .empty⟩ := rfl
  have hempty : SelfBound ⟨name, .empty, .empty⟩ := by
    intro key t hlookup
    cases hlookup
  rw [hfold]
  exact hempty.foldl (fun _ b h => h.define b) builtinTypes

end Namespace

namespace Scan

theorem selfBound_bindTarget {ns : Namespace} (h : ns.SelfBound) (target : Expr) :
    (bindTarget ns target).SelfBound := by
  cases target with
  | name id => exact h.define id
  | _ => exact h

/-- A statement binds its names to themselves. -/
theorem selfBound_bindStmt {ns : Namespace} (h : ns.SelfBound) (s : Stmt) :
    (bindStmt ns s).SelfBound := by
  cases s with
  | importModules names => exact h.foldl (fun _ a h => h.addImport (importedName a)) names
  | importFrom module names =>
    refine h.foldl (fun _ a h => ?_) names
    split
    · exact h
    · exact h.define a.bound
  | classDef c => exact h.define c.name
  | assign targets => exact h.foldl (fun _ target h => selfBound_bindTarget h target) targets
  | annAssign target => exact selfBound_bindTarget h target
  | _ => exact h

/-- The namespace of a source file is self-bound. -/
theorem selfBound_namespaceOf (body : List Stmt) : (namespaceOf body).SelfBound :=
  (Namespace.selfBound_ofName unitName).foldl (fun _ s h => selfBound_bindStmt h s) body

end Scan

end RecordForms
