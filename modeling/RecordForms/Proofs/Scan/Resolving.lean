import RecordForms.Proofs.Namespace.Substitution
import RecordForms.Proofs.Scan.Bindings

/-!
# Types in a source file

Every name that a source file binds denotes itself in it.  So a text denotes the type that it
spells, with none of its names replaced, or it holds a name that the statements of the file neither
define nor import; a subscripted name is never bound to something that cannot be subscripted.

## Main definitions

* `Scan.Defines body name`: some statement, or the language, gives a meaning to the simple name
* `Scan.Imports body name`: some statement imports a module under the name
* `Scan.Misses body path e`: the name is reported because neither of these is so

## Main results

* `Scan.contains_iff_defines`, `Scan.isImported_iff_imports`: what the namespace of a file knows
* `Scan.offends_namespaceOf_iff`: the names that are reported in a file
* `Scan.resolve_namespaceOf`: what a text denotes in a file, and what is reported of it
-/

namespace RecordForms.Scan

open Namespace

/-- Whether a simple name has a meaning in a source file: it is a builtin type, or a statement at
the top of the file binds it. -/
inductive Defines (body : List Stmt) : String → Prop
  | builtin {name : String} (h : name ∈ builtinTypes) : Defines body name
  | classDef {c : ClassDef} (h : .classDef c ∈ body) : Defines body c.name
  | importFrom {module : String} {names : List Alias} {span : Span} {a : Alias}
      (h : .importFrom module names span ∈ body) (ha : a ∈ names) (hstar : a.name ≠ "*") :
      Defines body a.bound
  | assign {targets : List Expr} {value : Expr} {span : Span} {id : String}
      (h : .assign targets value span ∈ body) (hid : .name id ∈ targets) : Defines body id
  | annAssign {id : String} {type : Expr} {value : Option Expr} {span : Span}
      (h : .annAssign (.name id) type value span ∈ body) : Defines body id

/-- Whether a statement at the top of a source file imports a module under a name: the other name
that the module is given, or the first component of its own. -/
inductive Imports (body : List Stmt) : String → Prop
  | renamed {names : List Alias} {span : Span} {a : Alias} {name : String}
      (h : .importModules names span ∈ body) (ha : a ∈ names) (hname : a.asName = some name) :
      Imports body name
  | plain {names : List Alias} {span : Span} {a : Alias}
      (h : .importModules names span ∈ body) (ha : a ∈ names) (hname : a.asName = none) :
      Imports body (String.ofList (a.name.toList.takeWhile (· ≠ '.')))

/-- What is reported of a name that a source file does not know.  Of a dotted name it is the first
component, which may also be an imported module. -/
inductive Misses (body : List Stmt) (path : String) : Unresolved → Prop
  | simple (hsimple : moduleOf? path = none) (hdefines : ¬ Defines body path) :
      Misses body path (.undefined unitName path)
  | dotted {head : String} (hdotted : moduleOf? path = some head) (hdefines : ¬ Defines body head)
      (himports : ¬ Imports body head) : Misses body path (.undefined unitName head)

variable {body : List Stmt} {name : String}

/-! ### What is bound -/

theorem contains_ofName_iff (unit : String) :
    (ofName unit).bindings.contains name ↔ name ∈ builtinTypes := by
  have hnames : (ofName unit).bindings.names = builtinTypes := rfl
  rw [NameMap.contains, NameMap.isSome_get?_iff, hnames]

theorem defines_of_mem_boundNames {s : Stmt} (hs : s ∈ body) (h : name ∈ boundNames s) :
    Defines body name := by
  cases s with
  | classDef c =>
    obtain rfl := List.mem_singleton.mp h
    exact .classDef hs
  | importFrom module names =>
    obtain ⟨a, ha, hname⟩ := List.mem_flatMap.mp h
    rw [aliasNames] at hname
    split at hname
    · cases hname
    · rename_i hstar
      obtain rfl := List.mem_singleton.mp hname
      exact .importFrom hs ha hstar
  | assign targets =>
    obtain ⟨target, htarget, hname⟩ := List.mem_flatMap.mp h
    cases target with
    | name id =>
      obtain rfl := List.mem_singleton.mp hname
      exact .assign hs htarget
    | _ => cases hname
  | annAssign target =>
    cases target with
    | name id =>
      obtain rfl := List.mem_singleton.mp h
      exact .annAssign hs
    | _ => cases h
  | _ => cases h

/-- The namespace of a source file binds the names that have a meaning in the file. -/
theorem contains_iff_defines :
    (namespaceOf body).bindings.contains name ↔ Defines body name := by
  rw [contains_namespaceOf_iff, contains_ofName_iff, List.mem_flatMap]
  constructor
  · rintro (⟨s, hs, hname⟩ | hbuiltin)
    · exact defines_of_mem_boundNames hs hname
    · exact .builtin hbuiltin
  · rintro (hbuiltin | h | ⟨h, ha, hstar⟩ | ⟨h, hid⟩ | h)
    · exact .inr hbuiltin
    · exact .inl ⟨_, h, List.mem_singleton_self _⟩
    · refine .inl ⟨_, h, List.mem_flatMap.mpr ⟨_, ha, ?_⟩⟩
      rw [aliasNames, if_neg hstar]
      exact List.mem_singleton_self _
    · exact .inl ⟨_, h, List.mem_flatMap.mpr ⟨_, hid, List.mem_singleton_self _⟩⟩
    · exact .inl ⟨_, h, List.mem_singleton_self _⟩

/-- The namespace of a source file imports the names under which the file imports modules. -/
theorem isImported_iff_imports : (namespaceOf body).isImported name ↔ Imports body name := by
  have hnone : ¬ (ofName unitName).isImported name := nofun
  rw [isImported_namespaceOf_iff, or_iff_left hnone, List.mem_flatMap]
  constructor
  · rintro ⟨s, hs, hname⟩
    cases s with
    | importModules names =>
      obtain ⟨a, ha, rfl⟩ := List.mem_map.mp hname
      unfold importedName
      cases hother : a.asName with
      | none => exact .plain hs ha hother
      | some other => exact .renamed hs ha hother
    | _ => cases hname
  · rintro (⟨h, ha, hname⟩ | ⟨h, ha, hname⟩)
    · refine ⟨_, h, List.mem_map.mpr ⟨_, ha, ?_⟩⟩
      rw [importedName, hname, Option.getD_some]
    · refine ⟨_, h, List.mem_map.mpr ⟨_, ha, ?_⟩⟩
      rw [importedName, hname, Option.getD_none]

theorem name_bindTarget (ns : Namespace) (target : Expr) :
    (bindTarget ns target).name = ns.name := by
  cases target <;> rfl

theorem name_bindStmt (ns : Namespace) (s : Stmt) : (bindStmt ns s).name = ns.name := by
  cases s with
  | importModules names =>
    refine foldl_keeps Namespace.name (fun ns a => ?_) names
    rw [Namespace.addImport]
  | importFrom module names =>
    refine foldl_keeps Namespace.name (fun ns a => ?_) names
    split <;> rfl
  | assign targets => exact foldl_keeps Namespace.name name_bindTarget targets
  | annAssign target => exact name_bindTarget ns target
  | _ => rfl

theorem name_namespaceOf (body : List Stmt) : (namespaceOf body).name = unitName :=
  foldl_keeps Namespace.name name_bindStmt body

/-! ### What is reported -/

/-- A name is reported in a source file just if the file neither defines nor imports it. -/
theorem offends_namespaceOf_iff {m : Mention} {e : Unresolved} :
    (namespaceOf body).Offends m e ↔ Misses body m.path e := by
  have hlookup {path : String} :
      (namespaceOf body).lookup path = none ↔ ¬ Defines body path := by
    rw [← contains_iff_defines, NameMap.contains, Option.not_isSome_iff_eq_none]
    rfl
  constructor
  · rintro (⟨hsimple, hnone⟩ | ⟨hdotted, himported, hbound⟩ | ⟨-, -, hbound, hname⟩)
    · rw [name_namespaceOf]
      exact .simple hsimple (hlookup.mp hnone)
    · rw [name_namespaceOf]
      rw [← Bool.not_eq_true, isImported_iff_imports] at himported
      rw [← Bool.not_eq_true, contains_iff_defines] at hbound
      exact .dotted hdotted hbound himported
    · -- a name that is bound denotes itself, which can be subscripted
      exact absurd (selfBound_namespaceOf body _ _ hbound) (hname _)
  · rintro (⟨hsimple, hdefines⟩ | ⟨hdotted, hdefines, himports⟩)
    · rw [← name_namespaceOf body]
      exact .simple hsimple (hlookup.mpr hdefines)
    · rw [← name_namespaceOf body]
      rw [← contains_iff_defines, Bool.not_eq_true] at hdefines
      rw [← isImported_iff_imports, Bool.not_eq_true] at himports
      exact .dotted hdotted himports hdefines

section Types

variable {t t' : TypeExpr} {e : Unresolved}

/-- The first name of a type that is missing from a source file is reported. -/
theorem substitute_namespaceOf_eq_error_iff : (namespaceOf body).substitute t = .error e ↔
    t.mentions.IsFirstFault (fun m => Misses body m.path) e := by
  rw [substitute_eq_error_iff]
  exact List.isFirstFault_congr fun m _ e => offends_namespaceOf_iff

/-- A type none of whose names is missing is left as it is. -/
theorem substitute_namespaceOf_eq_ok_iff : (namespaceOf body).substitute t = .ok t' ↔
    t = t' ∧ ∀ m ∈ t'.mentions, ∀ e, ¬ Misses body m.path e := by
  have herror (e : Unresolved) : (namespaceOf body).substitute t = .error e ↔
      t.mentions.IsFirstFault (fun m => Misses body m.path) e :=
    substitute_namespaceOf_eq_error_iff
  have hsome := Except.exists_eq_ok_iff_of_firstFault herror
  have hself {t'' : TypeExpr} (h : (namespaceOf body).substitute t = .ok t'') : t = t'' :=
    ((selfBound_namespaceOf body).eq_of_substitute h).symm
  constructor
  · intro h
    obtain rfl := hself h
    exact ⟨rfl, hsome.mp ⟨t, h⟩⟩
  · rintro ⟨rfl, hknown⟩
    obtain ⟨t'', h⟩ := hsome.mpr hknown
    obtain rfl := hself h
    exact h

end Types

/-- **A source file renames nothing.**  A text denotes the type that it spells if no name in the
type is missing from the file, and otherwise nothing: what is reported is then the first name in
reading order that is missing, and never that a name cannot be subscripted. -/
theorem resolve_namespaceOf (body : List Stmt) (reference : String) :
    (∀ t, (namespaceOf body).resolve reference = .ok t ↔
      TypeExpr.parse reference = .ok t ∧ ∀ m ∈ t.mentions, ∀ e, ¬ Misses body m.path e) ∧
    (∀ name bound, (namespaceOf body).resolve reference ≠ .error (.notGeneric name bound)) ∧
    ∀ module name, (namespaceOf body).resolve reference = .error (.undefined module name) ↔
      ∃ t, TypeExpr.parse reference = .ok t ∧
        t.mentions.IsFirstFault (fun m => Misses body m.path) (.undefined module name) := by
  cases hparse : TypeExpr.parse reference with
  | error malformed =>
    -- a text that spells no type is reported as such
    have hresolve : (namespaceOf body).resolve reference = .error (.malformed malformed) := by
      rw [resolve, hparse]
    simp [hresolve]
  | ok parsed =>
    have hresolve :
        (namespaceOf body).resolve reference = (namespaceOf body).substitute parsed := by
      rw [resolve, hparse]
    rw [hresolve]
    refine ⟨fun t => ?_, fun name bound h => ?_, fun module name => ?_⟩
    · rw [substitute_namespaceOf_eq_ok_iff, Except.ok.injEq]
    · -- what is reported of a name is never that it cannot be subscripted
      obtain ⟨before, m, after, -, -, hmisses⟩ := substitute_namespaceOf_eq_error_iff.mp h
      cases hmisses
    · simp only [Except.ok.injEq, exists_eq_left', substitute_namespaceOf_eq_error_iff]

/-- A file with a class, a module, a name that is given another, and all names of a module. -/
def rowUnit : List Stmt :=
  [.classDef ⟨"Row", [], [], [], [], default⟩,
    .importModules [⟨"a.b", none⟩] default,
    .importFrom "typing" [⟨"Optional", some "Opt"⟩] default,
    .importFrom "shapes" [⟨"*", none⟩] default]

/-- Names that the file defines and imports are left as they are, and of two that are missing, the
second one the first component of a dotted name, the first is reported. -/
theorem resolve_namespaceOf_row :
    (namespaceOf rowUnit).resolve "Opt[Row, a.b.C]" =
      .ok (.generic "Opt" [.name "Row", .name "a.b.C"]) ∧
    (∀ name bound, (namespaceOf rowUnit).resolve "Row[Optional, b.C]" ≠
      .error (.notGeneric name bound)) ∧
    (namespaceOf rowUnit).resolve "Row[Optional, b.C]" =
      .error (.undefined unitName "Optional") := by
  have hparse : TypeExpr.parse "Opt[Row, a.b.C]" =
      .ok (.generic "Opt" [.name "Row", .name "a.b.C"]) := by decide +kernel
  have hparse' : TypeExpr.parse "Row[Optional, b.C]" =
      .ok (.generic "Row" [.name "Optional", .name "b.C"]) := by decide +kernel
  -- a name that denotes itself is not missing
  have hknown {m : Mention} (h : (namespaceOf rowUnit).Knows m.path) (e : Unresolved) :
      ¬ Misses rowUnit m.path e :=
    fun hmisses => admits_iff.mp h.admits e (offends_namespaceOf_iff.mpr hmisses)
  have hall : ∀ m ∈ [⟨"Opt", true⟩, ⟨"Row", false⟩, ⟨"a.b.C", false⟩],
      (namespaceOf rowUnit).Knows (Mention.path m) := by decide +kernel
  have hrow : (namespaceOf rowUnit).Knows "Row" := by decide +kernel
  have hmissing : Misses rowUnit "Optional" (.undefined unitName "Optional") := by
    refine .simple (by decide +kernel) ?_
    rw [← contains_iff_defines]
    decide +kernel
  refine ⟨((resolve_namespaceOf rowUnit _).1 _).mpr ⟨hparse, fun m hm => hknown (hall m hm)⟩,
    (resolve_namespaceOf rowUnit _).2.1, ?_⟩
  refine ((resolve_namespaceOf rowUnit _).2.2 _ _).mpr ⟨_, hparse', ?_⟩
  exact ⟨[⟨"Row", true⟩], ⟨"Optional", false⟩, [⟨"b.C", false⟩], rfl,
    List.forall_mem_singleton.mpr (hknown hrow), hmissing⟩

end RecordForms.Scan
