import RecordForms.Proofs.Scan.Unit

/-!
# What a source file binds

The namespace of a source file knows the builtin types and the names that its statements bind or
import, and nothing else.  So it does not depend on the order of the statements, and with more
statements it knows more names and resolves more types, each of them as before.

## Main definitions

* `Namespace.Extends ns' ns`: `ns'` resolves every name that `ns` resolves, and to the same type
* `Scan.boundNames`, `Scan.importedNames`: the names that a statement binds or imports

## Main results

* `Namespace.Extends.resolve`: a text that denotes a type denotes it in every extension
* `Scan.contains_namespaceOf_iff`, `Scan.isImported_namespaceOf_iff`: the names that are known
* `Scan.extends_namespaceOf`: more statements extend the namespace, in whatever order they stand
-/

namespace RecordForms

namespace Namespace

/-- Whether `ns'` resolves every name that `ns` resolves, and to the same type. -/
def Extends (ns' ns : Namespace) : Prop :=
  ∀ path t, ns.resolvePath path = .ok t → ns'.resolvePath path = .ok t

namespace Extends

variable {ns ns' : Namespace}

theorem refl (ns : Namespace) : ns.Extends ns :=
  fun _ _ h => h

theorem resolveOrigin (h : ns'.Extends ns) {origin path : String}
    (horigin : ns.resolveOrigin origin = .ok path) : ns'.resolveOrigin origin = .ok path := by
  rw [Namespace.resolveOrigin] at horigin
  split at horigin
  · rename_i path' hpath
    rw [Namespace.resolveOrigin, h _ _ hpath]
    exact horigin
  · cases horigin
  · cases horigin

mutual

theorem substitute (h : ns'.Extends ns) {t t' : TypeExpr} (hread : ns.substitute t = .ok t') :
    ns'.substitute t = .ok t' := by
  match t with
  | .name path =>
    rw [Namespace.substitute] at hread ⊢
    exact h path t' hread
  | .generic origin args =>
    rw [Namespace.substitute] at hread ⊢
    obtain ⟨origin', horigin, hread⟩ := Except.bind_eq_ok_iff.mp hread
    obtain ⟨args', hargs, heq⟩ := Except.bind_eq_ok_iff.mp hread
    rw [h.resolveOrigin horigin, Except.ok_bind, substituteItems h hargs, Except.ok_bind, heq]
  | .union members =>
    rw [Namespace.substitute] at hread ⊢
    obtain ⟨members', hmembers, heq⟩ := Except.bind_eq_ok_iff.mp hread
    rw [substituteItems h hmembers, Except.ok_bind, heq]
  | .literal origin values =>
    rw [Namespace.substitute] at hread ⊢
    obtain ⟨origin', horigin, heq⟩ := Except.bind_eq_ok_iff.mp hread
    rw [h.resolveOrigin horigin, Except.ok_bind, heq]
  | .noneType =>
    rw [Namespace.substitute] at hread ⊢
    exact hread

theorem substituteItems (h : ns'.Extends ns) {ts ts' : List TypeExpr}
    (hread : ns.substituteItems ts = .ok ts') : ns'.substituteItems ts = .ok ts' := by
  match ts with
  | [] =>
    rw [Namespace.substituteItems] at hread ⊢
    exact hread
  | t :: ts =>
    rw [Namespace.substituteItems] at hread ⊢
    obtain ⟨t', ht, hread⟩ := Except.bind_eq_ok_iff.mp hread
    obtain ⟨ts', hts, heq⟩ := Except.bind_eq_ok_iff.mp hread
    rw [substitute h ht, Except.ok_bind, substituteItems h hts, Except.ok_bind, heq]

end

/-- A text that denotes a type denotes the same type in every extension. -/
theorem resolve (h : ns'.Extends ns) {reference : String} {t : TypeExpr}
    (hread : ns.resolve reference = .ok t) : ns'.resolve reference = .ok t := by
  rw [Namespace.resolve] at hread ⊢
  cases hparse : TypeExpr.parse reference with
  | ok parsed =>
    rw [hparse] at hread
    exact h.substitute hread
  | error e =>
    rw [hparse] at hread
    cases hread

end Extends

variable {ns ns' : Namespace}

/-- A name that is resolved is bound, or begins with a name that is bound or imported. -/
theorem binds_of_resolvePath {path : String} {t : TypeExpr} (h : ns.resolvePath path = .ok t) :
    ns.Binds path := by
  rw [Binds]
  obtain ⟨hsimple, hlookup⟩ | ⟨head, hdotted, hhead, -⟩ := resolvePath_eq_ok_iff.mp h
  · rw [hsimple]
    exact Option.isSome_iff_exists.mpr ⟨t, hlookup⟩
  · rw [hdotted]
    exact hhead

/-- Among names that denote themselves, whoever binds more names resolves more. -/
theorem SelfBound.extends (h : ns.SelfBound) (h' : ns'.SelfBound)
    (hbound : ∀ name, ns.bindings.contains name → ns'.bindings.contains name)
    (himported : ∀ name, ns.isImported name → ns'.isImported name) : ns'.Extends ns := by
  -- A name that is resolved denotes itself here, and so it does there as soon as it is known.
  intro path t hpath
  have hbinds := binds_of_resolvePath hpath
  have hbinds' : ns'.Binds path := by
    rw [Binds] at hbinds ⊢
    cases hmodule : moduleOf? path with
    | none =>
      rw [hmodule] at hbinds
      exact hbound path hbinds
    | some head =>
      rw [hmodule] at hbinds
      exact hbinds.imp (himported head) (hbound head)
  rw [h.eq_of_resolvePath hpath]
  exact (h'.knows hbinds').resolvePath

end Namespace

namespace Scan

/-- The names that an assignment to a target binds. -/
def targetNames : Expr → List String
  | .name id => [id]
  | _ => []

/-- The names that an imported name binds; a star binds none that is known. -/
def aliasNames (a : Alias) : List String :=
  if a.name = "*" then [] else [a.bound]

/-- The names that a statement binds. -/
def boundNames : Stmt → List String
  | .importFrom _ names _ => names.flatMap aliasNames
  | .classDef c => [c.name]
  | .assign targets _ _ => targets.flatMap targetNames
  | .annAssign target _ _ _ => targetNames target
  | _ => []

/-- The names under which a statement makes modules known. -/
def importedNames : Stmt → List String
  | .importModules names _ => names.map importedName
  | _ => []

variable {ns : Namespace} {key : String}

/-- What is known after steps each of which adds some names. -/
theorem foldl_adds {α : Type} (known : Namespace → Prop) {step : Namespace → α → Namespace}
    {names : α → List String}
    (hstep : ∀ ns a, known (step ns a) ↔ key ∈ names a ∨ known ns) (as : List α) :
    known (as.foldl step ns) ↔ key ∈ as.flatMap names ∨ known ns := by
  induction as generalizing ns with
  | nil => simp
  | cons a as ih =>
    rw [List.foldl_cons, ih, hstep, List.flatMap_cons, List.mem_append, or_left_comm, or_assoc]

/-- What is known after steps none of which changes it. -/
theorem foldl_keeps {α β : Type} (view : Namespace → β) {step : Namespace → α → Namespace}
    (hstep : ∀ ns a, view (step ns a) = view ns) (as : List α) :
    view (as.foldl step ns) = view ns := by
  induction as generalizing ns with
  | nil => rfl
  | cons a as ih => rw [List.foldl_cons, ih, hstep]

/-! ### One statement -/

theorem contains_define (ns : Namespace) (name : String) :
    (ns.define name).bindings.contains key ↔ key ∈ [name] ∨ ns.bindings.contains key := by
  rw [Namespace.define, Namespace.bind, NameMap.contains, NameMap.get?_insert, NameMap.contains,
    List.mem_singleton]
  split
  · rename_i h
    simp [h]
  · rename_i h
    simp [Ne.symm h]

theorem isImported_addImport (ns : Namespace) (module : String) :
    (ns.addImport module).isImported key ↔ key ∈ [module] ∨ ns.isImported key := by
  simp [Namespace.addImport, Namespace.isImported, NameSet.contains, NameSet.mem_insert]

theorem contains_bindTarget (ns : Namespace) (target : Expr) :
    (bindTarget ns target).bindings.contains key ↔
      key ∈ targetNames target ∨ ns.bindings.contains key := by
  cases target with
  | name id => exact contains_define ns id
  | _ => simp [bindTarget, targetNames]

theorem imports_bindTarget (ns : Namespace) (target : Expr) :
    (bindTarget ns target).imports = ns.imports := by
  cases target with
  | _ => rfl

/-- A statement binds its own names and no others. -/
theorem contains_bindStmt (ns : Namespace) (s : Stmt) :
    (bindStmt ns s).bindings.contains key ↔ key ∈ boundNames s ∨ ns.bindings.contains key := by
  cases s with
  | classDef c => exact contains_define ns c.name
  | annAssign target => exact contains_bindTarget ns target
  | assign targets => exact foldl_adds (·.bindings.contains key) contains_bindTarget targets
  | importFrom module names =>
    have halias (ns : Namespace) (a : Alias) :
        (if a.name = "*" then ns else ns.define a.bound).bindings.contains key ↔
          key ∈ aliasNames a ∨ ns.bindings.contains key := by
      rw [aliasNames]
      split
      · simp
      · exact contains_define ns a.bound
    exact foldl_adds (·.bindings.contains key) halias names
  | importModules names =>
    have hkept : (names.foldl (fun ns a => ns.addImport (importedName a)) ns).bindings =
        ns.bindings :=
      foldl_keeps Namespace.bindings (fun ns a => by rw [Namespace.addImport]) names
    simp [bindStmt, hkept, boundNames]
  | _ => simp [bindStmt, boundNames]

/-- A statement imports its own names and no others. -/
theorem isImported_bindStmt (ns : Namespace) (s : Stmt) :
    (bindStmt ns s).isImported key ↔ key ∈ importedNames s ∨ ns.isImported key := by
  have hkept {ns' : Namespace} (h : ns'.imports = ns.imports) :
      ns'.isImported key ↔ key ∈ [] ∨ ns.isImported key := by
    simp [Namespace.isImported, h]
  cases s with
  | importModules names =>
    rw [importedNames, List.map_eq_flatMap]
    exact foldl_adds (·.isImported key) (fun ns a => isImported_addImport ns (importedName a)) names
  | assign targets => exact hkept (foldl_keeps Namespace.imports imports_bindTarget targets)
  | annAssign target => exact hkept (imports_bindTarget ns target)
  | importFrom module names =>
    refine hkept (foldl_keeps Namespace.imports (fun ns a => ?_) names)
    split
    · rfl
    · rfl
  | _ => exact hkept rfl

/-! ### All statements -/

/-- The names that a source file binds: the builtin types and those that its statements bind. -/
theorem contains_namespaceOf_iff {body : List Stmt} :
    (namespaceOf body).bindings.contains key ↔
      key ∈ body.flatMap boundNames ∨ (Namespace.ofName unitName).bindings.contains key :=
  foldl_adds (·.bindings.contains key) contains_bindStmt body

/-- The names that a source file imports: those that its statements import. -/
theorem isImported_namespaceOf_iff {body : List Stmt} :
    (namespaceOf body).isImported key ↔
      key ∈ body.flatMap importedNames ∨ (Namespace.ofName unitName).isImported key :=
  foldl_adds (·.isImported key) isImported_bindStmt body

/-- More statements extend the namespace, in whatever order they stand. -/
theorem extends_namespaceOf {body body' : List Stmt} (h : body ⊆ body') :
    (namespaceOf body').Extends (namespaceOf body) := by
  have hnames (names : Stmt → List String) : body.flatMap names ⊆ body'.flatMap names := by
    intro name hname
    obtain ⟨s, hs, hname⟩ := List.mem_flatMap.mp hname
    exact List.mem_flatMap.mpr ⟨s, h hs, hname⟩
  refine (selfBound_namespaceOf body).extends (selfBound_namespaceOf body') ?_ ?_
  · intro name
    rw [contains_namespaceOf_iff, contains_namespaceOf_iff]
    exact Or.imp_left fun hname => hnames boundNames hname
  · intro name
    rw [isImported_namespaceOf_iff, isImported_namespaceOf_iff]
    exact Or.imp_left fun hname => hnames importedNames hname

end Scan

end RecordForms
