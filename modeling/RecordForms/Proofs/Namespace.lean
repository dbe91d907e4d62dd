import RecordForms.Namespace
import RecordForms.Proofs.TypeExpr.RoundTrip

/-!
# Resolving the text of a type

In a namespace that knows the names of a regular type, the text of the type denotes the type.

## Main definitions

* `Namespace.Knows ns path`: `path` denotes itself in `ns`

## Main results

* `Namespace.resolvePath_eq_ok_iff`: when a name denotes something, and what
* `Namespace.substitute_eq_self`: a type whose names are known denotes itself, and so does its text
  if the values of the type are plain
-/

namespace RecordForms.Namespace

/-- Whether `path` denotes itself: a simple name is bound to itself, and the first component of a
dotted name is imported or bound to anything. -/
def Knows (ns : Namespace) (path : String) : Prop :=
  match moduleOf? path with
  | none => ns.lookup path = some (.name path)
  | some head => ns.isImported head ∨ ns.bindings.contains head

instance (ns : Namespace) (path : String) : Decidable (ns.Knows path) :=
  match h : moduleOf? path with
  | none => decidable_of_iff (ns.lookup path = some (.name path)) (by simp [Knows, h])
  | some head =>
    decidable_of_iff (ns.isImported head ∨ ns.bindings.contains head) (by simp [Knows, h])

variable {ns : Namespace}

/-- A name denotes what it is bound to, or itself if it is dotted and its first component is
imported or bound. -/
theorem resolvePath_eq_ok_iff {path : String} {t : TypeExpr} : ns.resolvePath path = .ok t ↔
    (moduleOf? path = none ∧ ns.lookup path = some t) ∨
      ∃ head, moduleOf? path = some head ∧ (ns.isImported head ∨ ns.bindings.contains head) ∧
        t = .name path := by
  unfold resolvePath
  cases moduleOf? path with
  | none =>
    cases ns.lookup path with
    | none => simp
    | some t => simp
  | some head =>
    by_cases h : ns.isImported head ∨ ns.bindings.contains head
    · simp [h, @eq_comm _ t]
    · simp [h]

theorem Knows.resolvePath {path : String} (h : ns.Knows path) :
    ns.resolvePath path = .ok (.name path) := by
  rw [Knows] at h
  rw [resolvePath_eq_ok_iff]
  cases hmodule : moduleOf? path with
  | none =>
    rw [hmodule] at h
    exact Or.inl ⟨rfl, h⟩
  | some head =>
    rw [hmodule] at h
    exact Or.inr ⟨head, rfl, h, rfl⟩

theorem Knows.resolveOrigin {origin : String} (h : ns.Knows origin) :
    ns.resolveOrigin origin = .ok origin := by
  rw [Namespace.resolveOrigin, h.resolvePath]

theorem substituteItems_eq_self {ts : List TypeExpr} (h : ∀ t ∈ ts, ns.substitute t = .ok t) :
    ns.substituteItems ts = .ok ts := by
  induction ts with
  | nil => rfl
  | cons t ts ih =>
    rw [List.forall_mem_cons] at h
    rw [substituteItems, h.1, Except.ok_bind, ih h.2, Except.ok_bind]

/-- A type whose names denote themselves denotes itself. -/
theorem substitute_eq_self {isName : String → Prop} {args : List Value → Prop} {t : TypeExpr}
    (ht : t.Regular isName args)
    (h : ∀ path ∈ t.names, ns.Knows path) : ns.substitute t = .ok t := by
  -- Along the type: the names of a part are names of the whole, so the parts denote themselves.
  induction ht with
  | name =>
    rw [substitute, (h _ List.mem_cons_self).resolvePath]
  | @generic origin ts _ _ _ _ ih =>
    rw [TypeExpr.names, List.forall_mem_cons, TypeExpr.itemNames_eq_flatMap] at h
    have hts : ns.substituteItems ts = .ok ts := by
      refine substituteItems_eq_self fun t ht => ih t ht fun path hpath => h.2 path ?_
      exact List.mem_flatMap.mpr ⟨t, ht, hpath⟩
    rw [substitute, h.1.resolveOrigin, Except.ok_bind, hts, Except.ok_bind]
  | @union ts _ _ _ ih =>
    rw [TypeExpr.names, TypeExpr.itemNames_eq_flatMap] at h
    have hts : ns.substituteItems ts = .ok ts := by
      refine substituteItems_eq_self fun t ht => ih t ht fun path hpath => h path ?_
      exact List.mem_flatMap.mpr ⟨t, ht, hpath⟩
    rw [substitute, hts, Except.ok_bind]
  | noneType => rw [substitute]
  | literal =>
    rw [substitute, (h _ List.mem_cons_self).resolveOrigin, Except.ok_bind]

/-- **The text of a type denotes the type**, in every namespace that knows the names of the type. -/
theorem resolve_text {t : TypeExpr} (ht : t.Regular TypeExpr.IsTypeName TypeExpr.PlainArgs)
    (h : ∀ path ∈ t.names, ns.Knows path) : ns.resolve t.text = .ok t := by
  rw [resolve, TypeExpr.parse_text ht]
  exact substitute_eq_self ht h

/-- A namespace that knows `Literal` and all that `typing` holds. -/
def typingNamespace : Namespace :=
  ((ofName "palette").define "Literal").addImport "typing"

/-- A type with unions within subscripts, and values that look like the end of a subscript. -/
def shade : TypeExpr :=
  .union [
    .generic "dict" [.name "str", .union [
      .literal "Literal" [.int Int64.minValue, .str "it's, ]", .symbol "Color.RED", .none],
      .noneType]],
    .generic "typing.Iterable" [.generic "tuple" [.name "int", .noneType]],
    .noneType]

theorem resolve_text_shade : shade.Regular TypeExpr.IsTypeName TypeExpr.PlainArgs ∧
    (∀ path ∈ shade.names, typingNamespace.Knows path) ∧
    typingNamespace.resolve shade.text = .ok shade := by
  have hvalues : TypeExpr.PlainArgs
      [.int Int64.minValue, .str "it's, ]", .symbol "Color.RED", .none] := by
    simp only [TypeExpr.PlainArgs]
    decide +kernel
  have hregular : shade.Regular TypeExpr.IsTypeName TypeExpr.PlainArgs := by
    refine .union (by decide) (by decide) ?_
    simp only [List.forall_mem_cons, List.not_mem_nil, false_imp_iff, implies_true, and_true]
    refine ⟨.generic (by decide +kernel) (by decide +kernel) (by simp) ?_,
      .generic (by decide +kernel) (by decide +kernel) (by simp) ?_, .noneType⟩
    · simp only [List.forall_mem_cons, List.not_mem_nil, false_imp_iff, implies_true, and_true]
      refine ⟨.name (by decide +kernel), .union (by decide) (by decide) ?_⟩
      simp only [List.forall_mem_cons, List.not_mem_nil, false_imp_iff, implies_true, and_true]
      exact ⟨.literal (by decide +kernel) (by decide +kernel) (by simp) hvalues, .noneType⟩
    · simp only [List.forall_mem_cons, List.not_mem_nil, false_imp_iff, implies_true, and_true]
      refine .generic (by decide +kernel) (by decide +kernel) (by simp) ?_
      simp only [List.forall_mem_cons, List.not_mem_nil, false_imp_iff, implies_true, and_true]
      exact ⟨.name (by decide +kernel), .noneType⟩
  have hknown : ∀ path ∈ shade.names, typingNamespace.Knows path := by
    decide +kernel
  exact ⟨hregular, hknown, resolve_text hregular hknown⟩

end RecordForms.Namespace
