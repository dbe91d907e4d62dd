import RecordForms.Proofs.Except
import RecordForms.Proofs.Namespace

/-!
# What a text denotes

A text is read as a type, and then each name in the type is replaced by what it denotes.  The names
are taken in the order in which they are written, and the first that cannot be replaced is reported.

## Main definitions

* `TypeExpr.mentions`: the names in a type, in reading order, with whether they are subscripted
* `TypeExpr.mapNames`: the type with other names, and otherwise as it is
* `Namespace.Admits ns m`: the name `m` can be replaced
* `Namespace.Offends ns m e`: it cannot, because of `e`
* `Namespace.replaced`: the type with every simple name replaced by what it is bound to

## Main results

* `Namespace.substitute_eq_error_iff`: the first name that cannot be replaced is reported
* `Namespace.substitute_eq_ok`: where all can be, they are, and nothing else changes
* `Namespace.resolve_parse`: what a text denotes, and why it denotes nothing
-/

namespace RecordForms

/-- A name in a type. -/
structure Mention where
  path : String
  /-- Whether the name has arguments. -/
  subscripted : Bool

namespace TypeExpr

mutual

/-- The names in a type, from left to right: a subscripted name before its arguments. -/
def mentions : TypeExpr → List Mention
  | name path => [⟨path, false⟩]
  | generic origin args => ⟨origin, true⟩ :: itemMentions args
  | union members => itemMentions members
  | noneType => []
  | literal origin _ => [⟨origin, true⟩]

/-- The names in the types of a list. -/
def itemMentions : List TypeExpr → List Mention
  | [] => []
  | t :: ts => mentions t ++ itemMentions ts

end

mutual

/-- The type with its names replaced by types and its subscripted names by names.  All else is as it
is: the order and nesting of the parts, `None`, and the values of literal types. -/
def mapNames (f : String → TypeExpr) (g : String → String) : TypeExpr → TypeExpr
  | name path => f path
  | generic origin args => generic (g origin) (mapItemNames f g args)
  | union members => union (mapItemNames f g members)
  | noneType => noneType
  | literal origin values => literal (g origin) values

/-- The types of a list with their names replaced. -/
def mapItemNames (f : String → TypeExpr) (g : String → String) : List TypeExpr → List TypeExpr
  | [] => []
  | t :: ts => mapNames f g t :: mapItemNames f g ts

end

end TypeExpr

namespace Namespace

/-- Whether a name can be replaced.  A simple name has to be bound, and to a name if it is
subscripted; the first component of a dotted name has to be imported or bound. -/
def Admits (ns : Namespace) (m : Mention) : Prop :=
  match moduleOf? m.path with
  | none => ∃ t, ns.lookup m.path = some t ∧ (m.subscripted → ∃ path, t = .name path)
  | some head => ns.isImported head ∨ ns.bindings.contains head

/-- Why a name cannot be replaced. -/
inductive Offends (ns : Namespace) (m : Mention) : Unresolved → Prop
  | simple (hsimple : moduleOf? m.path = none) (hlookup : ns.lookup m.path = none) :
      Offends ns m (.undefined ns.name m.path)
  | dotted {head : String} (hdotted : moduleOf? m.path = some head)
      (himported : ns.isImported head = false) (hbound : ns.bindings.contains head = false) :
      Offends ns m (.undefined ns.name head)
  | subscripted {bound : TypeExpr} (hsubscripted : m.subscripted)
      (hsimple : moduleOf? m.path = none) (hlookup : ns.lookup m.path = some bound)
      (hbound : ∀ path, bound ≠ .name path) : Offends ns m (.notGeneric m.path bound)

/-- What a name stands for: a simple name for what it is bound to, a dotted name for itself. -/
def denoted (ns : Namespace) (path : String) : TypeExpr :=
  match moduleOf? path with
  | none => (ns.lookup path).getD (.name path)
  | some _ => .name path

/-- The name that a subscripted name stands for. -/
def denotedOrigin (ns : Namespace) (origin : String) : String :=
  match ns.denoted origin with
  | .name path => path
  | _ => origin

/-- The type with every simple name replaced by what it is bound to. -/
def replaced (ns : Namespace) (t : TypeExpr) : TypeExpr :=
  t.mapNames ns.denoted ns.denotedOrigin

variable {ns : Namespace} {path origin : String} {e : Unresolved} {t : TypeExpr}

/-! ### One name -/

theorem admits_iff {m : Mention} : ns.Admits m ↔ ∀ e, ¬ ns.Offends m e := by
  unfold Admits
  cases hmodule : moduleOf? m.path with
  | none =>
    constructor
    · rintro ⟨t, ht, hname⟩ e (⟨-, hlookup⟩ | ⟨hdotted⟩ | ⟨hsubscripted, -, hlookup, hbound⟩)
      · cases ht.symm.trans hlookup
      · cases hmodule.symm.trans hdotted
      · obtain ⟨path, rfl⟩ := hname hsubscripted
        exact hbound path (Option.some.inj (hlookup.symm.trans ht))
    · intro h
      cases hlookup : ns.lookup m.path with
      | none => exact absurd (.simple hmodule hlookup) (h _)
      | some t =>
        refine ⟨t, rfl, fun hsubscripted => ?_⟩
        by_contra hname
        exact h _ (.subscripted hsubscripted hmodule hlookup (not_exists.mp hname))
  | some head =>
    constructor
    · rintro hhead e (⟨hsimple⟩ | ⟨hdotted, himported, hbound⟩ | ⟨-, hsimple⟩)
      · cases hmodule.symm.trans hsimple
      · cases hmodule.symm.trans hdotted
        simp [himported, hbound] at hhead
      · cases hmodule.symm.trans hsimple
    · intro h
      by_contra hhead
      rw [not_or, Bool.not_eq_true, Bool.not_eq_true] at hhead
      exact h _ (.dotted hmodule hhead.1 hhead.2)

/-- A name that denotes itself can be replaced. -/
theorem Knows.admits {m : Mention} (h : ns.Knows m.path) : ns.Admits m := by
  rw [Knows] at h
  rw [Admits]
  cases hmodule : moduleOf? m.path with
  | none =>
    rw [hmodule] at h
    exact ⟨_, h, fun _ => ⟨_, rfl⟩⟩
  | some head =>
    rw [hmodule] at h
    exact h

theorem resolvePath_eq_error_iff :
    ns.resolvePath path = .error e ↔ ns.Offends ⟨path, false⟩ e := by
  unfold resolvePath
  constructor
  · intro h
    split at h
    · rename_i hmodule
      split at h
      · cases h
      · rename_i hlookup
        cases h
        exact .simple hmodule hlookup
    · rename_i head hmodule
      split at h
      · cases h
      · rename_i hhead
        cases h
        simp only [Bool.or_eq_true, not_or, Bool.not_eq_true] at hhead
        exact .dotted hmodule hhead.1 hhead.2
  · rintro (⟨hmodule, hlookup⟩ | ⟨hmodule, himported, hbound⟩ | hsubscripted)
    · simp only [hmodule, hlookup]
    · simp only [hmodule, himported, hbound, Bool.or_self, Bool.false_eq_true, if_false]
    · cases hsubscripted

theorem denoted_of_resolvePath (h : ns.resolvePath path = .ok t) : t = ns.denoted path := by
  obtain ⟨hsimple, hlookup⟩ | ⟨head, hdotted, -, rfl⟩ := resolvePath_eq_ok_iff.mp h
  · simp [denoted, hsimple, hlookup]
  · simp [denoted, hdotted]

/-- A subscripted name is reported for what it would be alone, or for what it is bound to. -/
theorem resolveOrigin_eq_error_iff :
    ns.resolveOrigin origin = .error e ↔ ns.Offends ⟨origin, true⟩ e := by
  unfold resolveOrigin
  constructor
  · intro h
    split at h
    · cases h
    · rename_i bound hname hpath
      cases h
      obtain ⟨hsimple, hlookup⟩ | ⟨head, -, -, rfl⟩ := resolvePath_eq_ok_iff.mp hpath
      · exact .subscripted rfl hsimple hlookup hname
      · exact absurd rfl (hname origin)
    · rename_i hpath
      cases h
      cases resolvePath_eq_error_iff.mp hpath with
      | simple hsimple hlookup => exact .simple hsimple hlookup
      | dotted hdotted himported hbound => exact .dotted hdotted himported hbound
      | subscripted hsubscripted => cases hsubscripted
  · intro h
    cases h with
    | simple hsimple hlookup => rw [resolvePath_eq_error_iff.mpr (.simple hsimple hlookup)]
    | dotted hdotted himported hbound =>
      rw [resolvePath_eq_error_iff.mpr (.dotted hdotted himported hbound)]
    | @subscripted bound _ hsimple hlookup hbound =>
      rw [resolvePath_eq_ok_iff.mpr (Or.inl ⟨hsimple, hlookup⟩)]
      cases bound with
      | name path => exact absurd rfl (hbound path)
      | generic | union | noneType | literal => rfl

theorem denotedOrigin_of_resolveOrigin {origin' : String}
    (h : ns.resolveOrigin origin = .ok origin') : origin' = ns.denotedOrigin origin := by
  unfold resolveOrigin at h
  unfold denotedOrigin
  split at h
  · rename_i path hpath
    rw [← denoted_of_resolvePath hpath, Except.ok.inj h]
  · cases h
  · cases h

/-! ### Types -/

theorem exists_resolveOrigin_iff :
    (∃ origin', ns.resolveOrigin origin = .ok origin') ↔ ∀ e, ¬ ns.Offends ⟨origin, true⟩ e := by
  rw [Except.exists_eq_ok_iff]
  exact forall_congr' fun e => not_congr resolveOrigin_eq_error_iff

mutual

/-- The first name, in reading order, that cannot be replaced is reported. -/
theorem substitute_eq_error_iff : ∀ (t : TypeExpr) (e : Unresolved),
    ns.substitute t = .error e ↔ t.mentions.IsFirstFault ns.Offends e
  | .name path, e => by
    rw [substitute, TypeExpr.mentions, List.isFirstFault_cons, resolvePath_eq_error_iff]
    simp
  | .generic origin args, e => by
    simp only [substitute, TypeExpr.mentions, List.isFirstFault_cons, Except.bind_eq_error_iff,
      resolveOrigin_eq_error_iff, substituteItems_eq_error_iff args, reduceCtorEq, and_false,
      exists_false, or_false, exists_and_right, exists_resolveOrigin_iff]
  | .union members, e => by
    simp only [substitute, TypeExpr.mentions, Except.bind_eq_error_iff,
      substituteItems_eq_error_iff members, reduceCtorEq, and_false, exists_false, or_false]
  | .literal origin values, e => by
    simp only [substitute, TypeExpr.mentions, List.isFirstFault_cons, Except.bind_eq_error_iff,
      resolveOrigin_eq_error_iff, reduceCtorEq, and_false, exists_false,
      List.not_isFirstFault_nil]
  | .noneType, e => by
    simp [substitute, TypeExpr.mentions]

theorem substituteItems_eq_error_iff : ∀ (ts : List TypeExpr) (e : Unresolved),
    ns.substituteItems ts = .error e ↔ (TypeExpr.itemMentions ts).IsFirstFault ns.Offends e
  | [], e => by
    simp [substituteItems, TypeExpr.itemMentions]
  | t :: ts, e => by
    have ht := Except.exists_eq_ok_iff_of_firstFault (substitute_eq_error_iff t)
    simp only [substituteItems, TypeExpr.itemMentions, List.isFirstFault_append,
      Except.bind_eq_error_iff, substitute_eq_error_iff t, substituteItems_eq_error_iff ts,
      reduceCtorEq, and_false, exists_false, or_false, exists_and_right, ht]

end

mutual

/-- Where every name can be replaced, it is, and nothing else changes. -/
theorem substitute_eq_ok : ∀ {t t' : TypeExpr}, ns.substitute t = .ok t' → t' = ns.replaced t
  | .name path, t', h => denoted_of_resolvePath h
  | .generic origin args, t', h => by
    obtain ⟨origin', horigin, h⟩ := Except.bind_eq_ok_iff.mp h
    obtain ⟨args', hargs, h⟩ := Except.bind_eq_ok_iff.mp h
    rw [← Except.ok.inj h, denotedOrigin_of_resolveOrigin horigin, substituteItems_eq_ok hargs]
    rfl
  | .union members, t', h => by
    obtain ⟨members', hmembers, h⟩ := Except.bind_eq_ok_iff.mp h
    rw [← Except.ok.inj h, substituteItems_eq_ok hmembers]
    rfl
  | .literal origin values, t', h => by
    obtain ⟨origin', horigin, h⟩ := Except.bind_eq_ok_iff.mp h
    rw [← Except.ok.inj h, denotedOrigin_of_resolveOrigin horigin]
    rfl
  | .noneType, t', h => (Except.ok.inj h).symm

theorem substituteItems_eq_ok : ∀ {ts ts' : List TypeExpr}, ns.substituteItems ts = .ok ts' →
    ts' = TypeExpr.mapItemNames ns.denoted ns.denotedOrigin ts
  | [], ts', h => (Except.ok.inj h).symm
  | t :: ts, _, h => by
    obtain ⟨t', ht, h⟩ := Except.bind_eq_ok_iff.mp h
    obtain ⟨ts', hts, h⟩ := Except.bind_eq_ok_iff.mp h
    rw [← Except.ok.inj h, substitute_eq_ok ht, substituteItems_eq_ok hts]
    rfl

end

theorem exists_substitute_iff :
    (∃ t', ns.substitute t = .ok t') ↔ ∀ m ∈ t.mentions, ns.Admits m := by
  rw [Except.exists_eq_ok_iff_of_firstFault (substitute_eq_error_iff t)]
  simp only [admits_iff]

/-- **A text denotes the type that it spells, with every simple name replaced by what it is bound
to.**  It denotes nothing if it spells no type, whatever is bound, or if some name cannot be
replaced; then the first such name in reading order is reported. -/
theorem resolve_parse (ns : Namespace) (reference : String) :
    (∀ malformed, TypeExpr.parse reference = .error malformed →
      ns.resolve reference = .error (.malformed malformed)) ∧
    ∀ t, TypeExpr.parse reference = .ok t →
      ((∃ t', ns.resolve reference = .ok t') ↔ ∀ m ∈ t.mentions, ns.Admits m) ∧
      (∀ t', ns.resolve reference = .ok t' → t' = ns.replaced t) ∧
      ∀ e, ns.resolve reference = .error e ↔ t.mentions.IsFirstFault ns.Offends e := by
  constructor
  · intro malformed hparse
    rw [resolve, hparse]
  · intro t hparse
    have hresolve : ns.resolve reference = ns.substitute t := by rw [resolve, hparse]
    rw [hresolve]
    exact ⟨exists_substitute_iff, fun t' => substitute_eq_ok, substitute_eq_error_iff t⟩

/-- A namespace in which a name denotes an optional type. -/
def rowNamespace : Namespace :=
  (ofName "tables").bind "Row" (.optional (.name "tuple"))

/-- Two names cannot be replaced, and the first is reported. -/
theorem resolve_parse_row : rowNamespace.resolve "dict[str, Row[Key]]" =
    .error (.notGeneric "Row" (.optional (.name "tuple"))) := by
  have hparse : TypeExpr.parse "dict[str, Row[Key]]" =
      .ok (.generic "dict" [.name "str", .generic "Row" [.name "Key"]]) := by decide +kernel
  have hknown : ∀ m ∈ [⟨"dict", true⟩, ⟨"str", false⟩], rowNamespace.Knows (Mention.path m) := by
    decide +kernel
  have hrow : rowNamespace.Offends ⟨"Row", true⟩ (.notGeneric "Row" (.optional (.name "tuple"))) :=
    .subscripted rfl (by decide +kernel) (by decide +kernel) nofun
  refine (((resolve_parse rowNamespace _).2 _ hparse).2.2 _).mpr ?_
  exact ⟨[⟨"dict", true⟩, ⟨"str", false⟩], ⟨"Row", true⟩, [⟨"Key", false⟩], rfl,
    fun m hm => admits_iff.mp (hknown m hm).admits, hrow⟩

end Namespace

end RecordForms
