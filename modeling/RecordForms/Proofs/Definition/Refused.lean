import RecordForms.Proofs.Definition.Slots
import RecordForms.Proofs.Schema.Order

/-!
# Schemas that a framework refuses

What stands against building a definition from a schema, and which reason is given where there are
several: the order of the fields comes before every default, and among the defaults the first one
counts, in the order of the fields.

## Main definitions

* `Framework.RefusesDisorder f config`: `f` refuses fields that are out of order
* `Framework.RefusesDefault f config v`: `f` refuses the default `v`
* `Framework.DisorderError`, `Framework.DefaultError`: the reasons that are given for them

## Main results

* `Framework.keywordOnly?_eq_error_iff`, `Framework.slot?_eq_error_iff`: how the two steps of
  building fail
* `Framework.build_refused_iff`: when a schema is refused, and with which reason
-/

namespace RecordForms.Framework

/-- Whether the framework refuses fields that are out of order.  A class that can ask for keywords
does so unless the policy is strict. -/
def RefusesDisorder (f : Framework) (config : Config) : Prop :=
  match f with
  | attrs | dataclasses | msgspec => config.ordering = .strict
  | namedTuple => True
  | pydanticV1 | pydanticV2 | typedDict => False

/-- Whether the framework refuses a default.  A default that instances would share is made by a
factory in a dataclass, if it is empty and the policy lets it, and is copied in a struct, if it is
empty. -/
def RefusesDefault (f : Framework) (config : Config) (v : Value) : Prop :=
  match f with
  | attrs | namedTuple => False
  | dataclasses => v.isMutable ∧ (v.isEmptyContainer = false ∨ config.mutableDefaults = .reject)
  | msgspec => v.isMutable ∧ v.isEmptyContainer = false
  | pydanticV1 | pydanticV2 => v = .ellipsis
  | typedDict => True

/-- The reason that is given where the fields are out of order: the first that is, and the one right
before it. -/
def DisorderError (f : Framework) (config : Config) (s : Schema) (e : RecordError) : Prop :=
  f.RefusesDisorder config ∧ ∃ field after, IsViolation s.fields field after ∧
    e = .fieldOrder s.name field.name after.name f

/-- The reason that is given where the default of a field is refused. -/
def DefaultError (f : Framework) (config : Config) (record : String) (field : Field)
    (e : RecordError) : Prop :=
  ∃ v fault, field.default = .value v ∧ f.RefusesDefault config v ∧ f.refusal? v = some fault ∧
    e = .unsupportedDefault record field.name f v fault

variable {f : Framework} {config : Config} {s : Schema} {record : String} {field : Field}
  {v : Value} {e : RecordError}

/-! ### The order of the fields -/

theorem keywordOnly?_eq_error_iff :
    f.keywordOnly? config s = .error e ↔ f.DisorderError config s e := by
  unfold keywordOnly? DisorderError
  simp only [← Schema.orderViolation?_eq_some_iff]
  cases s.orderViolation? with
  | none => simp
  | some pair =>
    obtain ⟨first, before⟩ := pair
    -- the rule of the framework and the policy decide what becomes of the pair
    cases f <;> cases hpolicy : config.ordering <;>
      simp [ordering, RefusesDisorder, hpolicy, eq_comm]

theorem exists_disorderError_iff :
    (∃ e, f.DisorderError config s e) ↔ f.RefusesDisorder config ∧ ¬ InOrder s.fields := by
  rw [← Schema.exists_isViolation_iff]
  constructor
  · rintro ⟨e, hf, field, after, hviolation, -⟩
    exact ⟨hf, field, after, hviolation⟩
  · rintro ⟨hf, field, after, hviolation⟩
    exact ⟨_, hf, field, after, hviolation, rfl⟩

/-! ### Defaults -/

/-- A default that instances would share has no factory if it is not empty, or if the policy is to
refuse such defaults. -/
theorem emptyFactory?_eq_none_iff (h : v.isMutable) : emptyFactory? config v = none ↔
    v.isEmptyContainer = false ∨ config.mutableDefaults = .reject := by
  unfold emptyFactory?
  rw [h, Bool.true_and]
  cases config.mutableDefaults with
  | reject => simp
  | factory =>
    simp only [decide_true, if_true, reduceCtorEq, or_false]
    cases hempty : v.isEmptyContainer with
    | true =>
      obtain ⟨path, hpath⟩ := exists_factoryOfEmpty? h hempty
      simp [hpath]
    | false =>
      cases hpath : factoryOfEmpty? v with
      | none => simp
      | some path =>
        -- a factory makes empty containers only
        have hmade := isEmptyContainer_of_emptyOfFactory? (emptyOfFactory?_factoryOfEmpty? hpath)
        rw [hempty] at hmade
        cases hmade

/-- A default is refused if no factory makes it and the framework refuses it by value. -/
theorem refusesDefault_iff : f.RefusesDefault config v ↔
    (f.usesFactories = true → emptyFactory? config v = none) ∧ (f.refusal? v).isSome := by
  cases f with
  | attrs | namedTuple | typedDict => simp [RefusesDefault, refusal?, usesFactories]
  | dataclasses =>
    cases hmutable : v.isMutable with
    | true => simp [RefusesDefault, refusal?, usesFactories, hmutable, emptyFactory?_eq_none_iff]
    | false => simp [RefusesDefault, refusal?, hmutable]
  | msgspec =>
    cases hmutable : v.isMutable with
    | true => simp [RefusesDefault, refusal?, usesFactories, hmutable]
    | false => simp [RefusesDefault, refusal?, hmutable]
  | pydanticV1 | pydanticV2 =>
    by_cases hv : v = .ellipsis
    · simp [RefusesDefault, refusal?, usesFactories, hv]
    · simp [RefusesDefault, refusal?, hv]

theorem slot?_eq_error_iff :
    f.slot? config record field = .error e ↔ f.DefaultError config record field e := by
  unfold slot? writeDefault DefaultError
  simp only [refusesDefault_iff]
  cases field.default with
  | absent => simp
  | value v =>
    simp only [FieldDefault.value.injEq]
    cases hfactory : (if f.usesFactories then emptyFactory? config v else none) with
    | some path => grind
    | none =>
      cases hfault : f.refusal? v with
      | none => grind
      | some fault => grind

/-- Some default is refused with a reason just if some default is refused. -/
theorem exists_defaultError_iff : (∃ e, f.DefaultError config record field e) ↔
    ∃ v, field.default = .value v ∧ f.RefusesDefault config v := by
  constructor
  · rintro ⟨e, v, fault, hv, hrefuses, -⟩
    exact ⟨v, hv, hrefuses⟩
  · rintro ⟨v, hv, hrefuses⟩
    obtain ⟨fault, hfault⟩ := Option.isSome_iff_exists.mp (refusesDefault_iff.mp hrefuses).2
    exact ⟨_, v, fault, hv, hrefuses, hfault, rfl⟩

/-! ### Schemas -/

/-- A schema is refused for the order of its fields, or else for the first default that is
refused. -/
theorem build_eq_error_iff : f.build config s = .error e ↔ f.DisorderError config s e ∨
    (∀ e', ¬ f.DisorderError config s e') ∧
      s.fields.IsFirstFault (f.DefaultError config s.name) e := by
  have hslots : s.fields.mapM (f.slot? config s.name) = .error e ↔
      s.fields.IsFirstFault (f.DefaultError config s.name) e := by
    rw [Except.mapM_eq_error_iff]
    exact List.isFirstFault_congr fun field _ e => slot?_eq_error_iff
  have horder : (∃ kwOnly, f.keywordOnly? config s = .ok kwOnly) ↔
      ∀ e', ¬ f.DisorderError config s e' := by
    rw [Except.exists_eq_ok_iff]
    exact forall_congr' fun e' => not_congr keywordOnly?_eq_error_iff
  unfold build
  simp only [Except.bind_eq_error_iff, keywordOnly?_eq_error_iff, hslots, reduceCtorEq, and_false,
    exists_false, or_false, exists_and_right, horder]

/-- **A schema is refused exactly when it must be, and for the first reason.**  It is refused if its
fields are out of order where that matters, or if a default is refused; the first field out of order
is reported before any default, and else the first field whose default is refused. -/
theorem build_refused_iff :
    ((∃ e, f.build config s = .error e) ↔ f.RefusesDisorder config ∧ ¬ InOrder s.fields ∨
      ∃ field ∈ s.fields, ∃ v, field.default = .value v ∧ f.RefusesDefault config v) ∧
    ∀ e, f.build config s = .error e ↔ f.DisorderError config s e ∨
      (∀ e', ¬ f.DisorderError config s e') ∧
        s.fields.IsFirstFault (f.DefaultError config s.name) e := by
  refine ⟨?_, fun e => build_eq_error_iff⟩
  simp only [build_eq_error_iff, exists_or, exists_and_left, List.exists_isFirstFault_iff,
    exists_disorderError_iff, exists_defaultError_iff, ← not_exists]
  tauto

end RecordForms.Framework
