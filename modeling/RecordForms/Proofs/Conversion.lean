import RecordForms.Catalogue
import RecordForms.Conversion
import RecordForms.Proofs.Definition.Passage

/-!
# Chains of conversions

A definition is converted to one framework after another, and a conversion that fails is passed
over.  What is reached has the schema of the first definition, up to the losses of the frameworks
that were passed through; where nothing can get lost, the steps do not depend on each other.

## Main definitions

* `Definition.succeeded`: the frameworks to which the conversions of a chain succeed

## Main results

* `Catalogue.convert_eq_convert`: with the builtin adapters a catalogue converts in the same way
* `Definition.schema?_convert`: what one conversion does to a schema
* `Definition.schema?_reached`: what a chain does to it
* `Definition.chain_eq_map`: where nothing can get lost, each step is a conversion of the first
  definition
-/

namespace RecordForms

/-- A catalogue in which nothing was registered has the builtin adapters. -/
theorem Catalogue.get_empty (f : Framework) : ({} : Catalogue).get f = .builtin f := by
  cases f with
  | _ => rfl

/-- With the builtin adapters a catalogue converts in the same way. -/
theorem Catalogue.convert_eq_convert {c : Catalogue} (hc : ∀ f, c.get f = .builtin f)
    (config : Config) (target : Framework) (d : Definition) :
    c.convert config target d = d.convert config target := by
  have hread : (Adapter.builtin d.framework).read d = d.schema? := Framework.read_eq_schema? rfl
  rw [convert, hc, hc, hread]
  rfl

namespace Definition

variable {config : Config} {target : Framework} {targets : List Framework} {d d' : Definition}
  {s : Schema}

/-- The frameworks to which the conversions of a chain succeed, in order. -/
def succeeded (config : Config) (targets : List Framework) (d : Definition) : List Framework :=
  ((targets.zip (d.chain config targets)).filter fun p => p.2.isOk).map Prod.fst

/-- A definition is converted by building from its schema. -/
theorem convert_eq_build (h : d.schema? = .ok s) :
    d.convert config target = target.build config s := by
  rw [convert, h, Except.ok_bind]

/-- One conversion keeps the schema, up to the losses of its target. -/
theorem schema?_convert (h : d.schema? = .ok s) (hd : d.convert config target = .ok d') :
    d'.schema? = .ok (s.through [target]) :=
  Framework.schema?_build (convert_eq_build h ▸ hd)

section Steps

variable {e : RecordError}

theorem succeeded_cons_of_ok (hd : d.convert config target = .ok d') :
    d.succeeded config (target :: targets) = target :: d'.succeeded config targets := by
  simp [succeeded, chain, hd, Except.isOk, Except.toBool]

theorem succeeded_cons_of_error (hd : d.convert config target = .error e) :
    d.succeeded config (target :: targets) = d.succeeded config targets := by
  simp [succeeded, chain, hd, Except.isOk, Except.toBool]

theorem reached_cons_of_ok (hd : d.convert config target = .ok d') :
    d.reached config (target :: targets) = d'.reached config targets := by
  rw [reached, hd]

theorem reached_cons_of_error (hd : d.convert config target = .error e) :
    d.reached config (target :: targets) = d.reached config targets := by
  rw [reached, hd]

end Steps

/-- A chain keeps the schema, up to the losses of the frameworks that it passes through. -/
theorem schema?_reached (h : d.schema? = .ok s) :
    (d.reached config targets).schema? = .ok (s.through (d.succeeded config targets)) := by
  -- Induction on the targets left, from any definition: each step starts from what is left so far.
  induction targets generalizing d s with
  | nil => simpa [reached, succeeded, chain] using h
  | cons target targets ih =>
    cases hd : d.convert config target with
    | ok d' =>
      -- the losses of the step and of the rest of the chain add up
      rw [reached_cons_of_ok hd, succeeded_cons_of_ok hd, ih (schema?_convert h hd),
        Schema.through_through, List.singleton_append]
    | error e =>
      -- the chain goes on from the same definition
      rw [reached_cons_of_error hd, succeeded_cons_of_error hd, ih h]

/-- Where no step through `targets` loses anything, each of them builds from the first schema. -/
theorem chain_eq_map_build (h : d.schema? = .ok s)
    (hlossless : ∀ target ∈ targets, s.through [target] = s) :
    d.chain config targets = targets.map fun target => target.build config s := by
  -- Every definition on the way has the schema `s`, so each step builds from `s`.
  induction targets generalizing d with
  | nil => rfl
  | cons target targets ih =>
    have hrest (t) (ht : t ∈ targets) := hlossless t (List.mem_cons_of_mem _ ht)
    rw [List.map_cons, ← convert_eq_build h]
    cases hd : d.convert config target with
    | ok d' =>
      have hd' : d'.schema? = .ok s := hlossless target List.mem_cons_self ▸ schema?_convert h hd
      rw [chain, hd]
      exact congrArg _ (ih hd' hrest)
    | error e =>
      rw [chain, hd]
      exact congrArg _ (ih h hrest)

/-- Where no step through `targets` loses anything, each of them is a conversion of the first
definition. -/
theorem chain_eq_map (h : d.schema? = .ok s)
    (hlossless : ∀ target ∈ targets, s.through [target] = s) :
    d.chain config targets = targets.map fun target => d.convert config target := by
  simp only [chain_eq_map_build h hlossless, convert_eq_build h]

/-- **A chain of conversions neither reorders, loses nor invents anything**: what it reaches has the
schema of the first definition, up to the losses of the frameworks to which it was converted.  If
the first definition is typed, and has no `None` or is not taken through the first version of
pydantic, then each step is the conversion of the first definition.  The conversions are those of
every catalogue in which the builtin adapters are active. -/
theorem read_reached (h : d.framework.read d = .ok s) :
    (d.reached config targets).framework.read (d.reached config targets) =
        .ok (s.through (d.succeeded config targets)) ∧
      ((∀ field ∈ s.fields, field.type.isSome) →
        ((∀ field ∈ s.fields, field.default ≠ .value .none) ∨ .pydanticV1 ∉ targets) →
        d.chain config targets = targets.map fun target => d.convert config target) ∧
      ∀ c : Catalogue, (∀ f, c.get f = .builtin f) → ∀ (target : Framework) (e : Definition),
        c.convert config target e = e.convert config target := by
  rw [Framework.read_eq_schema? rfl] at h ⊢
  refine ⟨schema?_reached h, fun htyped hnone => chain_eq_map h fun target ht => ?_,
    fun c hc => Catalogue.convert_eq_convert hc config⟩
  refine Schema.through_eq_self htyped (hnone.imp_right fun hn hmem => hn ?_)
  exact List.mem_singleton.mp hmem ▸ ht

/-- An attrs class with one attribute. -/
def job (type : Option Annotation) (default : DefaultSlot) : Definition :=
  .attrs ⟨"Job", .ofName "jobs", [{ name := "owner", type := type, default := default }], false⟩

-- The first step fails on the default, which the second one takes for none.
theorem read_reached_job :
    ((job none (.value .none)).reached {} [.typedDict, .pydanticV1, .typedDict]).framework.read
        ((job none (.value .none)).reached {} [.typedDict, .pydanticV1, .typedDict]) =
      .ok ⟨"Job", [⟨"owner", some (.name "typing.Any"), .absent⟩], by decide⟩ ∧
    (job (some (.forward "int")) (.token .nothing)).chain {} [.typedDict, .pydanticV1] =
      [.typedDict, .pydanticV1].map
        (fun target => (job (some (.forward "int")) (.token .nothing)).convert {} target) ∧
    ({} : Catalogue).convert {} .typedDict (job none (.value .none)) =
      (job none (.value .none)).convert {} .typedDict := by
  have hnone : (job none (.value .none)).framework.read (job none (.value .none)) =
      .ok ⟨"Job", [⟨"owner", none, .value .none⟩], by decide⟩ := rfl
  have htyped : (job (some (.forward "int")) (.token .nothing)).framework.read
        (job (some (.forward "int")) (.token .nothing)) =
      .ok ⟨"Job", [⟨"owner", some (.name "int"), .absent⟩], by decide⟩ := rfl
  refine ⟨(read_reached hnone).1.trans rfl, (read_reached htyped).2.1 (by decide) (by decide), ?_⟩
  exact (@read_reached {} [] _ _ hnone).2.2 {} Catalogue.get_empty .typedDict _

end Definition

end RecordForms
