import Mathlib.Data.List.Induction
import RecordForms.Catalogue

/-!
# Which adapters are active

A catalogue that starts empty is called again and again, to register adapters and to look them up.
The builtin adapters are added by the first call that registers or finds an adapter, so they stand
before all that were registered, and of several adapters for one framework the latest is active.

## Main definitions

* `Catalogue.Call`: the calls, with what they register (`Call.registered?`)
* `Catalogue.step`, `Catalogue.after`: one call, and calls one after another
* `Catalogue.Holds c as`: `c` holds the builtin adapters and then `as`, or nothing at all

## Main results

* `Catalogue.Holds.step`: what one call adds
* `Catalogue.holds_after`: what a catalogue holds after any calls
* `Catalogue.Holds.get_eq`: the active adapter is the last one of those that were registered
* `Catalogue.current_after`: what is active after any calls
-/

namespace RecordForms.Catalogue

/-- A call of a catalogue. -/
inductive Call where
  /-- Add an adapter. -/
  | register (a : Adapter)
  /-- Look up the active adapter of a framework. -/
  | get (f : Framework)
  /-- Look up the active adapter of the framework with a name. -/
  | byName (name : String)
  /-- List the active adapters. -/
  | active

namespace Call

/-- The adapter that a call registers, if it registers one. -/
def registered? : Call → Option Adapter
  | register a => some a
  | _ => none

/-- Whether a call adds the builtin adapters if they are missing.  The name of no framework is found
to be none before any adapter is looked at. -/
def seeds : Call → Bool
  | byName name => (Framework.ofName? name).isSome
  | _ => true

theorem registered?_eq_some {x : Call} {a : Adapter} :
    x.registered? = some a ↔ x = .register a := by
  cases x with
  | register b => exact ⟨fun h => congrArg register (Option.some.inj h), fun h => by cases h; rfl⟩
  | _ => exact ⟨nofun, nofun⟩

end Call

/-- The catalogue after a call.  A look-up leaves it with the builtin adapters. -/
def step (c : Catalogue) : Call → Catalogue
  | .register a => c.register a
  | .byName name => if (Framework.ofName? name).isSome then c.seed else c
  | .get _ | .active => c.seed

/-- The catalogue after calls one after another. -/
def after (c : Catalogue) (calls : List Call) : Catalogue :=
  calls.foldl step c

/-- The adapters that calls register, in order. -/
def registered (calls : List Call) : List Adapter :=
  calls.filterMap Call.registered?

/-- Whether a catalogue holds the builtin adapters and after them those of a list, or nothing as
long as no call adds the builtin ones. -/
inductive Holds : Catalogue → List Adapter → Prop
  | empty : Holds {} []
  | seeded (as : List Adapter) : Holds ⟨Framework.all.map .builtin ++ as, true⟩ as

variable {c : Catalogue} {as : List Adapter} {calls : List Call} {x : Call} {f : Framework}

theorem after_append : c.after (calls ++ [x]) = (c.after calls).step x := by
  rw [after, List.foldl_append]
  rfl

theorem registered_append {calls' : List Call} :
    registered (calls ++ calls') = registered calls ++ registered calls' :=
  List.filterMap_append

theorem registered_singleton (x : Call) : registered [x] = x.registered?.toList := by
  rw [registered, List.filterMap_cons, List.filterMap_nil]
  cases x.registered? with
  | none => rfl
  | some a => rfl

theorem mem_registered {a : Adapter} : a ∈ registered calls ↔ .register a ∈ calls := by
  rw [registered, List.mem_filterMap]
  constructor
  · rintro ⟨x, hx, ha⟩
    exact Call.registered?_eq_some.mp ha ▸ hx
  · intro h
    exact ⟨.register a, h, rfl⟩

namespace Holds

/-- The builtin adapters are added where they are missing, and only there. -/
theorem seed_eq (h : c.Holds as) : c.seed = ⟨Framework.all.map .builtin ++ as, true⟩ := by
  cases h with
  | empty => rfl
  | seeded => rfl

theorem seed (h : c.Holds as) : c.seed.Holds as :=
  h.seed_eq ▸ .seeded as

/-- A call adds the adapter that it registers after all others. -/
theorem step (h : c.Holds as) (x : Call) : (c.step x).Holds (as ++ x.registered?.toList) := by
  cases x with
  | register a =>
    have hregister : c.register a = ⟨Framework.all.map .builtin ++ (as ++ [a]), true⟩ := by
      rw [Catalogue.register, h.seed_eq, List.append_assoc]
    rw [Catalogue.step, hregister]
    exact .seeded (as ++ [a])
  | get f => exact (List.append_nil as).symm ▸ h.seed
  | byName name =>
    have hnone : (Call.byName name).registered? = none := rfl
    rw [Catalogue.step, hnone, Option.toList_none, List.append_nil]
    split
    · exact h.seed
    · exact h
  | active => exact (List.append_nil as).symm ▸ h.seed

/-- The builtin adapters are there after a call if they were there before or the call adds them. -/
theorem seeded_step (h : c.Holds as) (x : Call) :
    (c.step x).seeded = (c.seeded || x.seeds) := by
  have hseed : c.seed.seeded = true := by rw [h.seed_eq]
  cases x with
  | byName name =>
    rw [Catalogue.step, Call.seeds]
    split
    · rename_i hname
      rw [hseed, hname, Bool.or_true]
    · rename_i hname
      rw [Bool.not_eq_true] at hname
      rw [hname, Bool.or_false]
  | _ => exact hseed.trans (Bool.or_true _).symm

/-- The active adapter of a framework is the last one that was registered for it, or else the
builtin one. -/
theorem get_eq (h : c.Holds as) (f : Framework) :
    c.get f = (as.reverse.find? fun a => a.framework = f).getD (.builtin f) := by
  have hbuiltin : ((Framework.all.map Adapter.builtin).reverse.find? fun a => a.framework = f) =
      some (.builtin f) := by
    cases f with
    | _ => rfl
  rw [get, h.seed_eq, List.reverse_append, List.find?_append, hbuiltin]
  cases as.reverse.find? fun a => a.framework = f with
  | none => rfl
  | some a => rfl

theorem framework_get (h : c.Holds as) (f : Framework) : (c.get f).framework = f := by
  rw [h.get_eq]
  cases hfind : as.reverse.find? fun a => a.framework = f with
  | none => rfl
  | some a =>
    have ha := List.find?_some hfind
    exact of_decide_eq_true ha

/-- The adapters of a catalogue: all of them, or none. -/
theorem adapters_eq (h : c.Holds as) :
    c.adapters = if c.seeded then Framework.all.map .builtin ++ as else [] := by
  cases h with
  | empty => rfl
  | seeded => rfl

end Holds

/-! ### Calls one after another -/

/-- After any calls, a catalogue that was empty holds what they have registered. -/
theorem holds_after (calls : List Call) :
    (({} : Catalogue).after calls).Holds (registered calls) := by
  induction calls using List.reverseRecOn with
  | nil => exact .empty
  | append_singleton calls x ih =>
    rw [after_append, registered_append, registered_singleton]
    exact ih.step x

/-- The builtin adapters are there as soon as one call has added them. -/
theorem seeded_after (calls : List Call) :
    (({} : Catalogue).after calls).seeded = calls.any Call.seeds := by
  induction calls using List.reverseRecOn with
  | nil => rfl
  | append_singleton calls x ih =>
    rw [after_append, (holds_after calls).seeded_step, ih, List.any_append, List.any_cons,
      List.any_nil, Bool.or_false]

/-- The adapters of a catalogue after any calls: the builtin ones once, then the others. -/
theorem adapters_after (calls : List Call) : (({} : Catalogue).after calls).adapters =
    if calls.any Call.seeds then Framework.all.map .builtin ++ registered calls else [] := by
  rw [(holds_after calls).adapters_eq, seeded_after]

/-- **Of the adapters for one framework the latest is active**, whatever was called before.  After
any calls of a catalogue that was empty, it holds the builtin adapters once, before all that were
registered, or nothing if no call has had them added.  A framework for which none was registered has
its builtin adapter; otherwise it has the one that was registered last for it.  There is one active
adapter for each framework, in their listing order, and the name of a framework finds the same
adapter, while other names find none. -/
theorem current_after (calls : List Call) :
    let c := ({} : Catalogue).after calls
    (c.adapters =
        if calls.any Call.seeds then Framework.all.map .builtin ++ registered calls
        else []) ∧
      (∀ f, (∀ a, .register a ∈ calls → a.framework ≠ f) → c.get f = .builtin f) ∧
      (∀ before a later, calls = before ++ .register a :: later →
        (∀ b, .register b ∈ later → b.framework ≠ a.framework) → c.get a.framework = a) ∧
      c.active = Framework.all.map c.get ∧ c.active.map Adapter.framework = Framework.all ∧
      (∀ f : Framework, c.byName? f.name = some (c.get f)) ∧
      ∀ name, (∀ f : Framework, f.name ≠ name) → c.byName? name = none := by
  intro c
  have hholds : c.Holds (registered calls) := holds_after calls
  refine ⟨adapters_after calls, ?_, ?_, rfl, ?_, ?_, ?_⟩
  · intro f hf
    have hnone : ((registered calls).reverse.find? fun a => a.framework = f) = none := by
      rw [List.find?_eq_none]
      intro a ha
      simpa using hf a (mem_registered.mp (List.mem_reverse.mp ha))
    rw [hholds.get_eq, hnone, Option.getD_none]
  · rintro before a later hcalls hlater
    -- the adapters that were registered after `a` are looked at first, and none of them is meant
    have hnone : ((registered later).reverse.find? fun b => b.framework = a.framework) = none := by
      rw [List.find?_eq_none]
      intro b hb
      simpa using hlater b (mem_registered.mp (List.mem_reverse.mp hb))
    have hregistered : registered calls = registered before ++ a :: registered later := by
      rw [hcalls, registered_append]
      rfl
    have hfound : ((a :: (registered before).reverse).find? fun b => b.framework = a.framework) =
        some a := List.find?_cons_of_pos (decide_eq_true rfl)
    rw [hholds.get_eq, hregistered, List.reverse_append, List.reverse_cons, List.append_assoc,
      List.find?_append, hnone, Option.none_or, List.singleton_append, hfound, Option.getD_some]
  · rw [active, List.map_map]
    calc Framework.all.map (Adapter.framework ∘ c.get)
        = Framework.all.map id := List.map_congr_left fun f _ => hholds.framework_get f
      _ = Framework.all := List.map_id _
  · intro f
    rw [byName?, Framework.ofName?_name, Option.map_some]
  · intro name hname
    have hnone : Framework.ofName? name = none := by
      rw [Framework.ofName?, List.find?_eq_none]
      intro f _
      simpa using hname f
    rw [byName?, hnone, Option.map_none]

/-- A dataclass adapter that takes its fields by position. -/
def positionalDataclasses : Adapter :=
  (Adapter.builtin .dataclasses).withOrdering .positional

-- The first call that adds the builtin adapters registers another one, which is replaced later.
theorem current_after_registrations :
    let calls : List Call := [.byName "marshmallow", .register positionalDataclasses, .get .attrs,
      .register (positionalDataclasses.tagged "strict"), .active]
    let c := ({} : Catalogue).after calls
    c.get .dataclasses = positionalDataclasses.tagged "strict" ∧ c.get .attrs = .builtin .attrs ∧
      c.adapters = Framework.all.map .builtin ++
        [positionalDataclasses, positionalDataclasses.tagged "strict"] ∧
      c.byName? "marshmallow" = none := by
  intro calls c
  obtain ⟨hadapters, hbuiltin, hlatest, -, -, -, hname⟩ := current_after calls
  refine ⟨?_, ?_, hadapters, ?_⟩
  · refine hlatest [.byName "marshmallow", .register positionalDataclasses, .get .attrs]
      (positionalDataclasses.tagged "strict") [.active] rfl ?_
    intro b hb
    simp at hb
  · refine hbuiltin .attrs ?_
    intro a ha
    simp only [calls, List.mem_cons, Call.register.injEq, reduceCtorEq, List.not_mem_nil, false_or,
      or_false] at ha
    rcases ha with rfl | rfl
    · decide
    · decide
  · exact hname "marshmallow" (by intro f; cases f <;> decide)

end RecordForms.Catalogue
