import Mathlib.Data.List.Dedup
import Mathlib.Data.List.Induction
import RecordForms.Proofs.Definition.Accepted
import RecordForms.Store

/-!
# What a store holds

A store that starts empty is called again and again, to build a definition from a schema or to take
one as it is.  Whatever the calls are, a look-up gives the definition of the latest call that made
one for its framework and name, and the calls that failed leave no trace.

## Main definitions

* `Store.Call`: the calls, with what they ask for (`Call.key`) and what they make (`Call.outcome`)
* `Store.call`, `Store.after`: one call, and calls one after another
* `Store.latest?`: the latest definition that calls have made under a framework and a name

## Main results

* `Store.Call.key_of_outcome`: what a call makes has the framework and the name that it asks for
* `Store.get?_after`: calls change a look-up to the latest definition that they have made
* `Store.size_eq_length_dedup`: the size of a store is the number of keys under which it holds
  something
* `Store.holds_latest`: what a store holds after any calls
-/

namespace RecordForms.Store

/-- A call of a store. -/
inductive Call where
  /-- Build the definition of a schema and store it. -/
  | materialize (f : Framework) (schema : Schema)
  /-- Store a definition as it is. -/
  | define (d : Definition)

namespace Call

/-- The framework and the name that a call asks for. -/
def key : Call → Framework × String
  | materialize f schema => (f, schema.name)
  | define d => (d.framework, d.name)

/-- The definition that a call makes, or why it makes none. -/
def outcome (config : Config) : Call → Except RecordError Definition
  | materialize f schema => f.build config schema
  | define d => .ok d

variable {config : Config} {c : Call} {d : Definition}

/-- What a call makes has the framework and the name that it asks for. -/
theorem key_of_outcome (h : c.outcome config = .ok d) : c.key = (d.framework, d.name) := by
  cases c with
  | materialize f schema =>
    rw [key, Framework.framework_of_build h, Framework.name_of_build h]
  | define d' =>
    obtain rfl : d' = d := Except.ok.inj h
    rfl

end Call

/-- What a call gives, and the store after it: a call that fails leaves the store alone. -/
def call (s : Store) : Call → Except RecordError Definition × Store
  | .materialize f schema =>
    match s.materialize f schema with
    | .ok (d, s') => (.ok d, s')
    | .error e => (.error e, s)
  | .define d => (.ok d, s.define d)

/-- The store after calls one after another. -/
def after (s : Store) (calls : List Call) : Store :=
  calls.foldl (fun s c => (s.call c).2) s

/-- The latest definition that calls have made under a framework and a name. -/
def latest? (config : Config) (calls : List Call) (key : Framework × String) : Option Definition :=
  calls.reverse.findSome? fun c => if c.key = key then (c.outcome config).toOption else none

variable {s : Store} {calls : List Call} {c : Call} {f : Framework} {name : String}

/-! ### One call -/

theorem call_of_ok {d : Definition} (h : c.outcome s.config = .ok d) :
    s.call c = (.ok d, s.define d) := by
  cases c with
  | materialize f schema =>
    have hmade : s.materialize f schema = .ok (d, s.define d) := by
      rw [materialize, show f.build s.config schema = .ok d from h, Except.ok_bind]
    rw [call, hmade]
  | define d' =>
    obtain rfl : d' = d := Except.ok.inj h
    rfl

theorem call_of_error {e : RecordError} (h : c.outcome s.config = .error e) :
    s.call c = (.error e, s) := by
  cases c with
  | materialize f schema =>
    have hfailed : s.materialize f schema = .error e := by
      rw [materialize, show f.build s.config schema = .error e from h, Except.error_bind]
    rw [call, hfailed]
  | define d => cases h

/-- What a call gives depends on the configuration alone. -/
theorem fst_call : (s.call c).1 = c.outcome s.config := by
  cases h : c.outcome s.config with
  | ok d => rw [call_of_ok h]
  | error e => rw [call_of_error h]

theorem config_call : (s.call c).2.config = s.config := by
  cases h : c.outcome s.config with
  | ok d => rw [call_of_ok h, define]
  | error e => rw [call_of_error h]

theorem get?_define (d : Definition) :
    (s.define d).get? f name =
      if (d.framework, d.name) = (f, name) then some d else s.get? f name := by
  by_cases hf : f = d.framework
  · -- the table of the framework of `d` has a new entry
    subst hf
    simp only [get?, define, if_true, NameMap.get?_insert, Prod.mk.injEq, true_and]
  · have hne : (d.framework, d.name) ≠ (f, name) := fun h => hf (Prod.mk.inj h).1.symm
    simp only [get?, define, if_neg hf, if_neg hne]

/-- A call that makes a definition changes what is found under its key, and nothing else. -/
theorem get?_call : (s.call c).2.get? f name =
    (if c.key = (f, name) then (c.outcome s.config).toOption else none).or (s.get? f name) := by
  cases h : c.outcome s.config with
  | ok d =>
    rw [call_of_ok h, get?_define, Call.key_of_outcome h]
    split
    · rfl
    · rfl
  | error e =>
    rw [call_of_error h]
    split
    · rfl
    · rfl

/-! ### Calls one after another -/

theorem after_append : s.after (calls ++ [c]) = ((s.after calls).call c).2 := by
  rw [after, List.foldl_append]
  rfl

theorem latest?_append (config : Config) (key : Framework × String) :
    latest? config (calls ++ [c]) key =
      (if c.key = key then (c.outcome config).toOption else none).or
        (latest? config calls key) := by
  rw [latest?, List.reverse_append, List.reverse_singleton, List.singleton_append,
    List.findSome?_cons]
  cases (if c.key = key then (c.outcome config).toOption else none) with
  | none => rfl
  | some d => rfl

theorem config_after (s : Store) (calls : List Call) : (s.after calls).config = s.config := by
  induction calls using List.reverseRecOn with
  | nil => rfl
  | append_singleton calls c ih => rw [after_append, config_call, ih]

/-- Calls change a look-up to the latest definition that they have made, if they have made one. -/
theorem get?_after (s : Store) (calls : List Call) (f : Framework) (name : String) :
    (s.after calls).get? f name = (latest? s.config calls (f, name)).or (s.get? f name) := by
  -- Induction on the calls from the last one, which decides the look-up if it succeeds.
  induction calls using List.reverseRecOn with
  | nil => rfl
  | append_singleton calls c ih =>
    rw [after_append, get?_call, config_after, ih, latest?_append, Option.or_assoc]

/-- Something is found among the calls just under the keys of those that have succeeded. -/
theorem isSome_latest?_iff {config : Config} {key : Framework × String} :
    (latest? config calls key).isSome ↔
      key ∈ (calls.filter fun c => (c.outcome config).isOk).map Call.key := by
  rw [latest?, List.isSome_findSome?, List.any_reverse, List.any_eq_true, List.mem_map]
  refine exists_congr fun c => ?_
  rw [List.mem_filter, and_assoc]
  refine and_congr_right fun _ => ?_
  by_cases hkey : c.key = key
  · cases h : c.outcome config with
    | ok d => simp [hkey, Except.isOk, Except.toBool, Except.toOption]
    | error e => simp [hkey, Except.isOk, Except.toBool, Except.toOption]
  · simp [hkey]

/-! ### The number of definitions -/

/-- The frameworks and names under which a store holds something. -/
def keys (s : Store) : List (Framework × String) :=
  Framework.all.flatMap fun f => (s.table f).names.map fun name => (f, name)

theorem mem_keys : (f, name) ∈ s.keys ↔ (s.get? f name).isSome := by
  rw [get?, NameMap.isSome_get?_iff, keys, List.mem_flatMap]
  constructor
  · rintro ⟨f', -, hmem⟩
    obtain ⟨name', hname, heq⟩ := List.mem_map.mp hmem
    obtain ⟨rfl, rfl⟩ := Prod.mk.inj heq
    exact hname
  · intro hname
    exact ⟨f, f.mem_all, List.mem_map_of_mem hname⟩

theorem nodup_keys (s : Store) : s.keys.Nodup := by
  rw [keys, List.nodup_flatMap]
  constructor
  · intro f _
    exact (s.table f).nodup_names.map fun a b h => (Prod.mk.inj h).2
  · -- the keys of two frameworks differ in the framework
    refine List.Pairwise.imp (fun {f g} hne => ?_) (show Framework.all.Nodup by decide)
    intro key hf hg
    obtain ⟨a, -, rfl⟩ := List.mem_map.mp hf
    obtain ⟨b, -, heq⟩ := List.mem_map.mp hg
    exact hne (Prod.mk.inj heq).1.symm

theorem size_eq_length (s : Store) : s.size = s.keys.length := by
  rw [size, keys]
  induction Framework.all with
  | nil => rfl
  | cons f fs ih =>
    rw [List.foldr_cons, ih, List.flatMap_cons, List.length_append, List.length_map, NameMap.names,
      List.length_map, NameMap.size]

/-- The size of a store is the number of the keys under which it holds something. -/
theorem size_eq_length_dedup {keys : List (Framework × String)}
    (h : ∀ f name, (s.get? f name).isSome ↔ (f, name) ∈ keys) : s.size = keys.dedup.length := by
  have hperm : s.keys.Perm keys.dedup := by
    rw [List.perm_ext_iff_of_nodup s.nodup_keys keys.nodup_dedup]
    rintro ⟨f, name⟩
    rw [mem_keys, h, List.mem_dedup]
  rw [size_eq_length, hperm.length_eq]

/-- **A store is a map in which the last writer wins, and failures leave it alone.**  After any
calls of a store that was empty, each look-up gives the latest definition that was made under its
framework and name, and the store holds one definition for each framework and name under which one
was made.  The configuration is the first one, so a call makes the same definition at any time; what
it makes has the framework and the name that it asks for, and where it fails it changes nothing. -/
theorem holds_latest (config : Config) (calls : List Call) :
    (∀ f name, (({ config } : Store).after calls).get? f name =
        latest? config calls (f, name)) ∧
      (({ config } : Store).after calls).size =
        ((calls.filter fun c => (c.outcome config).isOk).map Call.key).dedup.length ∧
      (({ config } : Store).after calls).config = config ∧
      ∀ c : Call, ((({ config } : Store).after calls).call c).1 = c.outcome config ∧
        (∀ d, c.outcome config = .ok d → c.key = (d.framework, d.name)) ∧
        ∀ e, c.outcome config = .error e →
          ((({ config } : Store).after calls).call c).2 = ({ config } : Store).after calls := by
  have hget (f : Framework) (name : String) : (({ config } : Store).after calls).get? f name =
      latest? config calls (f, name) :=
    (get?_after { config } calls f name).trans Option.or_none
  have hconfig : (({ config } : Store).after calls).config = config := config_after _ calls
  refine ⟨hget, size_eq_length_dedup fun f name => ?_, hconfig, fun c => ⟨?_, ?_, ?_⟩⟩
  · rw [hget, isSome_latest?_iff]
  · rw [fst_call, hconfig]
  · intro d h
    exact Call.key_of_outcome h
  · intro e h
    rw [call_of_error (hconfig.symm ▸ h)]

/-- An attrs class without attributes. -/
def emptyJob : Definition :=
  .attrs ⟨"Job", .ofName "jobs", [], false⟩

-- The named tuple cannot be built, and the last call replaces the attrs class of the first.
theorem holds_latest_jobs :
    let calls : List Call := [.materialize .attrs Framework.jobSchema,
      .materialize .namedTuple Framework.jobSchema, .define emptyJob]
    let s := ({} : Store).after calls
    s.get? .attrs "Job" = some emptyJob ∧ s.get? .namedTuple "Job" = none ∧ s.size = 1 ∧
      (s.call (.materialize .namedTuple Framework.jobSchema)).2 = s := by
  intro calls s
  obtain ⟨hget, hsize, -, hcall⟩ := holds_latest {} calls
  have hsize' : ((calls.filter fun c => (c.outcome {}).isOk).map Call.key).dedup.length = 1 := by
    decide +kernel
  refine ⟨(hget .attrs "Job").trans rfl, (hget .namedTuple "Job").trans rfl, hsize.trans hsize', ?_⟩
  exact (hcall (.materialize .namedTuple Framework.jobSchema)).2.2 _ rfl

end RecordForms.Store
