import RecordForms.Definition.Source
import RecordForms.Proofs.Definition.Accepted

/-!
# The defaults of a call that makes a named tuple

A named tuple without types is written as a call.  The call names all fields, but its defaults are
only values: they go to the last fields, one to each.  A definition keeps its defaults by name.  The
two agree on what is built from a schema, since there the fields with a default come last.

## Main definitions

* `alignRight names defaults`: what the call makes of its names and its defaults

## Main results

* `NamedTuple.alignRight_filterMap`: the defaults of the call, where the fields with one come last
* `Framework.alignRight_of_build`: the call that is written for what is built from a schema
-/

namespace RecordForms

/-- The names that get a default, each with the default that it gets.  Both lists are gone through
from the right, until one of them ends. -/
def alignRight {β : Type} (names : List String) (defaults : List β) : List (String × β) :=
  (names.reverse.zip defaults.reverse).reverse

section Alignment

variable {β : Type} {m : NameMap β} {names before : List String} {entries : List (String × β)}

/-- Names before those that the defaults are for get none. -/
theorem alignRight_append :
    alignRight (before ++ entries.map Prod.fst) (entries.map Prod.snd) = entries := by
  have hlength : (entries.map Prod.fst).reverse.length = (entries.map Prod.snd).reverse.length := by
    simp
  have hpairs : (entries.reverse.map Prod.fst).zip (entries.reverse.map Prod.snd) =
      entries.reverse := by
    rw [List.zip_map', List.map_id']
  have hzip : ((entries.map Prod.fst).reverse ++ before.reverse).zip
      ((entries.map Prod.snd).reverse ++ []) = _ := List.zip_append hlength
  rw [List.append_nil, List.zip_nil_right, List.append_nil, ← List.map_reverse, ← List.map_reverse,
    hpairs] at hzip
  rw [alignRight, List.reverse_append, ← List.map_reverse, ← List.map_reverse, hzip,
    List.reverse_reverse]

namespace NameMap

theorem get?_of_mem {e : String × β} (h : e ∈ m.entries) : m.get? e.1 = some e.2 := by
  have hfind := find_filterMap Prod.fst (fun e : String × β => some e.2) m.nodup h
  have hself : (m.entries.filterMap fun e => (some e.2).map fun v => (e.1, v)) = m.entries :=
    List.filterMap_some
  rwa [hself] at hfind

/-- The values of a map are what it finds under its own names. -/
theorem filterMap_get?_names : m.names.filterMap m.get? = m.entries.map Prod.snd := by
  rw [names, List.filterMap_map, ← List.filterMap_eq_map]
  apply List.filterMap_congr
  intro e he
  exact get?_of_mem he

/-- Where the names of a map are the last of a list, its values are all that it finds there. -/
theorem filterMap_get? (hnames : names.Nodup) (h : m.names <:+ names) :
    names.filterMap m.get? = m.entries.map Prod.snd := by
  obtain ⟨before, rfl⟩ := h
  have hbefore : before.filterMap m.get? = [] := by
    apply List.filterMap_eq_nil_iff.mpr
    intro name hname
    rw [← Option.not_isSome_iff_eq_none, isSome_get?_iff]
    intro hmem
    exact (List.nodup_append.mp hnames).2.2 name hname name hmem rfl
  rw [List.filterMap_append, hbefore, List.nil_append, filterMap_get?_names]

end NameMap

end Alignment

/-- The defaults of the call go to the fields that they are stored for, where these come last. -/
theorem NamedTuple.alignRight_filterMap {c : NamedTuple} (hfields : c.fields.Nodup)
    (h : c.defaults.names <:+ c.fields) :
    alignRight c.fields (c.fields.filterMap c.defaults.get?) = c.defaults.entries := by
  rw [NameMap.filterMap_get? hfields h]
  obtain ⟨before, hbefore⟩ := h
  rw [← hbefore]
  exact alignRight_append

/-! ### The text of the call -/

namespace Source

/-- The file of a call: the module that it needs, two empty lines, and the call. -/
theorem text_document_tupleForm (name : String) (fields : List String) (defaults : List Value) :
    (Layout.tupleForm name fields defaults).document.text =
      "import collections\n\n\n" ++ tupleText name fields defaults ++ "\n" := by
  have hlines : (Layout.tupleForm name fields defaults).document.text = Document.ended
      ["import collections", "", "", tupleText name fields defaults] := rfl
  have himports : "import collections\n\n\n" = "import collections" ++ "\n" ++ ("\n" ++ "\n") := by
    decide
  rw [hlines, himports]
  simp only [Document.ended, List.map_cons, List.map_nil, String.join_cons, String.join_nil,
    String.append_assoc, String.empty_append, String.append_empty]

end Source

namespace Framework

variable {config : Config} {s : Schema} {d : Definition}

/-- What is built is a named tuple with the fields of the schema.  Those with a default come last,
and if none has a type, there are no types. -/
theorem exists_namedTuple_of_build (h : namedTuple.build config s = .ok d) :
    ∃ c, d = .namedTuple c ∧ c.name = s.name ∧ c.fields = s.fieldNames ∧
      c.defaults.names <:+ c.fields ∧
      (∀ field ∈ s.fields, (c.defaults.get? field.name).isSome = field.hasDefault) ∧
      ((∀ field ∈ s.fields, field.type = none) → c.annotations.entries = []) := by
  obtain ⟨kwOnly, pairs, hk, hfields, hslots, rfl⟩ := exists_slots_of_build h
  have hnames := nodup_names hfields
  have haccepted :
      (namedTuple.describe s.name (config.target s.name) kwOnly pairs).Accepted config s :=
    accepted_namedTuple hslots hfields ((keywordOnly?_eq_ok hk).2 rfl)
  rw [describe_namedTuple] at haccepted ⊢
  refine ⟨_, rfl, rfl, ?_, haccepted.1, ?_, ?_⟩
  · rw [Schema.fieldNames, ← hfields, List.map_map]
    rfl
  · intro field hfield
    rw [← hfields] at hfield
    obtain ⟨p, hp, rfl⟩ := List.mem_map.mp hfield
    have hget := NameMap.get?_ofList_filterMap (fun p : Field × DefaultSlot => p.1.name)
      (fun p => slotValue? p.2) hnames hp
    rw [hget, slotValue?_of_fills (hslots p hp), (hslots p hp).hasDefault]
    rfl
  · intro huntyped
    have hnone : (pairs.filterMap fun p =>
        (p.1.type.map Annotation.resolved).map fun a => (p.1.name, a)) = [] := by
      apply List.filterMap_eq_nil_iff.mpr
      intro p hp
      have hmem : p.1 ∈ s.fields := hfields ▸ List.mem_map_of_mem hp
      rw [huntyped p.1 hmem]
      rfl
    rw [hnone]
    rfl

/-- **The call that is written for a named tuple without types gives every default to its own
field.**  It names the fields of the schema in order, and its defaults are left out just if no field
has one.  Counted from the right, they are the defaults that the definition stores, each under the
name of its field. -/
theorem alignRight_of_build (h : namedTuple.build config s = .ok d) (hne : s.fields ≠ [])
    (huntyped : ∀ field ∈ s.fields, field.type = none) :
    ∃ c defaults, d = .namedTuple c ∧ c.fields = s.fieldNames ∧
      namedTuple.write d = "import collections\n\n\n" ++ (s.name ++ " = collections.namedtuple(" ++
        (Value.str s.name).text ++ ", " ++
        Source.listText (s.fieldNames.map fun name => (Value.str name).text) ++
        (if s.fields.any Field.hasDefault then
          ", defaults=" ++ Source.listText (defaults.map Value.text) else "") ++ ")") ++ "\n" ∧
      defaults.length ≤ s.fieldNames.length ∧
      alignRight s.fieldNames defaults = c.defaults.entries := by
  obtain ⟨c, rfl, hname, hfields, hlast, hdefault, hannotations⟩ := exists_namedTuple_of_build h
  have hlayout : (Definition.namedTuple c).layout =
      .tupleForm c.name c.fields (c.fields.filterMap c.defaults.get?) := by
    have hsome : c.fields ≠ [] := by simpa [hfields, Schema.fieldNames] using hne
    exact if_pos (by simp [NameMap.isEmpty, hannotations huntyped, hsome])
  have hempty : (c.fields.filterMap c.defaults.get?).isEmpty = !s.fields.any Field.hasDefault := by
    rw [Bool.eq_iff_iff, List.isEmpty_iff, List.filterMap_eq_nil_iff, hfields, Schema.fieldNames,
      List.forall_mem_map, Bool.not_eq_true', List.any_eq_false]
    refine forall₂_congr fun field hfield => ?_
    rw [← hdefault field hfield, Option.not_isSome_iff_eq_none]
  refine ⟨c, c.fields.filterMap c.defaults.get?, rfl, hfields, ?_, ?_, ?_⟩
  · have hsource : namedTuple.write (.namedTuple c) = (Definition.namedTuple c).source := rfl
    rw [hsource, Definition.source, hlayout, Source.text_document_tupleForm, Source.tupleText,
      hempty, hname, hfields]
    cases s.fields.any Field.hasDefault with
    | true => rfl
    | false => rfl
  · rw [← hfields]
    exact List.length_filterMap_le ..
  · rw [← hfields]
    refine NamedTuple.alignRight_filterMap ?_ hlast
    rw [hfields]
    exact s.nodup

/-- A named tuple with a required field, and two defaults after it. -/
def pointSchema : Schema where
  name := "Point"
  fields := [⟨"x", none, .absent⟩, ⟨"y", none, .value (.int 0)⟩, ⟨"label", none, .value (.str "")⟩]
  nodup := by decide

theorem alignRight_of_build_point :
    ∃ d, namedTuple.build {} pointSchema = .ok d ∧ pointSchema.fields ≠ [] ∧
      (∀ field ∈ pointSchema.fields, field.type = none) ∧
      namedTuple.write d = "import collections\n\n\n" ++
        "Point = collections.namedtuple('Point', ['x', 'y', 'label'], defaults=[0, ''])\n" ∧
      ∃ c defaults, d = .namedTuple c ∧ defaults.length ≤ 3 ∧
        alignRight ["x", "y", "label"] defaults = c.defaults.entries := by
  have htext : (namedTuple.build {} pointSchema).toOption.map namedTuple.write =
      some ("import collections\n\n\n" ++
        "Point = collections.namedtuple('Point', ['x', 'y', 'label'], defaults=[0, ''])\n") := by
    decide +kernel
  obtain ⟨d, hd⟩ : ∃ d, namedTuple.build {} pointSchema = .ok d := ⟨_, rfl⟩
  have hne : pointSchema.fields ≠ [] := by decide
  have huntyped : ∀ field ∈ pointSchema.fields, field.type = none := by decide
  obtain ⟨c, defaults, hc, -, -, hlength, halign⟩ := alignRight_of_build hd hne huntyped
  rw [hd] at htext
  exact ⟨d, hd, hne, huntyped, Option.some.inj htext, c, defaults, hc, hlength, halign⟩

end Framework

end RecordForms
