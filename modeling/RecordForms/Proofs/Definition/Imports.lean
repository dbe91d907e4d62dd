import RecordForms.Proofs.Definition.Lines
import RecordForms.Proofs.Definition.Readable
import RecordForms.Proofs.Source.Imports

/-!
# The imports of a written definition

The file of a definition imports the module of its framework and the modules that its annotations
need, each once.  A dotted name anywhere in an annotation needs what stands before its first dot,
and a field that is written as `typing.Any` needs `typing`.

## Main definitions

* `Definition.ownModule`: the module of the framework
* `Definition.writesAny`: whether fields without annotations are written as `typing.Any`
* `Definition.Needs`: the modules that a definition needs

## Main results

* `Definition.annotations_entries`: the annotations that are written are those that are stored
* `Definition.exists_isAny_iff`: when a field is written as `typing.Any`
* `Definition.mem_imports_iff`: a file imports the modules that its definition needs
* `Framework.write_imports`: the import lines of the file that a framework gives for a definition
-/

namespace RecordForms

open RecordForms.Text RecordForms.Source

/-! ### The annotations that are written -/

namespace AttrsAttribute

variable (a : AttrsAttribute)

/-- Of the arguments that describe an attribute, only the type is an annotation. -/
theorem annotations_assignedEntry : a.assignedEntry.annotations = a.type.toList := by
  have hflags : (parameterFlags a.kwOnly a.init).filterMap (fun x => x.2.annotation?) = [] := by
    cases a.kwOnly <;> cases a.init <;> rfl
  have hvalue : ((slotWrapped a.default).map fun d => ("default", d)).toList.filterMap
      (fun x => x.2.annotation?) = [] := by
    cases a.default <;> rfl
  change List.filterMap (fun x : String × Argument => x.2.annotation?) (_ ++ _ ++ _) = _
  rw [List.filterMap_append, List.filterMap_append, hflags, hvalue, List.append_nil,
    List.append_nil]
  cases a.type <;> rfl

theorem annotations_annotatedEntry : a.annotatedEntry.annotations = a.type.toList := by
  unfold annotatedEntry
  cases a.type <;> rfl

end AttrsAttribute

/-- In an attrs class the attributes have annotations only if all of them have types. -/
theorem AttrsClass.not_isAny (c : AttrsClass) : ¬ ∃ e ∈ c.layout.body, e.IsAny := by
  change ¬ ∃ e ∈ c.attributes.map (if c.attributes.any (fun a => a.type.isNone) then
    AttrsAttribute.assignedEntry else AttrsAttribute.annotatedEntry), e.IsAny
  rintro ⟨e, he, hany⟩
  obtain ⟨a, ha, rfl⟩ := List.mem_map.mp he
  split at hany
  · cases hany
  · rename_i hexplicit
    have htype := List.any_eq_false.mp (Bool.eq_false_iff.mpr hexplicit) a ha
    unfold AttrsAttribute.annotatedEntry at hany
    cases ht : a.type with
    | none => simp [ht] at htype
    | some t =>
      rw [ht] at hany
      cases hany

namespace Definition

/-- A named tuple without annotations is a call. -/
theorem layout_of_isBareTuple {c : NamedTuple} (h : (namedTuple c).isBareTuple) :
    (namedTuple c).layout = .tupleForm c.name c.fields (c.fields.filterMap c.defaults.get?) :=
  if_pos h

/-- The module of the framework that a definition is written for. -/
def ownModule (d : Definition) : String :=
  if d.isBareTuple then "collections" else d.home

theorem home_layout (d : Definition) : d.layout.home = d.ownModule := by
  cases d with
  | namedTuple c =>
    change c.layout.home = if c.annotations.isEmpty && !c.fields.isEmpty then _ else _
    unfold NamedTuple.layout
    split <;> rfl
  | _ => rfl

/-- Lines that are made one by one hold the annotations that belong to each of them. -/
theorem flatMap_annotations {α : Type} {as : List α} {entry : α → Entry}
    {annotation? : α → Option Annotation}
    (h : ∀ a ∈ as, (entry a).annotations = (annotation? a).toList) :
    (as.map entry).flatMap Entry.annotations = as.filterMap annotation? := by
  rw [List.flatMap_map, List.filterMap_eq_flatMap_toList]
  exact List.flatMap_congr h

/-- The annotations that are written in the file of a definition are those that are stored for its
fields. -/
theorem annotations_entries (d : Definition) :
    d.layout.entries.flatMap Entry.annotations = d.annotations := by
  cases d with
  | attrs c =>
    change (c.attributes.map (if c.attributes.any (fun a => a.type.isNone) then
      AttrsAttribute.assignedEntry else AttrsAttribute.annotatedEntry)).flatMap _ = _
    -- with or without annotations in the body, the type of an attribute is written
    split
    · exact flatMap_annotations fun a _ => a.annotations_assignedEntry
    · exact flatMap_annotations fun a _ => a.annotations_annotatedEntry
  | dataclass c =>
    rw [annotations, ← List.filterMap_eq_map]
    exact flatMap_annotations fun f _ => rfl
  | struct c =>
    rw [annotations, ← List.filterMap_eq_map]
    exact flatMap_annotations fun f _ => rfl
  | namedTuple c =>
    change c.layout.entries.flatMap _ = c.fields.filterMap c.annotations.get?
    unfold NamedTuple.layout
    split
    · rename_i hbare
      -- the call has no annotations, since the table has none
      have hempty : c.annotations.entries = [] :=
        List.isEmpty_iff.mp (Bool.and_eq_true_iff.mp hbare).1
      exact (List.filterMap_eq_nil_iff.mpr fun name _ => by rw [NameMap.get?, hempty]; rfl).symm
    · refine flatMap_annotations fun name _ => ?_
      cases c.annotations.get? name <;> rfl
  | pydantic c =>
    refine flatMap_annotations fun entry _ => ?_
    obtain ⟨name, annotation, default⟩ := entry
    cases annotation <;> rfl
  | typedDict c =>
    rw [annotations, ← List.filterMap_eq_map]
    refine flatMap_annotations fun entry _ => ?_
    dsimp only
    split <;> rfl

/-! ### Fields without annotations -/

/-- Whether a field without an annotation is written as `typing.Any`.  In an attrs class and in a
bare tuple nothing is written for its type. -/
def writesAny : Definition → Bool
  | attrs _ => false
  | d => !d.isBareTuple

/-- Lines that are made one by one, and declare `typing.Any` for the members without annotation. -/
theorem exists_isAny_map_iff {α : Type} {as : List α} {entry : α → Entry} {member : α → Member}
    (h : ∀ a, (entry a).IsAny ↔ Member.annotation (member a) = none) :
    (∃ e ∈ as.map entry, e.IsAny) ↔ ∃ m ∈ as.map member, m.annotation = none := by
  simp only [List.mem_map, exists_exists_and_eq_and, h]

/-- A field is written as `typing.Any` just if it has no annotation, and fields without annotations
are so written. -/
theorem exists_isAny_iff (d : Definition) : (∃ e ∈ d.layout.entries, e.IsAny) ↔
    d.writesAny ∧ ∃ m ∈ d.members, m.annotation = none := by
  cases d with
  | attrs c => exact iff_of_false c.not_isAny fun h => Bool.false_ne_true h.1
  | dataclass c =>
    refine (exists_isAny_map_iff fun f => ?_).trans (and_iff_right rfl).symm
    exact iff_of_false id nofun
  | struct c =>
    refine (exists_isAny_map_iff fun f => ?_).trans (and_iff_right rfl).symm
    exact iff_of_false id nofun
  | namedTuple c =>
    have hwrites : (namedTuple c).writesAny = !(namedTuple c).isBareTuple := rfl
    cases hbare : (namedTuple c).isBareTuple with
    | true =>
      rw [layout_of_isBareTuple hbare, hwrites, hbare]
      refine iff_of_false ?_ (fun h => Bool.false_ne_true h.1)
      rintro ⟨e, he, -⟩
      cases he
    | false =>
      have hlayout : (namedTuple c).layout = .classForm _ := if_neg (Bool.eq_false_iff.mp hbare)
      rw [hlayout, hwrites, hbare]
      refine (exists_isAny_map_iff fun name => ?_).trans (and_iff_right rfl).symm
      cases c.annotations.get? name with
      | none => exact iff_of_true trivial rfl
      | some a => exact iff_of_false id nofun
  | pydantic c =>
    refine (exists_isAny_map_iff fun entry => ?_).trans (and_iff_right rfl).symm
    obtain ⟨name, annotation, default⟩ := entry
    cases annotation with
    | none => exact iff_of_true trivial rfl
    | some a => exact iff_of_false id nofun
  | typedDict c =>
    refine (exists_isAny_map_iff fun entry => ?_).trans (and_iff_right rfl).symm
    refine iff_of_false ?_ nofun
    dsimp only
    split
    · exact id
    · exact id

/-! ### The modules that are imported -/

/-- The modules that a definition needs. -/
inductive Needs (d : Definition) : String → Prop
  /-- The module of the framework. -/
  | own : d.Needs d.ownModule
  /-- The module of a dotted name, anywhere in an annotation. -/
  | name {t : TypeExpr} {path module : String} (ht : .resolved t ∈ d.annotations)
      (hpath : path ∈ t.names) (hmodule : IsModuleOf module path) : d.Needs module
  /-- The module of `typing.Any`, as which a field without an annotation is written. -/
  | any {m : Member} (hd : d.writesAny) (hm : m ∈ d.members) (hnone : m.annotation = none) :
      d.Needs "typing"

/-- A file imports the modules that its definition needs. -/
theorem mem_imports_iff {d : Definition} {module : String} :
    module ∈ d.layout.imports.names ↔ d.Needs module := by
  rw [Layout.mem_imports_iff, home_layout, annotations_entries, exists_isAny_iff]
  simp only [mem_annotationModules_iff]
  constructor
  · rintro (rfl | ⟨_, ht, t, rfl, path, hpath, hmodule⟩ | ⟨rfl, hd, m, hm, hnone⟩)
    · exact .own
    · exact .name ht hpath hmodule
    · exact .any hd hm hnone
  · rintro (_ | ⟨ht, hpath, hmodule⟩ | ⟨hd, hm, hnone⟩)
    · exact .inl rfl
    · exact .inr (.inl ⟨_, ht, _, rfl, _, hpath, hmodule⟩)
    · exact .inr (.inr ⟨rfl, hd, _, hm, hnone⟩)

/-- Only a bare tuple is not written as a class, but as a call that begins with its name. -/
theorem isBareTuple_of_isImportLine {d : Definition} {line : String} (hline : line ∈ d.layout.rest)
    (h : IsImportLine line) :
    d.isBareTuple ∧ ∃ arguments,
      line = d.name ++ " = collections.namedtuple(" ++ arguments ++ ")" := by
  have hclass {c : ClassLayout} (hlayout : d.layout = .classForm c) : False := by
    rw [hlayout] at hline
    exact not_isImportLine_of_mem_rest line hline h
  cases d with
  | namedTuple c =>
    cases hd : (namedTuple c).isBareTuple with
    | true =>
      rw [layout_of_isBareTuple hd] at hline
      obtain rfl := List.mem_singleton.mp hline
      exact ⟨rfl, exists_tupleText_eq c.name c.fields _⟩
    | false => exact (hclass (if_neg (Bool.eq_false_iff.mp hd))).elim
  | _ => exact (hclass rfl).elim

theorem source_eq (d : Definition) : d.source =
    Document.ended (d.layout.imports.names.map ("import " ++ ·) ++ ["", ""] ++ d.layout.rest) :=
  d.layout.text_document

/-- The import lines are read off a file unless a line feed breaks one of them. -/
theorem importLines_source {d : Definition} (h : ∀ module, d.Needs module → '\n' ∉ module.toList) :
    importLines d.source = d.layout.imports.names.map ("import " ++ ·) := by
  rw [source_eq, List.append_assoc]
  refine importLines_ended (List.forall_mem_map.mpr fun module hmodule => ?_)
  have hfeed := h module (mem_imports_iff.mp hmodule)
  rw [String.toList_append]
  refine ⟨List.append_ne_nil_of_left_ne_nil (by decide) _, ?_⟩
  exact List.not_mem_append (by decide) hfeed

end Definition

/-- **A file imports exactly what its annotations need.**  It begins with its imports, in order and
each once: the module of the framework, the modules of the dotted names in its annotations, and
`typing` if a field without one is written as `typing.Any`.  No line after them is an import, unless
the name of a bare tuple makes it one; and the imports can be read off the file, if none of them
holds a line feed. -/
theorem Framework.write_imports {f : Framework} {d : Definition} (hf : f.canWrite d) :
    ∃ imports rest : List String,
      f.write d = Document.ended (imports.map ("import " ++ ·) ++ ["", ""] ++ rest) ∧
      imports.Pairwise (· < ·) ∧
      (∀ module, module ∈ imports ↔ d.Needs module) ∧
      (∀ line ∈ rest, IsImportLine line → d.isBareTuple ∧
        ∃ arguments, line = d.name ++ " = collections.namedtuple(" ++ arguments ++ ")") ∧
      ((∀ module, d.Needs module → '\n' ∉ module.toList) →
        importLines (f.write d) = imports.map ("import " ++ ·)) := by
  rw [Framework.write, if_pos hf]
  refine ⟨d.layout.imports.names, d.layout.rest, d.source_eq, d.layout.imports.ascending,
    fun module => Definition.mem_imports_iff, ?_, Definition.importLines_source⟩
  exact fun line hline => Definition.isBareTuple_of_isImportLine hline

/-- A named tuple with dotted names at several depths, and a field without an annotation. -/
def spanTuple : Definition :=
  .namedTuple
    { name := "Span"
      scope := .ofName "m"
      fields := ["since", "unit", "note"]
      annotations := .ofList
        [("since", .resolved (.union [.generic "list" [.name "datetime.date"], .noneType])),
          ("unit", .resolved (.literal "typing_extensions.Literal" [.str "a.b"]))]
      defaults := .empty }

theorem Framework.write_imports_span : namedTuple.canWrite spanTuple ∧
    namedTuple.write spanTuple = "import datetime\nimport typing\nimport typing_extensions\n\n\n" ++
      "class Span(typing.NamedTuple):\n    since: list[datetime.date] | None\n" ++
      "    unit: typing_extensions.Literal['a.b']\n    note: typing.Any\n" ∧
    ∃ imports rest : List String,
      namedTuple.write spanTuple =
        Document.ended (imports.map ("import " ++ ·) ++ ["", ""] ++ rest) ∧
      imports.Pairwise (· < ·) ∧
      (∀ module, module ∈ imports ↔ spanTuple.Needs module) ∧
      (∀ line ∈ rest, IsImportLine line → spanTuple.isBareTuple ∧ ∃ arguments,
        line = spanTuple.name ++ " = collections.namedtuple(" ++ arguments ++ ")") ∧
      ((∀ module, spanTuple.Needs module → '\n' ∉ module.toList) →
        importLines (namedTuple.write spanTuple) = imports.map ("import " ++ ·)) := by
  have hf : namedTuple.canWrite spanTuple := by decide
  exact ⟨hf, by decide +kernel, write_imports hf⟩

end RecordForms
