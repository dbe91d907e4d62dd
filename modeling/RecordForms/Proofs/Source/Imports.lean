import RecordForms.Proofs.Source.Lines

/-!
# The imports of a layout

A file imports the modules that were asked for while its types were written.  They stand at its
beginning, one on a line, in order, with an empty line after them.

## Main definitions

* `Source.IsModuleOf module path`: what stands before the first dot of a dotted name
* `Source.Entry.annotations`: the annotations that are written in a line of the body of a class
* `Source.Entry.IsAny`: the lines that declare a field as `typing.Any`
* `Source.Layout.home`, `Source.Layout.entries`, `Source.Layout.imports`, `Source.Layout.rest`: the
  parts of the file of a layout
* `Source.IsImportLine`, `Source.importLines`: import lines, and those at the beginning of a file

## Main results

* `Source.mem_annotationModules_iff`: the modules that an annotation needs
* `Source.Layout.mem_imports_iff`: the modules that a file imports
* `Source.Layout.text_document`: the file of a layout, its imports apart
* `Source.importLines_ended`: the import lines that are read off a file
-/

namespace RecordForms.Source

open RecordForms.Text

/-! ### The modules of an annotation -/

/-- Whether `module` is what stands before the first dot of a dotted name. -/
def IsModuleOf (module path : String) : Prop :=
  '.' ∉ module.toList ∧ ∃ rest, path.toList = module.toList ++ '.' :: rest

theorem notMem_of_cut {sep : Char} {cs head rest : List Char} (h : cut sep cs = some (head, rest)) :
    sep ∉ head := by
  induction cs generalizing head with
  | nil => cases h
  | cons c cs ih =>
    rw [cut] at h
    split at h
    · obtain ⟨rfl, -⟩ := Prod.mk.inj (Option.some.inj h)
      exact List.not_mem_nil
    · rename_i hc
      obtain ⟨⟨a, b⟩, hcut, hpair⟩ := Option.map_eq_some_iff.mp h
      obtain ⟨rfl, rfl⟩ := Prod.mk.inj hpair
      exact List.not_mem_cons_of_ne_of_not_mem (Ne.symm hc) (ih hcut)

theorem mem_moduleOf_iff {module path : String} :
    module ∈ modules.moduleOf path ↔ IsModuleOf module path := by
  unfold modules.moduleOf
  constructor
  · intro h
    split at h
    · rename_i head rest hcut
      obtain rfl := List.mem_singleton.mp h
      rw [IsModuleOf, String.toList_ofList]
      exact ⟨notMem_of_cut hcut, rest, TypeExpr.cut_eq_some hcut⟩
    · cases h
  · rintro ⟨hdot, rest, hpath⟩
    rw [hpath, cut_append hdot]
    exact List.mem_singleton.mpr String.ofList_toList.symm

/-- An annotation needs the modules of all names in its type.  A reference needs none. -/
theorem mem_annotationModules_iff {a : Annotation} {module : String} :
    module ∈ annotationModules a ↔
      ∃ t, a = .resolved t ∧ ∃ path ∈ t.names, IsModuleOf module path := by
  cases a with
  | resolved t =>
    rw [annotationModules, modules_eq_flatMap, List.mem_flatMap]
    simp only [mem_moduleOf_iff, Annotation.resolved.injEq, exists_eq_left']
  | forward reference =>
    constructor
    · intro h
      cases h
    · rintro ⟨t, ⟨⟩, -⟩

/-! ### The modules of a layout -/

/-- The annotation that an argument is, if it is a type. -/
def Argument.annotation? : Argument → Option Annotation
  | type a => some a
  | _ => none

/-- The annotations that are written in a line of the body of a class. -/
def Entry.annotations : Entry → List Annotation
  | annotated _ type _ => type.annotation?.toList
  | assigned _ (.call _ args) => args.filterMap fun x => x.2.annotation?
  | assigned _ (.value a) => a.annotation?.toList

/-- Whether a line of the body of a class declares a field as `typing.Any`, because it has no
type. -/
def Entry.IsAny : Entry → Prop
  | annotated _ .any _ => True
  | _ => False

variable {module : String}

theorem Argument.mem_modules_iff {a : Argument} :
    module ∈ a.modules ↔ ∃ b, a.annotation? = some b ∧ module ∈ annotationModules b := by
  cases a with
  | type a => simp [modules, annotation?]
  | _ => simp [modules, annotation?]

/-- A line needs the modules of its annotations, and that of `typing.Any` if it declares this. -/
theorem Entry.mem_modules_iff {e : Entry} : module ∈ e.modules ↔
    (∃ a ∈ e.annotations, module ∈ annotationModules a) ∨ module = "typing" ∧ e.IsAny := by
  cases e with
  | annotated name type init =>
    cases type with
    | stored a => simp [modules, annotations, IsAny, FieldType.modules, FieldType.annotation?]
    | any => simp [modules, annotations, IsAny, FieldType.modules, FieldType.annotation?]
    | notRequired a => simp [modules, annotations, IsAny, FieldType.modules, FieldType.annotation?]
  | assigned name init =>
    cases init with
    | value a => simp [modules, annotations, IsAny, Argument.mem_modules_iff]
    | call callee args =>
      simp only [modules, annotations, IsAny, List.mem_flatMap, List.mem_filterMap,
        Argument.mem_modules_iff, and_false, or_false]
      constructor
      · rintro ⟨x, hx, a, ha, hmodule⟩
        exact ⟨a, ⟨x, hx, ha⟩, hmodule⟩
      · rintro ⟨a, ⟨x, hx, ha⟩, hmodule⟩
        exact ⟨x, hx, a, ha, hmodule⟩

namespace Layout

/-- The module of the framework. -/
def home : Layout → String
  | classForm c => c.home
  | tupleForm _ _ _ => "collections"

/-- The lines of the body of a class. -/
def entries : Layout → List Entry
  | classForm c => c.body
  | tupleForm _ _ _ => []

/-- The modules that the file of a layout imports. -/
def imports (l : Layout) : NameSet :=
  .ofList (l.home :: l.entries.flatMap Entry.modules)

/-- The lines of the file of a layout after its imports. -/
def rest : Layout → List String
  | classForm c =>
    Document.classLines (c.decorator.map decoratorText).toList c.header (c.body.map Entry.text)
  | tupleForm name fields defaults => [tupleText name fields defaults]

variable {l : Layout}

/-- A file imports the module of the framework and what its lines need. -/
theorem mem_imports_iff : module ∈ l.imports.names ↔ module = l.home ∨
    (∃ a ∈ l.entries.flatMap Entry.annotations, module ∈ annotationModules a) ∨
      module = "typing" ∧ ∃ e ∈ l.entries, e.IsAny := by
  rw [imports, NameSet.mem_ofList, List.mem_cons, List.mem_flatMap]
  simp only [Entry.mem_modules_iff, List.mem_flatMap]
  refine or_congr_right ?_
  constructor
  · rintro ⟨e, he, ⟨a, ha, hmodule⟩ | ⟨hmodule, hany⟩⟩
    · exact .inl ⟨a, ⟨e, he, ha⟩, hmodule⟩
    · exact .inr ⟨hmodule, e, he, hany⟩
  · rintro (⟨a, ⟨e, he, ha⟩, hmodule⟩ | ⟨hmodule, e, he, hany⟩)
    · exact ⟨e, he, .inl ⟨a, ha, hmodule⟩⟩
    · exact ⟨e, he, .inr ⟨hmodule, hany⟩⟩

/-- The file of a layout: its imports, two empty lines, and the rest. -/
theorem text_document (l : Layout) : l.document.text =
    Document.ended (l.imports.names.map ("import " ++ ·) ++ ["", ""] ++ l.rest) := by
  cases l with
  | classForm c => exact c.text_document_classForm
  | tupleForm name fields defaults => rfl

end Layout

/-! ### Import lines -/

/-- Whether a line begins as an import does. -/
def IsImportLine (line : String) : Prop :=
  "import ".toList <+: line.toList

/-- The lines at the beginning of a file, up to the first that is empty. -/
def importLines (source : String) : List String :=
  ((splitAt '\n' source.toList).takeWhile (· ≠ [])).map String.ofList

theorem not_isImportLine {line : String} {c : Char} (hc : c ≠ 'i')
    (h : line.toList.head? = some c) : ¬ IsImportLine line := by
  rintro ⟨rest, hrest⟩
  rw [← hrest] at h
  exact hc (Option.some.inj h).symm

/-- The lines of a class begin with an at sign, with `class`, or with blanks. -/
theorem not_isImportLine_of_mem_rest {c : ClassLayout} :
    ∀ line ∈ (Layout.classForm c).rest, ¬ IsImportLine line := by
  simp only [Layout.rest, Document.classLines, List.forall_mem_append, List.forall_mem_singleton,
    List.forall_mem_map]
  refine ⟨⟨fun text _ => ?_, ?_⟩, fun text _ => ?_⟩
  · exact not_isImportLine (c := '@') (by decide) (by simp)
  · exact not_isImportLine (c := 'c') (by decide) (by simp [ClassLayout.header])
  · exact not_isImportLine (c := ' ') (by decide) (by simp [Document.indented])

theorem toList_ended_cons (line : String) (lines : List String) :
    (Document.ended (line :: lines)).toList =
      line.toList ++ '\n' :: (Document.ended lines).toList := by
  simp [Document.toList_ended]

/-- Lines that are not empty and hold no line feeds are read off a file, if an empty line comes
after them. -/
theorem importLines_ended {lines rest : List String}
    (h : ∀ line ∈ lines, line.toList ≠ [] ∧ '\n' ∉ line.toList) :
    importLines (Document.ended (lines ++ "" :: rest)) = lines := by
  induction lines with
  | nil =>
    rw [List.nil_append, importLines, toList_ended_cons, splitAt_append (by decide)]
    rfl
  | cons line lines ih =>
    obtain ⟨⟨hne, hfeed⟩, hlines⟩ := List.forall_mem_cons.mp h
    have ih := ih hlines
    rw [importLines] at ih
    rw [List.cons_append, importLines, toList_ended_cons, splitAt_append hfeed, List.takeWhile_cons,
      if_pos (decide_eq_true hne), List.map_cons, String.ofList_toList, ih]

end RecordForms.Source
