import RecordForms.Proofs.TypeExpr.Taken
import RecordForms.Proofs.Value.Lines
import RecordForms.Source.Layout

/-!
# Layouts on lines

The parts of a layout are written one after another into lines.  A part stands on one line if the
texts that are written as they are do: names, dotted names, and nothing else.

## Main definitions

* `TypeExpr.plainTexts`, `Annotation.plainTexts`: what is written as it is in a type and in an
  annotation
* `Source.Initializer.All`: the initializers whose arguments all have a property
* `Source.Entry.name`: the name that a line of a class body declares
* `Source.ClassLayout.lines`: the lines of the file of a class

## Main results

* `Source.modules_eq_flatMap`: the modules of a type are those of its names
* `Source.isLine_annotationText`: an annotation, which is quoted if it is a reference
* `Source.Entry.isLine_annotated`, `Source.Entry.isLine_assigned`: the lines of a class body
* `Source.ClassLayout.isLine_header`, `Source.isLine_tupleText`: the other lines of a layout
* `Source.Document.splitAt_ended`: a finished file is cut into its lines
-/

namespace RecordForms

open RecordForms.Text

/-! ### Types -/

namespace TypeExpr

/-- What is written as it is in a type: its names, and the names of objects among the arguments of
its literal types. -/
def plainTexts (t : TypeExpr) : List String :=
  t.names ++ t.values.flatMap Value.symbols

mutual

theorem isOneLine_chars (t : TypeExpr) (hnames : ∀ path ∈ t.names, IsLine path)
    (hvalues : ∀ v ∈ t.values, IsLine v.text) : IsOneLine t.chars := by
  cases t with
  | name path => exact hnames path List.mem_cons_self
  | generic origin args =>
    obtain ⟨horigin, hargs⟩ := List.forall_mem_cons.mp hnames
    rw [chars, isOneLine_append, isOneLine_append, isOneLine_cons]
    exact ⟨⟨horigin, rfl,
      Value.isOneLine_commaSeparated (isOneLine_itemChars args hargs hvalues)⟩, by decide⟩
  | union members =>
    exact isOneLine_intercalate (by decide) (isOneLine_itemChars members hnames hvalues)
  | noneType => decide
  | literal origin values =>
    obtain ⟨horigin, -⟩ := List.forall_mem_cons.mp hnames
    -- the arguments are values, not types
    have hitems : ∀ cs ∈ Value.itemChars values, IsOneLine cs := by
      rw [Value.itemChars_eq_map]
      exact List.forall_mem_map.mpr fun v hv => isLine_ofList.mp (hvalues v hv)
    rw [chars, isOneLine_append, isOneLine_append, isOneLine_cons]
    exact ⟨⟨horigin, rfl, Value.isOneLine_commaSeparated hitems⟩, by decide⟩

theorem isOneLine_itemChars (ts : List TypeExpr) (hnames : ∀ path ∈ itemNames ts, IsLine path)
    (hvalues : ∀ v ∈ itemValues ts, IsLine v.text) : ∀ cs ∈ itemChars ts, IsOneLine cs := by
  match ts with
  | [] => nofun
  | t :: ts =>
    obtain ⟨htnames, htsnames⟩ := List.forall_mem_append.mp hnames
    obtain ⟨htvalues, htsvalues⟩ := List.forall_mem_append.mp hvalues
    exact List.forall_mem_cons.mpr
      ⟨isOneLine_chars t htnames htvalues, isOneLine_itemChars ts htsnames htsvalues⟩

end

theorem isLine_text {t : TypeExpr} (h : ∀ s ∈ t.plainTexts, IsLine s) : IsLine t.text := by
  obtain ⟨hnames, hsymbols⟩ := List.forall_mem_append.mp h
  refine isLine_ofList.mpr (isOneLine_chars t hnames fun v hv => ?_)
  exact Value.isLine_text (List.forall_mem_flatMap.mp hsymbols v hv)

end TypeExpr

/-- What is written as it is in an annotation.  A reference is quoted. -/
def Annotation.plainTexts : Annotation → List String
  | resolved t => t.plainTexts
  | forward _ => []

namespace Source

mutual

/-- The modules of a type are those of its names. -/
theorem modules_eq_flatMap (t : TypeExpr) : modules t = t.names.flatMap modules.moduleOf := by
  cases t with
  | name path => simp [modules, TypeExpr.names]
  | generic origin args =>
    rw [modules, TypeExpr.names, List.flatMap_cons, itemModules_eq_flatMap]
  | union members => rw [modules, TypeExpr.names, itemModules_eq_flatMap]
  | noneType => rfl
  | literal origin values => simp [modules, TypeExpr.names]

theorem itemModules_eq_flatMap (ts : List TypeExpr) :
    modules.itemModules ts = (TypeExpr.itemNames ts).flatMap modules.moduleOf := by
  match ts with
  | [] => rfl
  | t :: ts =>
    rw [modules.itemModules, TypeExpr.itemNames, List.flatMap_append, modules_eq_flatMap,
      itemModules_eq_flatMap]

end

variable {a : Annotation} {n : String}

/-- A reference is quoted, so that it may be any text. -/
theorem isLine_annotationText (h : ∀ s ∈ a.plainTexts, IsLine s) : IsLine (annotationText a) := by
  cases a with
  | resolved t => exact TypeExpr.isLine_text h
  | forward reference => exact Value.isLine_text nofun

/-- A module is a part of a name. -/
theorem isLine_of_mem_annotationModules (h : ∀ s ∈ a.plainTexts, IsLine s) {module : String}
    (hmodule : module ∈ annotationModules a) : IsLine module := by
  cases a with
  | resolved t =>
    rw [annotationModules, modules_eq_flatMap, List.mem_flatMap] at hmodule
    obtain ⟨path, hpath, hmodule⟩ := hmodule
    have hline : IsLine path := h path (List.mem_append_left _ hpath)
    unfold modules.moduleOf at hmodule
    split at hmodule
    · rename_i head rest hcut
      rw [List.mem_singleton] at hmodule
      rw [IsLine, TypeExpr.cut_eq_some hcut, isOneLine_append] at hline
      rw [hmodule, isLine_ofList]
      exact hline.1
    · cases hmodule
  | forward reference => cases hmodule

namespace FieldType

/-- The annotation that stands for the type, if there is one. -/
def annotation? : FieldType → Option Annotation
  | stored a => some a
  | any => none
  | notRequired a => some a

variable {type : FieldType}

theorem isLine_text (h : ∀ a ∈ type.annotation?, IsLine (annotationText a)) : IsLine type.text := by
  cases type with
  | stored a => exact h a rfl
  | any =>
    change IsLine anyType
    decide
  | notRequired a =>
    change IsLine ("typing.NotRequired[" ++ annotationText a ++ "]")
    rw [isLine_append, isLine_append]
    exact ⟨⟨by decide, h a rfl⟩, by decide⟩

theorem modules_eq : type.modules = type.annotation?.elim ["typing"] annotationModules := by
  cases type <;> rfl

end FieldType

/-! ### Initializers -/

theorem isLine_keywordText {args : List (String × String)}
    (h : ∀ p ∈ args, IsLine p.1 ∧ IsLine p.2) : IsLine (keywordText args) := by
  refine isLine_intercalate (by decide) (List.forall_mem_map.mpr fun p hp => ?_)
  simp only [isLine_append]
  exact ⟨⟨(h p hp).1, by decide⟩, (h p hp).2⟩

/-- What is given, if it has the property `p`. -/
def Given.All {α : Type} (p : α → Prop) : Given α → Prop
  | value a => p a
  | factory a => p a

/-- The initializers whose arguments all have the property `p`, and the rest of which stands on one
line. -/
def Initializer.All {α : Type} (p : α → Prop) : Initializer α → Prop
  | value a => p a
  | call callee args => IsLine callee ∧ ∀ x ∈ args, IsLine x.1 ∧ p x.2

theorem Initializer.All.isLine_text {init : Initializer Argument}
    (h : init.All fun a => IsLine a.text) : IsLine (init.map Argument.text).text := by
  cases init with
  | value a => exact h
  | call callee args =>
    obtain ⟨hcallee, hargs⟩ := h
    simp only [Initializer.map, Initializer.text, isLine_append]
    refine ⟨⟨⟨hcallee, by decide⟩, isLine_keywordText ?_⟩, by decide⟩
    exact List.forall_mem_map.mpr hargs

theorem all_initializer {α : Type} {p : α → Prop} {specifier : String} {args : List (String × α)}
    {given : Option (Given α)} (hspecifier : IsLine specifier)
    (hargs : ∀ x ∈ args, IsLine x.1 ∧ p x.2) (hgiven : ∀ g ∈ given, g.All p) :
    ∀ init ∈ initializer specifier args given, init.All p := by
  intro init hinit
  -- a default that does not stand for itself is the last argument of the call
  have hcall {name : String} {a : α} (hname : IsLine name) (ha : p a) :
      (Initializer.call specifier (args ++ [(name, a)])).All p := by
    refine ⟨hspecifier, List.forall_mem_append.mpr ⟨hargs, ?_⟩⟩
    exact List.forall_mem_singleton.mpr ⟨hname, ha⟩
  cases given with
  | none =>
    rw [initializer] at hinit
    split at hinit
    · cases hinit
    · obtain rfl := Option.some.inj hinit
      exact ⟨hspecifier, hargs⟩
  | some g =>
    have hg := hgiven g rfl
    cases g with
    | value a =>
      rw [initializer] at hinit
      split at hinit
      · obtain rfl := Option.some.inj hinit
        exact hg
      · obtain rfl := Option.some.inj hinit
        exact hcall (by decide) hg
    | factory a =>
      obtain rfl := Option.some.inj hinit
      exact hcall (by decide) hg

/-! ### Lines of a layout -/

namespace Entry

/-- The name that the line declares. -/
def name : Entry → String
  | annotated name _ _ => name
  | assigned name _ => name

/-- What stands after the name says that it is declared with a type or assigned to. -/
theorem exists_text_eq (e : Entry) :
    ∃ rest, e.text = e.name ++ ": " ++ rest ∨ e.text = e.name ++ " = " ++ rest := by
  cases e with
  | annotated name type init =>
    cases init with
    | none => exact ⟨type.text, .inl rfl⟩
    | some init =>
      refine ⟨type.text ++ " = " ++ (init.map Argument.text).text, .inl ?_⟩
      simp [text, fieldLine, Entry.name, String.append_assoc]
  | assigned name init => exact ⟨_, .inr rfl⟩

theorem isLine_annotated {type : FieldType} {init : Option (Initializer Argument)}
    (hname : IsLine n) (htype : IsLine type.text)
    (hinit : ∀ i ∈ init, i.All fun a => IsLine a.text) :
    IsLine (Entry.annotated n type init).text := by
  have hhead : IsLine (n ++ ": " ++ type.text) := by
    simp only [isLine_append]
    exact ⟨⟨hname, by decide⟩, htype⟩
  cases init with
  | none => exact hhead
  | some i =>
    rw [text, Option.map_some, fieldLine, isLine_append, isLine_append]
    exact ⟨⟨hhead, by decide⟩, (hinit i rfl).isLine_text⟩

theorem isLine_assigned {init : Initializer Argument} (hname : IsLine n)
    (hinit : init.All fun a => IsLine a.text) : IsLine (Entry.assigned n init).text := by
  simp only [text, isLine_append]
  exact ⟨⟨hname, by decide⟩, hinit.isLine_text⟩

end Entry

theorem isLine_flagText {flags : List (String × Bool)} (h : ∀ p ∈ flags, IsLine p.1) :
    IsLine (flagText flags) := by
  refine isLine_keywordText (List.forall_mem_map.mpr fun p hp => ⟨h p hp, ?_⟩)
  exact Value.isLine_text nofun

/-- A decorator begins with its name. -/
theorem exists_decoratorText_eq (decorator : String × List (String × Bool)) :
    ∃ options, decoratorText decorator = decorator.1 ++ options := by
  obtain ⟨callee, flags⟩ := decorator
  cases flags with
  | nil => exact ⟨"", String.append_empty.symm⟩
  | cons flag flags =>
    refine ⟨"(" ++ flagText (flag :: flags) ++ ")", ?_⟩
    simp [decoratorText, String.append_assoc]

theorem isLine_decoratorText {callee : String} {flags : List (String × Bool)}
    (hcallee : IsLine callee) (h : ∀ p ∈ flags, IsLine p.1) :
    IsLine (decoratorText (callee, flags)) := by
  cases flags with
  | nil => exact hcallee
  | cons flag flags =>
    simp only [decoratorText, isLine_append]
    exact ⟨⟨⟨hcallee, by decide⟩, isLine_flagText h⟩, by decide⟩

theorem ClassLayout.isLine_header {c : ClassLayout} (hname : IsLine c.name)
    (hbase : ∀ base ∈ c.base, IsLine base) (hkeywords : ∀ p ∈ c.keywords, IsLine p.1) :
    IsLine c.header := by
  simp only [ClassLayout.header, isLine_append]
  refine ⟨⟨by decide, hname⟩, ?_⟩
  split
  · decide
  · rename_i base hc
    simp only [isLine_append]
    refine ⟨⟨⟨by decide, hbase base hc⟩, ?_⟩, by decide⟩
    split
    · decide
    · exact isLine_append.mpr ⟨by decide, isLine_flagText hkeywords⟩

theorem isLine_listText {texts : List String} (h : ∀ s ∈ texts, IsLine s) :
    IsLine (listText texts) := by
  simp only [listText, isLine_append]
  exact ⟨⟨by decide, isLine_intercalate (by decide) h⟩, by decide⟩

/-- In the call that makes a named tuple the names of the fields are quoted. -/
theorem isLine_tupleText {fields : List String} {defaults : List Value} (hname : IsLine n)
    (hdefaults : ∀ v ∈ defaults, IsLine v.text) : IsLine (tupleText n fields defaults) := by
  have hquoted (s : String) : IsLine (Value.str s).text := Value.isLine_text nofun
  have hfields : IsLine (listText (fields.map fun f => (Value.str f).text)) :=
    isLine_listText (List.forall_mem_map.mpr fun f _ => hquoted f)
  have hlast : IsLine (if defaults.isEmpty then "" else
      ", defaults=" ++ listText (defaults.map Value.text)) := by
    split
    · decide
    · exact isLine_append.mpr
        ⟨by decide, isLine_listText (List.forall_mem_map.mpr hdefaults)⟩
  simp only [tupleText, isLine_append]
  exact ⟨⟨⟨⟨⟨⟨hname, by decide⟩, hquoted n⟩, by decide⟩, hfields⟩, hlast⟩, by decide⟩

theorem exists_tupleText_eq (name : String) (fields : List String) (defaults : List Value) :
    ∃ arguments, tupleText name fields defaults =
      name ++ " = collections.namedtuple(" ++ arguments ++ ")" := by
  refine ⟨(Value.str name).text ++ (", " ++ (listText (fields.map fun f => (Value.str f).text) ++
    if defaults.isEmpty then "" else ", defaults=" ++ listText (defaults.map Value.text))), ?_⟩
  simp only [tupleText, String.append_assoc]

/-! ### Files -/

namespace Document

theorem toList_ended (lines : List String) :
    (ended lines).toList = (lines.map String.toList).flatMap (· ++ ['\n']) := by
  rw [ended, String.toList_join, List.flatMap_map, List.flatMap_map]
  simp

/-- A finished file is cut into its lines at its line feeds. -/
theorem splitAt_ended {lines : List String} (h : ∀ line ∈ lines, IsLine line) :
    splitAt '\n' (ended lines).toList = (lines ++ [""]).map String.toList := by
  rw [toList_ended, splitAt_flatMap (List.forall_mem_map.mpr h), List.map_append]
  rfl

theorem return_notMem_ended {lines : List String} (h : ∀ line ∈ lines, IsLine line) :
    '\r' ∉ (ended lines).toList := by
  rw [toList_ended, List.mem_flatMap]
  rintro ⟨cs, hcs, hmem⟩
  obtain ⟨line, hline, rfl⟩ := List.mem_map.mp hcs
  rcases List.mem_append.mp hmem with hmem | hmem
  · exact IsOneLine.notMem (h line hline) rfl hmem
  · exact absurd hmem (by decide)

theorem requireAll_eq (d : Document) (modules : List String) :
    d.requireAll modules = { d with imports := modules.foldl NameSet.insert d.imports } := by
  induction modules generalizing d with
  | nil => rfl
  | cons module modules ih => exact ih (d.require module)

end Document

namespace ClassLayout

/-- The modules that the file of a class imports. -/
def imports (c : ClassLayout) : NameSet :=
  .ofList (c.home :: c.body.flatMap Entry.modules)

/-- The lines of the file of a class. -/
def lines (c : ClassLayout) : List String :=
  c.imports.names.map ("import " ++ ·) ++ ["", ""] ++
    Document.classLines (c.decorator.map decoratorText).toList c.header (c.body.map Entry.text)

theorem text_document_classForm (c : ClassLayout) :
    (Layout.classForm c).document.text = Document.ended c.lines := by
  -- the module of the framework is always imported
  have hne : c.imports.names ≠ [] :=
    List.ne_nil_of_mem (NameSet.mem_ofList.mpr List.mem_cons_self)
  have hempty : (c.imports.names.map ("import " ++ ·)).isEmpty = false := by
    simpa using hne
  rw [Layout.document, Document.requireAll_eq]
  change Document.ended ((if (c.imports.names.map ("import " ++ ·)).isEmpty then [] else
    c.imports.names.map ("import " ++ ·) ++ ["", ""]) ++ _) = _
  rw [hempty, if_neg Bool.false_ne_true]
  rfl

end ClassLayout

end Source

end RecordForms
