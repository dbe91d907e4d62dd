import RecordForms.Definition.Reading
import RecordForms.Definition.Source
import RecordForms.Proofs.Source.Lines

/-!
# The lines of a written definition

A default cannot break out of its line.  Texts and bytes in defaults and in literal types, the names
of fields in messages and the references that stand for types are written in literals, so whatever
they are, the file of a definition has the lines that its members ask for and no others.

## Main definitions

* `Definition.plainTexts`: what is written as it is, without quotes
* `Definition.modules`: the modules that a definition needs
* `Definition.BodyLines`, `Definition.FileLines`: the lines of the body of a class, and of a file
* `Member.LaidOut`, `Source.ClassLayout.Describes`: entries that declare a member on one line, and
  layouts that describe a definition

## Main results

* `Source.ClassLayout.Describes.fileLines`: the lines of a class
* `Definition.describes_attrs` and so on: the layout of every kind of class describes its members
* `Framework.write_lines`: the lines of the file that a framework gives for a definition
-/

namespace RecordForms

open RecordForms.Text RecordForms.Source

/-! ### What is written without quotes -/

/-- What is written as it is for the default of a slot. -/
def DefaultSlot.plainTexts : DefaultSlot → List String
  | token _ => []
  | value v => v.symbols
  | factory path => [path]

/-- What is written as it is for a member. -/
def Member.plainTexts (m : Member) : List String :=
  [m.name] ++ m.annotation.elim [] Annotation.plainTexts ++ m.default.plainTexts

/-- What is written as it is for a definition. -/
def Definition.plainTexts (d : Definition) : List String :=
  d.name :: d.members.flatMap Member.plainTexts

/-! ### The lines of a file -/

/-- The modules that a member needs; `untyped` are those of a member without an annotation. -/
def Member.modules (untyped : List String) (m : Member) : List String :=
  m.annotation.elim untyped annotationModules

/-- A line that declares a member in the body of a class, by its name and a type or by its name and
a value. -/
def Member.DeclaredOn (m : Member) (line : String) : Prop :=
  ∃ rest, line = "    " ++ (m.name ++ ": " ++ rest) ∨ line = "    " ++ (m.name ++ " = " ++ rest)

namespace Definition

/-- Whether this is a named tuple that has fields, but no annotations. -/
def isBareTuple : Definition → Bool
  | namedTuple c => c.annotations.isEmpty && !c.fields.isEmpty
  | _ => false

/-- The module of the framework that a class is written for. -/
def home : Definition → String
  | attrs _ => "attrs"
  | dataclass _ => "dataclasses"
  | struct _ => "msgspec"
  | namedTuple _ | typedDict _ => "typing"
  | pydantic _ => "pydantic"

/-- The modules that a member without an annotation needs. -/
def untypedModules : Definition → List String
  | attrs _ => []
  | _ => ["typing"]

/-- The modules that a class needs. -/
def modules (d : Definition) : List String :=
  d.home :: d.members.flatMap (Member.modules d.untypedModules)

/-- The decorator of a class, if its framework uses one. -/
def decorator? : Definition → Option String
  | attrs _ => some "attrs.define"
  | dataclass _ => some "dataclasses.dataclass"
  | _ => none

/-- The base of a class, if its framework uses one. -/
def base? : Definition → Option String
  | attrs _ | dataclass _ => none
  | struct _ => some "msgspec.Struct"
  | namedTuple _ => some "typing.NamedTuple"
  | pydantic _ => some "pydantic.BaseModel"
  | typedDict _ => some "typing.TypedDict"

theorem isLine_home (d : Definition) : IsLine d.home := by
  unfold home
  split <;> decide

theorem isLine_decorator? (d : Definition) : ∀ callee ∈ d.decorator?, IsLine callee := by
  unfold decorator?
  split <;> decide

theorem isLine_base? (d : Definition) : ∀ base ∈ d.base?, IsLine base := by
  unfold base?
  split <;> decide

/-- The lines of the body of a class: one for each member, or `pass`. -/
inductive BodyLines : List Member → List String → Prop
  | pass : BodyLines [] ["    pass"]
  | members {ms : List Member} {body : List String} (hne : ms ≠ [])
      (h : List.Forall₂ Member.DeclaredOn ms body) : BodyLines ms body

/-- The lines of the file of a definition. -/
inductive FileLines (d : Definition) : List String → Prop
  /-- The imports in order, two empty lines, the decorator if there is one, the header of the class,
  and its body. -/
  | classForm {imports body : List String} {options keywords : String} (hd : d.isBareTuple = false)
      (hsorted : imports.Pairwise (· < ·)) (hmem : ∀ module, module ∈ imports ↔ module ∈ d.modules)
      (hbody : BodyLines d.members body) :
      FileLines d (imports.map ("import " ++ ·) ++ ["", ""] ++
        (d.decorator?.map fun callee => "@" ++ (callee ++ options)).toList ++
        ("class " ++ d.name ++ (d.base?.elim "" fun base => "(" ++ base ++ keywords ++ ")") ++ ":")
          :: body)
  /-- One line after the import. -/
  | tupleForm {arguments : String} (hd : d.isBareTuple) :
      FileLines d ["import collections", "", "",
        d.name ++ " = collections.namedtuple(" ++ arguments ++ ")"]

end Definition

/-! ### Members -/

theorem isLine_slotGiven {slot : DefaultSlot} (h : ∀ s ∈ slot.plainTexts, IsLine s) :
    ∀ g ∈ slotGiven slot, g.All fun a => IsLine a.text := by
  cases slot with
  | token t => nofun
  | value v =>
    rintro g ⟨⟩
    exact Value.isLine_text h
  | factory path =>
    rintro g ⟨⟩
    exact h path List.mem_cons_self

theorem isLine_slotWrapped {slot : DefaultSlot} (h : ∀ s ∈ slot.plainTexts, IsLine s) :
    ∀ a ∈ slotWrapped slot, IsLine a.text := by
  cases slot with
  | token t => nofun
  | value v =>
    rintro a ⟨⟩
    exact Value.isLine_text h
  | factory path =>
    rintro a ⟨⟩
    change IsLine ("attrs.Factory(" ++ path ++ ")")
    rw [isLine_append, isLine_append]
    exact ⟨⟨by decide, h path List.mem_cons_self⟩, by decide⟩

theorem isLine_flagIf {name : String} (h : IsLine name) (set b : Bool) :
    ∀ p ∈ flagIf set name b, IsLine p.1 := by
  cases set with
  | true => exact List.forall_mem_singleton.mpr h
  | false => nofun

theorem isLine_parameterFlags (kwOnly init : Bool) :
    ∀ x ∈ parameterFlags kwOnly init, IsLine x.1 ∧ IsLine x.2.text := by
  refine List.forall_mem_map.mpr fun p hp => ⟨?_, Value.isLine_text nofun⟩
  rcases List.mem_append.mp hp with hp | hp
  · exact isLine_flagIf (by decide) kwOnly true p hp
  · exact isLine_flagIf (by decide) (!init) false p hp

/-- A line of a layout that declares a member and stands on one line. -/
structure Member.LaidOut (untyped : List String) (m : Member) (e : Entry) : Prop where
  name : e.name = m.name
  isLine : IsLine e.text
  modules : e.modules = m.modules untyped
  isLine_modules : ∀ module ∈ e.modules, IsLine module

namespace Member

variable {m : Member} {untyped : List String} {specifier : String}

/-- What is written as it is for a member, part by part. -/
theorem isLine_parts (h : ∀ s ∈ m.plainTexts, IsLine s) :
    IsLine m.name ∧ (∀ a ∈ m.annotation, ∀ s ∈ a.plainTexts, IsLine s) ∧
      ∀ s ∈ m.default.plainTexts, IsLine s := by
  obtain ⟨hdeclared, hdefault⟩ := List.forall_mem_append.mp h
  obtain ⟨hname, htypes⟩ := List.forall_mem_append.mp hdeclared
  refine ⟨List.forall_mem_singleton.mp hname, fun a ha => ?_, hdefault⟩
  rwa [Option.mem_def.mp ha] at htypes

/-- A member that is declared with a type, or with `typing.Any` if it has no annotation. -/
theorem laidOut_annotated {type : FieldType} {init : Option (Initializer Argument)}
    (h : ∀ s ∈ m.plainTexts, IsLine s) (htype : type.annotation? = m.annotation)
    (huntyped : m.annotation = none → untyped = ["typing"])
    (hinit : ∀ i ∈ init, i.All fun a => IsLine a.text) :
    m.LaidOut untyped (.annotated m.name type init) := by
  obtain ⟨hname, htypes, -⟩ := isLine_parts h
  have hmodules : type.modules = m.modules untyped := by
    rw [FieldType.modules_eq, htype, Member.modules]
    cases hm : m.annotation with
    | none => exact (huntyped hm).symm
    | some a => rfl
  refine ⟨rfl, Entry.isLine_annotated hname ?_ hinit, hmodules, ?_⟩
  · -- the type is written with the annotation of the member, if it has one
    rw [← htype] at htypes
    exact FieldType.isLine_text fun a ha => isLine_annotationText (htypes a ha)
  · change ∀ module ∈ type.modules, IsLine module
    rw [hmodules, Member.modules]
    cases hm : m.annotation with
    | none =>
      rw [huntyped hm]
      decide
    | some a => exact fun module => isLine_of_mem_annotationModules (htypes a hm)

/-- A member whose default stands right of its type. -/
theorem laidOut_initializer {type : FieldType} {args : List (String × Argument)}
    (h : ∀ s ∈ m.plainTexts, IsLine s) (htype : type.annotation? = m.annotation)
    (huntyped : m.annotation = none → untyped = ["typing"]) (hspecifier : IsLine specifier)
    (hargs : ∀ x ∈ args, IsLine x.1 ∧ IsLine x.2.text) :
    m.LaidOut untyped
      (.annotated m.name type (initializer specifier args (slotGiven m.default))) := by
  refine laidOut_annotated h htype huntyped (all_initializer hspecifier hargs ?_)
  exact isLine_slotGiven (isLine_parts h).2.2

end Member

/-! ### Classes -/

namespace Source.ClassLayout

/-- A layout of a class that describes a definition: the lines of its body declare the members, and
what else is written stands on one line. -/
structure Describes (c : ClassLayout) (d : Definition) : Prop where
  name : c.name = d.name
  home : c.home = d.home
  decorator : c.decorator.map Prod.fst = d.decorator?
  flags : ∀ p ∈ c.decorator, ∀ flag ∈ p.2, IsLine flag.1
  base : c.base = d.base?
  keywords : ∀ flag ∈ c.keywords, IsLine flag.1
  body : List.Forall₂ (Member.LaidOut d.untypedModules) d.members c.body

variable {c : ClassLayout} {d : Definition} {untyped : List String} {ms : List Member}
  {es : List Entry}

theorem flatMap_modules (h : List.Forall₂ (Member.LaidOut untyped) ms es) :
    es.flatMap Entry.modules = ms.flatMap (Member.modules untyped) := by
  induction h with
  | nil => rfl
  | cons hm _ ih => rw [List.flatMap_cons, List.flatMap_cons, hm.modules, ih]

theorem declaredOn_of_laidOut {m : Member} {e : Entry} (h : m.LaidOut untyped e) :
    m.DeclaredOn (Document.indented e.text) := by
  obtain ⟨rest, hrest⟩ := e.exists_text_eq
  rw [h.name] at hrest
  refine ⟨rest, hrest.imp ?_ ?_⟩
  · rintro htext
    rw [htext, Document.indented]
  · rintro htext
    rw [htext, Document.indented]

theorem bodyLines (h : List.Forall₂ (Member.LaidOut untyped) ms es) :
    Definition.BodyLines ms ((if (es.map Entry.text).isEmpty then ["pass"]
      else es.map Entry.text).map Document.indented) := by
  cases h with
  | nil => exact .pass
  | cons hm hms =>
    refine .members (List.cons_ne_nil _ _) ?_
    rw [List.map_cons, List.isEmpty_cons, if_neg Bool.false_ne_true, ← List.map_cons, List.map_map,
      List.forall₂_map_right_iff]
    exact (List.Forall₂.cons hm hms).imp fun m e => declaredOn_of_laidOut

theorem isLine_body (h : List.Forall₂ (Member.LaidOut untyped) ms es) :
    ∀ e ∈ es, IsLine e.text ∧ ∀ module ∈ e.modules, IsLine module := by
  induction h with
  | nil => nofun
  | cons hm _ ih => exact List.forall_mem_cons.mpr ⟨⟨hm.isLine, hm.isLine_modules⟩, ih⟩

namespace Describes

theorem isLine_imports (h : c.Describes d) : ∀ module ∈ c.imports.names, IsLine module := by
  intro module hmodule
  rw [imports, NameSet.mem_ofList, List.mem_cons, List.mem_flatMap] at hmodule
  rcases hmodule with rfl | ⟨e, he, hmodule⟩
  · rw [h.home]
    exact d.isLine_home
  · exact (isLine_body h.body e he).2 module hmodule

theorem isLine_header (h : c.Describes d) (hname : IsLine d.name) : IsLine c.header :=
  ClassLayout.isLine_header (h.name ▸ hname) (h.base ▸ d.isLine_base?) h.keywords

theorem isLine_lines (h : c.Describes d) (hname : IsLine d.name) :
    ∀ line ∈ c.lines, IsLine line := by
  have himports : ∀ line ∈ c.imports.names.map ("import " ++ ·), IsLine line :=
    List.forall_mem_map.mpr fun module hmodule =>
      isLine_append.mpr ⟨by decide, h.isLine_imports module hmodule⟩
  have hdecorator :
      ∀ line ∈ (c.decorator.map decoratorText).toList.map ("@" ++ ·), IsLine line := by
    refine List.forall_mem_map.mpr fun text htext => isLine_append.mpr ⟨by decide, ?_⟩
    obtain ⟨p, hp, rfl⟩ := Option.map_eq_some_iff.mp (Option.mem_toList.mp htext)
    have hcallee : p.1 ∈ d.decorator? := h.decorator ▸ Option.map_eq_some_iff.mpr ⟨p, hp, rfl⟩
    exact isLine_decoratorText (d.isLine_decorator? _ hcallee) (h.flags p hp)
  have hheader : IsLine (c.header ++ ":") :=
    isLine_append.mpr ⟨h.isLine_header hname, by decide⟩
  have hbody : ∀ line ∈ (if (c.body.map Entry.text).isEmpty then ["pass"]
      else c.body.map Entry.text).map Document.indented, IsLine line := by
    refine List.forall_mem_map.mpr fun text htext => isLine_append.mpr ⟨by decide, ?_⟩
    split at htext
    · obtain rfl := List.mem_singleton.mp htext
      decide
    · obtain ⟨e, he, rfl⟩ := List.mem_map.mp htext
      exact (isLine_body h.body e he).1
  simp only [lines, Document.classLines, List.forall_mem_append, List.forall_mem_singleton]
  exact ⟨⟨himports, by decide⟩, ⟨hdecorator, hheader⟩, hbody⟩

/-- The lines of a class are those that its definition asks for. -/
theorem fileLines (h : c.Describes d) (hd : d.isBareTuple = false) : d.FileLines c.lines := by
  -- the decorator and the header begin alike, whatever arguments they have
  obtain ⟨options, hdecorator⟩ : ∃ options, (c.decorator.map decoratorText).toList.map ("@" ++ ·) =
      (d.decorator?.map fun callee => "@" ++ (callee ++ options)).toList := by
    rw [← h.decorator]
    cases c.decorator with
    | none => exact ⟨"", rfl⟩
    | some p =>
      obtain ⟨options, hoptions⟩ := exists_decoratorText_eq p
      refine ⟨options, ?_⟩
      simp only [Option.map_some, Option.toList_some, List.map_cons, List.map_nil, hoptions]
  obtain ⟨keywords, hheader⟩ : ∃ keywords, c.header = "class " ++ d.name ++
      d.base?.elim "" fun base => "(" ++ base ++ keywords ++ ")" := by
    rw [ClassLayout.header, h.name, ← h.base]
    cases c.base with
    | none => exact ⟨"", rfl⟩
    | some base => exact ⟨_, rfl⟩
  have hlines : c.lines = c.imports.names.map ("import " ++ ·) ++ ["", ""] ++
      (d.decorator?.map fun callee => "@" ++ (callee ++ options)).toList ++
        ("class " ++ d.name ++ (d.base?.elim "" fun base => "(" ++ base ++ keywords ++ ")") ++ ":")
          :: ((if (c.body.map Entry.text).isEmpty then ["pass"]
            else c.body.map Entry.text).map Document.indented) := by
    rw [lines, Document.classLines, hdecorator, hheader]
    simp only [List.append_assoc, List.singleton_append]
  rw [hlines]
  refine .classForm hd c.imports.ascending (fun module => ?_) (bodyLines h.body)
  rw [imports, NameSet.mem_ofList, h.home, flatMap_modules h.body, Definition.modules]

end Describes

end Source.ClassLayout

/-! ### The layout of every kind of class -/

namespace Definition

theorem isLine_members {d : Definition} (h : ∀ s ∈ d.plainTexts, IsLine s) :
    ∀ m ∈ d.members, ∀ s ∈ m.plainTexts, IsLine s :=
  List.forall_mem_flatMap.mp (List.forall_mem_cons.mp h).2

/-- Members and entries that are made from the same things, one by one. -/
theorem forall₂_laidOut {α : Type} {untyped : List String} {as : List α} {member : α → Member}
    {entry : α → Entry} (h : ∀ m ∈ as.map member, ∀ s ∈ m.plainTexts, IsLine s)
    (hdeclared : ∀ a ∈ as, (∀ s ∈ (member a).plainTexts, IsLine s) →
      (member a).LaidOut untyped (entry a)) :
    List.Forall₂ (Member.LaidOut untyped) (as.map member) (as.map entry) := by
  rw [List.forall₂_map_left_iff, List.forall₂_map_right_iff, List.forall₂_same]
  exact fun a ha => hdeclared a ha (List.forall_mem_map.mp h a ha)

section Attributes

variable {a : AttrsAttribute} {fault : Option MemberFault}

/-- Of the arguments that describe an attribute, only the type needs modules. -/
theorem modules_assignedEntry : a.assignedEntry.modules = a.type.elim [] annotationModules := by
  have hflags : (parameterFlags a.kwOnly a.init).flatMap (fun x => x.2.modules) = [] := by
    cases a.kwOnly <;> cases a.init <;> rfl
  have hvalue : ((slotWrapped a.default).map fun d => ("default", d)).toList.flatMap
      (fun x => x.2.modules) = [] := by
    cases a.default <;> rfl
  change List.flatMap (fun x : String × Argument => x.2.modules) (_ ++ _ ++ _) = _
  rw [List.flatMap_append, List.flatMap_append, hflags, hvalue, List.append_nil, List.append_nil]
  cases a.type with
  | none => rfl
  | some t => exact List.append_nil _

/-- In an attrs class without annotations the type of an attribute is an argument. -/
theorem laidOut_assignedEntry
    (h : ∀ s ∈ (Member.mk a.name fault a.type a.default).plainTexts, IsLine s) :
    (Member.mk a.name fault a.type a.default).LaidOut [] a.assignedEntry := by
  obtain ⟨hname, htypes, hdefault⟩ := Member.isLine_parts h
  have htype : ∀ x ∈ (a.type.map fun t => ("type", Argument.type t)).toList,
      IsLine x.1 ∧ IsLine x.2.text := by
    have hkey : IsLine "type" := by decide
    intro x hx
    obtain ⟨t, ht, rfl⟩ := Option.map_eq_some_iff.mp (Option.mem_toList.mp hx)
    exact ⟨hkey, isLine_annotationText (htypes t ht)⟩
  have hvalue : ∀ x ∈ ((slotWrapped a.default).map fun d => ("default", d)).toList,
      IsLine x.1 ∧ IsLine x.2.text := by
    have hkey : IsLine "default" := by decide
    intro x hx
    obtain ⟨d, hd, rfl⟩ := Option.map_eq_some_iff.mp (Option.mem_toList.mp hx)
    exact ⟨hkey, isLine_slotWrapped hdefault d hd⟩
  refine ⟨rfl, Entry.isLine_assigned hname ⟨by decide, ?_⟩, modules_assignedEntry, ?_⟩
  · simp only [List.forall_mem_append]
    exact ⟨⟨htype, isLine_parameterFlags a.kwOnly a.init⟩, hvalue⟩
  · rw [modules_assignedEntry]
    cases ht : a.type with
    | none => nofun
    | some t => exact fun module => isLine_of_mem_annotationModules (htypes t ht)

theorem laidOut_annotatedEntry (ha : a.type ≠ none)
    (h : ∀ s ∈ (Member.mk a.name fault a.type a.default).plainTexts, IsLine s) :
    (Member.mk a.name fault a.type a.default).LaidOut [] a.annotatedEntry := by
  refine Member.laidOut_annotated h ?_ (fun hnone => absurd hnone ha)
    (all_initializer (by decide) (isLine_parameterFlags a.kwOnly a.init) ?_)
  · cases a.type <;> rfl
  · intro g hg
    obtain ⟨d, hd, rfl⟩ := Option.map_eq_some_iff.mp hg
    exact isLine_slotWrapped (Member.isLine_parts h).2.2 d hd

end Attributes

theorem describes_attrs {c : AttrsClass} (h : ∀ s ∈ (attrs c).plainTexts, IsLine s) :
    c.layout.Describes (attrs c) where
  name := rfl
  home := rfl
  decorator := rfl
  flags := by
    rintro p ⟨⟩
    exact List.forall_mem_append.mpr
      ⟨isLine_flagIf (by decide) c.kwOnly true, isLine_flagIf (by decide) _ false⟩
  base := rfl
  keywords := nofun
  body := by
    change List.Forall₂ _ (c.attributes.map _) (c.attributes.map
      (if c.attributes.any (fun a => a.type.isNone) then AttrsAttribute.assignedEntry
        else AttrsAttribute.annotatedEntry))
    -- one attribute without a type is enough to write all of them without annotations
    cases hexplicit : c.attributes.any fun a => a.type.isNone with
    | true => exact forall₂_laidOut (isLine_members h) fun a _ => laidOut_assignedEntry
    | false =>
      refine forall₂_laidOut (isLine_members h) fun a ha => laidOut_annotatedEntry ?_
      have hsome := List.any_eq_false.mp hexplicit a ha
      rwa [Option.isNone_iff_eq_none] at hsome

theorem describes_dataclass {c : Dataclass} (h : ∀ s ∈ (dataclass c).plainTexts, IsLine s) :
    c.layout.Describes (dataclass c) where
  name := rfl
  home := rfl
  decorator := rfl
  flags := by
    rintro p ⟨⟩
    exact isLine_flagIf (by decide) c.kwOnly true
  base := rfl
  keywords := nofun
  body := forall₂_laidOut (isLine_members h) fun f _ hmember =>
    Member.laidOut_initializer hmember rfl nofun (by decide)
      (isLine_parameterFlags f.kwOnly f.init)

theorem describes_struct {c : StructClass} (h : ∀ s ∈ (struct c).plainTexts, IsLine s) :
    c.layout.Describes (struct c) where
  name := rfl
  home := rfl
  decorator := rfl
  flags := nofun
  base := rfl
  keywords := isLine_flagIf (by decide) c.kwOnly true
  body := by
    refine forall₂_laidOut (isLine_members h) fun f _ hmember => ?_
    refine Member.laidOut_initializer hmember rfl nofun (by decide) ?_
    -- the name in messages is quoted
    split
    · nofun
    · refine List.forall_mem_singleton.mpr ⟨?_, Value.isLine_text nofun⟩
      change IsLine "name"
      decide

theorem describes_namedTuple {c : NamedTuple} (h : ∀ s ∈ (namedTuple c).plainTexts, IsLine s)
    (hd : (namedTuple c).isBareTuple = false) :
    ∃ layout, (namedTuple c).layout = .classForm layout ∧ layout.Describes (namedTuple c) := by
  -- with an annotation, or without fields, it is a class
  have hlayout : (namedTuple c).layout = .classForm _ := if_neg (Bool.eq_false_iff.mp hd)
  refine ⟨_, hlayout, rfl, rfl, rfl, nofun, rfl, nofun, ?_⟩
  refine forall₂_laidOut (isLine_members h) fun name _ hmember => ?_
  refine Member.laidOut_annotated hmember ?_ (fun _ => rfl) ?_
  · cases c.annotations.get? name <;> rfl
  · intro init hinit
    obtain ⟨v, hv, rfl⟩ := Option.map_eq_some_iff.mp hinit
    have hdefault := (Member.isLine_parts hmember).2.2
    rw [hv] at hdefault
    exact Value.isLine_text hdefault

theorem describes_pydantic {c : PydanticModel} (h : ∀ s ∈ (pydantic c).plainTexts, IsLine s) :
    c.layout.Describes (pydantic c) where
  name := rfl
  home := rfl
  decorator := rfl
  flags := nofun
  base := rfl
  keywords := nofun
  body := by
    refine forall₂_laidOut (isLine_members h) fun ⟨name, annotation, default⟩ _ hmember => ?_
    refine Member.laidOut_initializer hmember ?_ (fun _ => rfl) (by decide) nofun
    cases annotation <;> rfl

theorem describes_typedDict {c : TypedDict} (h : ∀ s ∈ (typedDict c).plainTexts, IsLine s) :
    c.layout.Describes (typedDict c) where
  name := rfl
  home := rfl
  decorator := rfl
  flags := nofun
  base := rfl
  keywords := nofun
  body := by
    refine forall₂_laidOut (isLine_members h) fun p _ hmember => ?_
    refine Member.laidOut_annotated hmember ?_ nofun nofun
    split <;> rfl

/-! ### Files -/

/-- A named tuple without annotations is written as a call on one line. -/
theorem fileLines_tupleForm {c : NamedTuple} (h : ∀ s ∈ (namedTuple c).plainTexts, IsLine s)
    (hd : (namedTuple c).isBareTuple) :
    ∃ line, (namedTuple c).source = Document.ended ["import collections", "", "", line] ∧
      IsLine line ∧ (namedTuple c).FileLines ["import collections", "", "", line] := by
  have hname : IsLine c.name := h _ List.mem_cons_self
  have hdefaults : ∀ v ∈ c.fields.filterMap c.defaults.get?, IsLine v.text := by
    intro v hv
    obtain ⟨name, hname, hget⟩ := List.mem_filterMap.mp hv
    have hmember := List.forall_mem_map.mp (isLine_members h) name hname
    have hdefault := (Member.isLine_parts hmember).2.2
    rw [hget] at hdefault
    exact Value.isLine_text hdefault
  have hlayout : (namedTuple c).layout =
      .tupleForm c.name c.fields (c.fields.filterMap c.defaults.get?) := if_pos hd
  refine ⟨tupleText c.name c.fields (c.fields.filterMap c.defaults.get?), ?_,
    isLine_tupleText hname hdefaults, ?_⟩
  · rw [source, hlayout]
    rfl
  · obtain ⟨arguments, htext⟩ :=
      exists_tupleText_eq c.name c.fields (c.fields.filterMap c.defaults.get?)
    rw [htext]
    exact .tupleForm hd

/-- What is written without quotes decides: if it stands on lines, a definition is written as the
lines that it asks for. -/
theorem exists_fileLines {d : Definition} (h : ∀ s ∈ d.plainTexts, IsLine s) :
    ∃ lines, d.source = Document.ended lines ∧ (∀ line ∈ lines, IsLine line) ∧
      d.FileLines lines := by
  have hname : IsLine d.name := h _ List.mem_cons_self
  -- only one of the two forms of a named tuple is no class
  have hclass {c : ClassLayout} (hlayout : d.layout = .classForm c) (hc : c.Describes d)
      (hd : d.isBareTuple = false) : ∃ lines, d.source = Document.ended lines ∧
        (∀ line ∈ lines, IsLine line) ∧ d.FileLines lines := by
    refine ⟨c.lines, ?_, hc.isLine_lines hname, hc.fileLines hd⟩
    rw [source, hlayout, ClassLayout.text_document_classForm]
  cases d with
  | attrs c => exact hclass rfl (describes_attrs h) rfl
  | dataclass c => exact hclass rfl (describes_dataclass h) rfl
  | struct c => exact hclass rfl (describes_struct h) rfl
  | namedTuple c =>
    cases hd : (namedTuple c).isBareTuple with
    | true =>
      obtain ⟨line, hsource, hline, hlines⟩ := fileLines_tupleForm h hd
      refine ⟨_, hsource, ?_, hlines⟩
      have hfirst : ∀ line ∈ ["import collections", "", ""], IsLine line := by decide
      exact List.forall_mem_append.mpr ⟨hfirst, List.forall_mem_singleton.mpr hline⟩
    | false =>
      obtain ⟨c', hlayout, hc'⟩ := describes_namedTuple h hd
      exact hclass hlayout hc' hd
  | pydantic c => exact hclass rfl (describes_pydantic h) rfl
  | typedDict c => exact hclass rfl (describes_typedDict h) rfl

end Definition

/-- **A default cannot break out of its line.**  Whatever texts and bytes a definition holds in its
defaults and its literal types, as names in messages and as references: if its names, and the names
of types, factories and objects in it, stand on one line each, its file holds no carriage return,
and its line feeds cut it into the lines that the definition asks for. -/
theorem Framework.write_lines {f : Framework} {d : Definition} (hf : f.canWrite d)
    (h : ∀ s ∈ d.plainTexts, IsLine s) :
    '\r' ∉ (f.write d).toList ∧
      ∃ lines, splitAt '\n' (f.write d).toList = (lines ++ [""]).map String.toList ∧
        d.FileLines lines := by
  obtain ⟨lines, hsource, hlines, hfile⟩ := Definition.exists_fileLines h
  rw [Framework.write, if_pos hf, hsource]
  exact ⟨Document.return_notMem_ended hlines, lines, Document.splitAt_ended hlines, hfile⟩

/-- A struct with line breaks in the name of its field in messages, in a reference that stands for
its type, and in its default. -/
def rowStruct : Definition :=
  .struct
    { name := "Row"
      scope := .ofName "m"
      fields := [⟨"id", "i\r\nd", .forward "a\nb", .value (.tuple [.str "\r", .symbol "E.x"])⟩]
      kwOnly := false }

theorem Framework.write_lines_row : msgspec.canWrite rowStruct ∧
    (∀ s ∈ rowStruct.plainTexts, IsLine s) ∧
    msgspec.write rowStruct = "import msgspec\n\n\nclass Row(msgspec.Struct):\n    " ++
      "id: 'a\\nb' = msgspec.field(name='i\\r\\nd', default=('\\r', E.x))\n" ∧
    '\r' ∉ (msgspec.write rowStruct).toList ∧
    ∃ lines, splitAt '\n' (msgspec.write rowStruct).toList = (lines ++ [""]).map String.toList ∧
      rowStruct.FileLines lines := by
  have hf : msgspec.canWrite rowStruct := by decide
  have h : ∀ s ∈ rowStruct.plainTexts, IsLine s := by decide
  exact ⟨hf, h, by decide +kernel, write_lines hf h⟩

end RecordForms
