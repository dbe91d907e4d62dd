import RecordForms.Proofs.Scan.Fields

/-!
# The declarations of a record

A record in a source file declares its fields: in the body of a class by annotations and, in an
attrs class, by calls that are assigned to a name; in a call that makes a dataclass by the entries
of a list.  Whatever the form, every field of a scanned record is read from one declaration, and
every declaration gives one field.

## Main definitions

* `Scan.Declaration`: what is written for a field, and how it is read (`Declaration.read`)
* `Scan.memberDeclarations`, `Scan.entryDeclarations`, `Scan.declarations`: the declarations in the
  body of a class, in a list of entries and in a statement

## Main results

* `Scan.readMarked_eq_ok`, `Scan.readMade_eq_ok`: what is read from a class and from a call
* `Scan.readRecord_eq_ok`: the fields of a record are read from its declarations, one from each
* `Scan.exists_of_mem_readRecords`: every record of a source file is read from one of its statements
-/

namespace RecordForms.Scan

/-- What is written for a field: a target, and what may stand for its type and for its default. -/
structure Declaration where
  target : Expr
  annotation : Option Expr
  value : Option Expr
  span : Span

namespace Declaration

/-- Whether a field is declared; some annotations declare an attribute of the class instead. -/
def isField (d : Declaration) : Bool :=
  !(d.annotation.bind Expr.headName?).any Marker.isNonField

/-- The field that is declared, if it is one. -/
def read (p : Place) (d : Declaration) : Except ScanError (Option Field) :=
  p.readField d.target d.annotation d.value d.span

/-- The declaration, if it declares a field. -/
def field? (d : Declaration) : Option Declaration :=
  if d.isField then some d else none

end Declaration

/-- What a statement in the body of a class of `f` declares. -/
def memberDeclaration? (f : Framework) : Stmt → Option Declaration
  | .annAssign target annotation value span => some ⟨target, some annotation, value, span⟩
  | .assign [.name id] (.call func args keywords) span =>
    -- in an attrs class, a call that describes a field
    if f = .attrs && func.dottedName?.any (Marker.isSpecifier f) then
      some ⟨.name id, (keywords.find? fun k => k.arg == some "type").map Keyword.value,
        some (.call func args keywords), span⟩
    else none
  | _ => none

/-- The fields that the body of a class of `f` declares. -/
def memberDeclarations (f : Framework) (body : List Stmt) : List Declaration :=
  body.filterMap fun s => (memberDeclaration? f s).bind Declaration.field?

/-- What an entry of a list of fields declares.  A name alone has any type. -/
def entryDeclaration? (span : Span) : Expr → Option Declaration
  | .constant (.str name) => some ⟨.name name, some (.dotted "typing.Any"), none, span⟩
  | .tuple [.constant (.str name), type] => some ⟨.name name, some type, none, span⟩
  | .tuple [.constant (.str name), type, value] => some ⟨.name name, some type, some value, span⟩
  | _ => none

/-- The fields that a list of entries declares. -/
def entryDeclarations (span : Span) (entries : List Expr) : List Declaration :=
  entries.filterMap fun e => (entryDeclaration? span e).bind Declaration.field?

/-- The fields that a statement declares if it is a record of `f`. -/
def declarations (f : Framework) : Stmt → List Declaration
  | .classDef c => memberDeclarations f c.body
  | .assign _ (.call _ args _) span =>
    ((functionalParts? args).map fun parts => entryDeclarations span parts.2).getD []
  | _ => []

/-- Whether the field is what the declaration is read as. -/
def Declares (p : Place) (d : Declaration) (field : Field) : Prop :=
  d.read p = .ok (some field)

variable {p : Place} {span : Span} {scope : Namespace}

/-! ### The parts of a field -/

namespace Place

variable {name : String} {declared value : Option Expr}

/-- In a typed dict no field has a value; the annotation may lose its qualifier. -/
theorem unqualified_eq_ok {plain : Option Expr}
    (h : p.unqualified name declared value span = .ok plain) :
    value = none ∧ plain.isSome = declared.isSome := by
  simp only [unqualified] at h
  split at h
  · cases h
  · split at h
    · cases h
    · split at h
      · obtain rfl := Except.ok.inj h
        exact ⟨rfl, by split <;> rfl⟩
      · obtain rfl := Except.ok.inj h
        exact ⟨rfl, rfl⟩

theorem readAnnotation_eq_ok {type : Option TypeExpr}
    (h : p.readAnnotation name span declared = .ok type) : type.isSome = declared.isSome := by
  cases declared with
  | none =>
    obtain rfl := Except.ok.inj h
    rfl
  | some e =>
    obtain ⟨t, -, rfl⟩ := Except.map_eq_ok_iff.mp h
    rfl

/-- What an argument gives that is read: it has a name, and by the name it gives the default, a
factory or nothing. -/
theorem argumentSlot?_eq_ok {k : Keyword Expr} {given : Option DefaultSlot}
    (h : p.argumentSlot? span k = .ok given) : ∃ arg, k.arg = some arg ∧
      ((arg = "default" ∧ ∃ slot, p.defaultArgument span k.value = .ok slot ∧ given = some slot) ∨
        ((arg = "default_factory" ∨ arg = "factory" ∧ p.framework = .attrs) ∧
          ∃ slot, factorySlot span k.value = .ok slot ∧ given = some slot) ∨
        (arg ≠ "default" ∧ arg ≠ "default_factory" ∧ ¬ (arg = "factory" ∧ p.framework = .attrs) ∧
          given = none)) := by
  rw [argumentSlot?] at h
  split at h
  · cases h
  · rename_i arg harg
    refine ⟨arg, harg, ?_⟩
    simp only [Bool.or_eq_true, Bool.and_eq_true, decide_eq_true_eq] at h
    split at h
    · rename_i hdefault
      obtain ⟨slot, hread, rfl⟩ := Except.map_eq_ok_iff.mp h
      exact .inl ⟨hdefault, slot, hread, rfl⟩
    · rename_i hdefault
      split at h
      · rename_i hfactory
        obtain ⟨slot, hread, rfl⟩ := Except.map_eq_ok_iff.mp h
        exact .inr (.inl ⟨hfactory, slot, hread, rfl⟩)
      · rename_i hfactory
        obtain ⟨hnamed, hshort⟩ := not_or.mp hfactory
        obtain rfl := Except.ok.inj h
        exact .inr (.inr ⟨hdefault, hnamed, hshort, rfl⟩)

/-- The steps in which a field is read; only a typed dict looks at qualifiers. -/
theorem readNamed_eq : p.readNamed name declared value span =
    ((if p.framework = .typedDict then p.unqualified name declared value span
      else .ok declared) >>= fun plain =>
        if value.any p.isWithoutInit then
          .error (.record (.unsupportedMember p.record name .fieldWithoutInit))
        else do
          let type ← p.readAnnotation name span plain
          let slot ← p.readValue span value
          match p.framework.readDefault p.record name slot with
          | .ok default => .ok ⟨name, type, default⟩
          | .error e => .error (.record e)) := by
  by_cases hf : p.framework = .typedDict
  · rw [if_pos hf]
    exact if_pos hf
  · rw [if_neg hf]
    exact if_neg hf

/-- A field has a type just if it has an annotation, and its default is what its slot means. -/
theorem readNamed_eq_ok {field : Field} (h : p.readNamed name declared value span = .ok field) :
    field.name = name ∧ field.type.isSome = declared.isSome ∧
      (p.framework = .typedDict → value = none) ∧
      ∃ slot, p.readValue span value = .ok slot ∧
        p.framework.readDefault p.record name slot = .ok field.default := by
  rw [readNamed_eq] at h
  obtain ⟨plain, hplain, h⟩ := Except.bind_eq_ok_iff.mp h
  have hqualified : (p.framework = .typedDict → value = none) ∧
      plain.isSome = declared.isSome := by
    split at hplain
    · obtain ⟨hvalue, hsome⟩ := unqualified_eq_ok hplain
      exact ⟨fun _ => hvalue, hsome⟩
    · rename_i hf
      obtain rfl := Except.ok.inj hplain
      exact ⟨fun h => absurd h hf, rfl⟩
  split at h
  · cases h
  · obtain ⟨type, htype, h⟩ := Except.bind_eq_ok_iff.mp h
    obtain ⟨slot, hslot, h⟩ := Except.bind_eq_ok_iff.mp h
    cases hdefault : p.framework.readDefault p.record name slot with
    | error e =>
      rw [hdefault] at h
      cases h
    | ok default =>
      rw [hdefault] at h
      obtain rfl := Except.ok.inj h
      exact ⟨rfl, (readAnnotation_eq_ok htype).trans hqualified.2, hqualified.1, slot, hslot,
        hdefault⟩

end Place

/-- What a field is read from: the target is its name, the annotation gives its type, and the value
gives the slot of its default. -/
theorem Declares.exists_slot {d : Declaration} {field : Field} (h : Declares p d field) :
    d.target = .name field.name ∧ field.type.isSome = d.annotation.isSome ∧
      (p.framework = .typedDict → d.value = none) ∧
      ∃ slot, p.readValue d.span d.value = .ok slot ∧
        p.framework.readDefault p.record field.name slot = .ok field.default := by
  obtain ⟨target, annotation, value, span⟩ := d
  cases target with
  | name name =>
    rw [Declares, Declaration.read, Place.readField] at h
    split at h
    · cases h
    · obtain ⟨field', hread, heq⟩ := Except.map_eq_ok_iff.mp h
      obtain rfl := Option.some.inj heq
      obtain ⟨rfl, hread⟩ := Place.readNamed_eq_ok hread
      exact ⟨rfl, hread⟩
  | _ => cases h

/-! ### One declaration -/

/-- A declaration is read as a field just if it declares one. -/
theorem Declaration.field?_of_read {d : Declaration} {field : Option Field}
    (h : d.read p = .ok field) : Option.Rel (Declares p) d.field? field := by
  have hread := h
  obtain ⟨target, annotation, value, span⟩ := d
  cases target with
  | name name =>
    rw [read, Place.readField] at h
    split at h
    · rename_i hhead
      obtain rfl := Except.ok.inj h
      rw [field?, isField, hhead]
      exact .none
    · rename_i hhead
      obtain ⟨f, -, rfl⟩ := Except.map_eq_ok_iff.mp h
      rw [field?, isField, Bool.eq_false_iff.mpr hhead]
      exact .some hread
  | _ => cases h

theorem field?_ofField? (field : Option Field) : (Member.ofField? field).field? = field := by
  cases field with
  | none => rfl
  | some f => rfl

/-- What an assignment in the body of a class is read as is what it declares. -/
theorem readAssignment_eq_ok {targets : List Expr} {value : Expr} {m : Member}
    (h : readAssignment p targets value span = .ok m) :
    Option.Rel (Declares p)
      ((memberDeclaration? p.framework (.assign targets value span)).bind Declaration.field?)
      m.field? := by
  have hconfig {id : String} (h : readAssignment.config p targets value span id = .ok m) :
      m.field? = none := by
    unfold readAssignment.config at h
    split at h
    · obtain rfl := Except.ok.inj h
      rfl
    · cases h
  unfold readAssignment at h
  split at h
  · -- a call is assigned to a name
    rename_i id func args keywords
    rw [Place.isSpecifier] at h
    split at h
    · rename_i hspecifier
      obtain ⟨field, hread, rfl⟩ := Except.map_eq_ok_iff.mp h
      rw [field?_ofField?, memberDeclaration?, if_pos hspecifier]
      exact Declaration.field?_of_read (d := ⟨_, _, _, _⟩) hread
    · rename_i hspecifier
      rw [hconfig h, memberDeclaration?, if_neg hspecifier]
      exact .none
  · rename_i id hcall
    rw [hconfig h]
    cases value with
    | call func args keywords => exact absurd rfl (hcall func args keywords)
    | _ => exact .none
  · cases h

/-- What a statement in the body of a class is read as is what it declares. -/
theorem readMember_eq_ok {s : Stmt} {m : Member} (h : readMember p s = .ok m) :
    Option.Rel (Declares p) ((memberDeclaration? p.framework s).bind Declaration.field?)
      m.field? := by
  unfold readMember at h
  split at h
  · obtain ⟨field, hread, rfl⟩ := Except.map_eq_ok_iff.mp h
    rw [field?_ofField?]
    exact Declaration.field?_of_read (d := ⟨_, _, _, _⟩) hread
  · exact readAssignment_eq_ok h
  -- the statements that contribute nothing
  · obtain rfl := Except.ok.inj h
    exact .none
  · obtain rfl := Except.ok.inj h
    exact .none
  · obtain rfl := Except.ok.inj h
    exact .none
  · obtain rfl := Except.ok.inj h
    exact .none
  · obtain rfl := Except.ok.inj h
    exact .none
  · cases h

/-- An entry that is a name alone is read as a field of any type. -/
theorem declares_bare (hf : p.framework = .dataclasses) (name : String) :
    Declares p ⟨.name name, some (.dotted "typing.Any"), none, span⟩
      ⟨name, some untyped, .absent⟩ := by
  have htype : p.readAnnotation name span (some (.dotted "typing.Any")) = .ok (some untyped) := by
    rw [Place.readAnnotation, Place.readType_of_dottedName? (Expr.dottedName?_dotted _)]
    rfl
  refine Place.readField_name ?_ ?_ rfl htype rfl (Framework.readDefault_absenceToken _ _ _)
  · rw [Option.bind_some, Expr.headName?_dotted]
    decide
  · intro htyped
    rw [hf] at htyped
    cases htyped

/-- What an entry of a list of fields is read as is what it declares. -/
theorem readEntry_eq_ok (hf : p.framework = .dataclasses) {e : Expr} {field : Option Field}
    (h : readEntry p span e = .ok field) :
    Option.Rel (Declares p) ((entryDeclaration? span e).bind Declaration.field?) field := by
  unfold readEntry at h
  split at h
  · rename_i name
    obtain rfl := Except.ok.inj h
    exact Declaration.field?_of_read (declares_bare hf name)
  · exact Declaration.field?_of_read (d := ⟨_, _, _, _⟩) h
  · exact Declaration.field?_of_read (d := ⟨_, _, _, _⟩) h
  · cases h
  · cases h

/-! ### The declarations of a class and of a list of entries -/

theorem forall₂_of_readMembers {body : List Stmt} {members : List Member}
    (h : readMembers p body = .ok members) :
    List.Forall₂ (fun s m => readMember p s = .ok m) body members := by
  induction body generalizing members with
  | nil =>
    obtain rfl := Except.ok.inj h
    exact .nil
  | cons s body ih =>
    obtain ⟨m, hm, h⟩ := Except.bind_eq_ok_iff.mp h
    obtain ⟨ms, hms, h⟩ := Except.bind_eq_ok_iff.mp h
    obtain rfl := Except.ok.inj h
    exact .cons hm (ih hms)

/-- The fields in the body of a class are read from its declarations, one from each. -/
theorem declares_of_readMembers {body : List Stmt} {members : List Member}
    (h : readMembers p body = .ok members) :
    List.Forall₂ (Declares p) (memberDeclarations p.framework body)
      (members.filterMap Member.field?) :=
  List.rel_filterMap (fun _ _ h => readMember_eq_ok h) (forall₂_of_readMembers h)

/-- The fields in a list of entries are read from its declarations, one from each. -/
theorem declares_of_readEntries (hf : p.framework = .dataclasses) {entries : List Expr}
    {fields : List Field} (h : readEntries p span entries = .ok fields) :
    List.Forall₂ (Declares p) (entryDeclarations span entries) fields := by
  induction entries generalizing fields with
  | nil =>
    obtain rfl := Except.ok.inj h
    exact .nil
  | cons e entries ih =>
    obtain ⟨field, hfield, h⟩ := Except.bind_eq_ok_iff.mp h
    obtain ⟨rest, hrest, h⟩ := Except.bind_eq_ok_iff.mp h
    obtain rfl := Except.ok.inj h
    have hrel := readEntry_eq_ok hf hfield
    rw [entryDeclarations, List.filterMap_cons]
    cases hd : (entryDeclaration? span e).bind Declaration.field? with
    | none =>
      rw [hd] at hrel
      cases hrel
      exact ih hrest
    | some d =>
      rw [hd] at hrel
      cases hrel with
      | some hdeclares => exact .cons hdeclares (ih hrest)

/-! ### The declarations of a record -/

theorem schemaOf_eq_ok {name : String} {fields : List Field} {s : Schema}
    (h : schemaOf name fields = .ok s) : s.name = name ∧ s.fields = fields := by
  unfold schemaOf at h
  cases hs : Schema.ofFields? name fields with
  | ok s' =>
    rw [hs] at h
    obtain rfl : s' = s := Except.ok.inj h
    exact Schema.ofFields?_eq_ok_iff.mp hs
  | error e =>
    rw [hs] at h
    cases h

/-- The steps in which a class with a marker of `f` is read: its bases, its arguments, its body. -/
theorem readMarked_eq_ok_iff {c : ClassDef} {f : Framework} {options : List ConfigOption}
    {r : ScannedRecord} : readMarked scope c f options = .ok r ↔
      ∃ arguments total members schema, checkBases c.span c.bases = .ok () ∧
        readOptions c.span c.keywords = .ok arguments ∧ readTotal f c = .ok total ∧
        readMembers ⟨f, c.name, scope, total⟩ c.body = .ok members ∧
        schemaOf c.name (members.filterMap Member.field?) = .ok schema ∧
        r = ⟨f, schema, options ++ arguments ++ members.filterMap Member.option?, c.span⟩ := by
  unfold readMarked
  constructor
  · intro h
    obtain ⟨_, hbases, h⟩ := Except.bind_eq_ok_iff.mp h
    obtain ⟨arguments, harguments, h⟩ := Except.bind_eq_ok_iff.mp h
    obtain ⟨total, htotal, h⟩ := Except.bind_eq_ok_iff.mp h
    obtain ⟨members, hmembers, h⟩ := Except.bind_eq_ok_iff.mp h
    obtain ⟨schema, hschema, h⟩ := Except.bind_eq_ok_iff.mp h
    exact ⟨arguments, total, members, schema, hbases, harguments, htotal, hmembers, hschema,
      (Except.ok.inj h).symm⟩
  · rintro ⟨arguments, total, members, schema, hbases, harguments, htotal, hmembers, hschema, rfl⟩
    simp only [hbases, harguments, htotal, hmembers, hschema, Except.ok_bind]

/-- What is read from a class with a marker of `f`: the record has the name and the place of the
class, and its fields are those that the class declares. -/
theorem readMarked_eq_ok {c : ClassDef} {f : Framework} {options : List ConfigOption}
    {r : ScannedRecord} (h : readMarked scope c f options = .ok r) :
    r.framework = f ∧ r.schema.name = c.name ∧ r.span = c.span ∧
      ∃ total, List.Forall₂ (Declares ⟨f, c.name, scope, total⟩) (memberDeclarations f c.body)
        r.schema.fields := by
  obtain ⟨arguments, total, members, schema, -, -, -, hmembers, hschema, rfl⟩ :=
    readMarked_eq_ok_iff.mp h
  obtain ⟨hname, hfields⟩ := schemaOf_eq_ok hschema
  refine ⟨rfl, hname, rfl, total, ?_⟩
  rw [hfields]
  exact declares_of_readMembers hmembers

/-- What is read from a call that makes a dataclass: the record has the name that the call gives,
and its fields are those of the entries. -/
theorem readMade_eq_ok {name : String} {entries : List Expr} {keywords : List (Keyword Expr)}
    {r : ScannedRecord} (h : readMade scope name entries keywords span = .ok r) :
    r.framework = .dataclasses ∧ r.schema.name = name ∧ r.span = span ∧
      List.Forall₂ (Declares ⟨.dataclasses, name, scope, true⟩) (entryDeclarations span entries)
        r.schema.fields := by
  unfold readMade at h
  obtain ⟨fields, hread, h⟩ := Except.bind_eq_ok_iff.mp h
  obtain ⟨schema, hschema, h⟩ := Except.bind_eq_ok_iff.mp h
  obtain ⟨options, -, h⟩ := Except.bind_eq_ok_iff.mp h
  obtain ⟨hname, hfields⟩ := schemaOf_eq_ok hschema
  obtain rfl := Except.ok.inj h
  refine ⟨rfl, hname, rfl, ?_⟩
  rw [hfields]
  exact declares_of_readEntries rfl hread

/-- A class that is a record has a marker, and is read accordingly. -/
theorem readClass_eq_ok {c : ClassDef} {r : ScannedRecord} (h : readClass scope c = .ok (some r)) :
    ∃ f options, readMarkers c = .ok (some f, options) ∧
      readMarked scope c f options = .ok r := by
  unfold readClass at h
  obtain ⟨⟨found, options⟩, hmarkers, h⟩ := Except.bind_eq_ok_iff.mp h
  cases found with
  | none => cases Except.ok.inj h
  | some f =>
    obtain ⟨r', hread, heq⟩ := Except.map_eq_ok_iff.mp h
    obtain rfl := Option.some.inj heq
    exact ⟨f, options, hmarkers, hread⟩

/-- An assignment that is a record has a call with a name and entries as its value. -/
theorem readFunctional_eq_ok {targets : List Expr} {value : Expr} {r : ScannedRecord}
    (h : readFunctional scope targets value span = .ok (some r)) :
    ∃ func args keywords name entries, value = .call func args keywords ∧
      functionalParts? args = some (name, entries) ∧
      readMade scope name entries keywords span = .ok r := by
  unfold readFunctional at h
  split at h
  · rename_i func args keywords
    split at h
    · split at h
      · split at h
        · rename_i name entries hparts
          obtain ⟨r', hread, heq⟩ := Except.map_eq_ok_iff.mp h
          obtain rfl := Option.some.inj heq
          exact ⟨func, args, keywords, name, entries, rfl, hparts, hread⟩
        · cases h
      · cases h
    · cases Except.ok.inj h
  · cases Except.ok.inj h

/-- **The fields of a record are read from its declarations**, one from each, in order. -/
theorem readRecord_eq_ok {s : Stmt} {r : ScannedRecord} (h : readRecord scope s = .ok (some r)) :
    ∃ p : Place, p.framework = r.framework ∧ p.record = r.schema.name ∧ p.scope = scope ∧
      List.Forall₂ (Declares p) (declarations r.framework s) r.schema.fields := by
  cases s with
  | classDef c =>
    obtain ⟨f, options, -, hread⟩ := readClass_eq_ok h
    obtain ⟨rfl, hname, -, total, hfields⟩ := readMarked_eq_ok hread
    exact ⟨⟨r.framework, c.name, scope, total⟩, rfl, hname.symm, rfl, hfields⟩
  | assign targets value span =>
    obtain ⟨func, args, keywords, name, entries, rfl, hparts, hread⟩ := readFunctional_eq_ok h
    obtain ⟨hf, hname, -, hfields⟩ := readMade_eq_ok hread
    refine ⟨⟨.dataclasses, name, scope, true⟩, hf.symm, hname.symm, rfl, ?_⟩
    rw [declarations, hparts]
    exact hfields
  | _ => cases Except.ok.inj h

theorem exists_of_mem_forall₂ {α β : Type} {R : α → β → Prop} {as : List α} {bs : List β}
    (h : List.Forall₂ R as bs) {b : β} (hb : b ∈ bs) : ∃ a ∈ as, R a b := by
  induction h with
  | nil => cases hb
  | @cons a b' as bs hab _ ih =>
    rcases List.mem_cons.mp hb with rfl | hb
    · exact ⟨a, List.mem_cons_self, hab⟩
    · obtain ⟨a', ha', hab'⟩ := ih hb
      exact ⟨a', List.mem_cons_of_mem a ha', hab'⟩

/-- Every field of a record has a declaration. -/
theorem exists_declares {s : Stmt} {r : ScannedRecord} (h : readRecord scope s = .ok (some r)) :
    ∃ p : Place, p.framework = r.framework ∧
      ∀ field ∈ r.schema.fields, ∃ d ∈ declarations r.framework s, Declares p d field := by
  obtain ⟨p, hp, -, -, hfields⟩ := readRecord_eq_ok h
  exact ⟨p, hp, fun _ hfield => exists_of_mem_forall₂ hfields hfield⟩

/-- Every record of a source file is read from one of its statements. -/
theorem exists_of_mem_readRecords {body : List Stmt} {rs : List ScannedRecord} {r : ScannedRecord}
    (h : readRecords scope body = .ok rs) (hr : r ∈ rs) :
    ∃ s ∈ body, readRecord scope s = .ok (some r) := by
  induction body generalizing rs with
  | nil =>
    obtain rfl := Except.ok.inj h
    cases hr
  | cons s body ih =>
    obtain ⟨found, hfound, h⟩ := Except.bind_eq_ok_iff.mp h
    obtain ⟨rest, hrest, h⟩ := Except.bind_eq_ok_iff.mp h
    obtain rfl := Except.ok.inj h
    rcases List.mem_append.mp hr with hr | hr
    · rw [Option.mem_toList] at hr
      obtain rfl := hr
      exact ⟨s, List.mem_cons_self, hfound⟩
    · obtain ⟨s', hs', hread⟩ := ih hrest hr
      exact ⟨s', List.mem_cons_of_mem s hs', hread⟩

end RecordForms.Scan
