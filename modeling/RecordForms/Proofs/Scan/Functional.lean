import RecordForms.Proofs.Scan.Rearranged

/-!
# Two forms of a dataclass

A dataclass is made by a call with a list of entries, or it is a class with a decorator whose body
declares the same fields.  The two forms are read alike: where one of them is read so is the other,
as a record with the same fields and options.

## Main definitions

* `FieldEntry`: a field as it is written, with its two forms `FieldEntry.toExpr` and
  `FieldEntry.toStmt`
* `Scan.functionalForm`, `Scan.classForm`: the two forms of a dataclass
* `ScannedRecord.content`: what a record is apart from its place

## Main results

* `Scan.readMember_toStmt_iff`: an entry is read as the declaration of the same field
* `Scan.readEntries_iff_readMembers`: entries are read as the declarations of the same fields
* `Scan.readRecord_functional_iff`: the two forms of a dataclass are read alike
* `Scan.records_functional_iff`: so are the files in which they stand
-/

namespace RecordForms

/-- What a record is apart from its place. -/
def ScannedRecord.content (r : ScannedRecord) : Framework × Schema × List ConfigOption :=
  (r.framework, r.schema, r.options)

/-- A field of a dataclass as it is written. -/
inductive FieldEntry where
  | bare (name : String)
  | typed (name : String) (type : Expr)
  | defaulted (name : String) (type value : Expr)

namespace FieldEntry

/-- The entry of the field in a call that makes a dataclass. -/
def toExpr : FieldEntry → Expr
  | bare name => .constant (.str name)
  | typed name type => .tuple [.constant (.str name), type]
  | defaulted name type value => .tuple [.constant (.str name), type, value]

/-- The declaration of the field in the body of a class.  A name alone has any type. -/
def toStmt (span : Span) : FieldEntry → Stmt
  | bare name => .annAssign (.name name) (.dotted "typing.Any") none span
  | typed name type => .annAssign (.name name) type none span
  | defaulted name type value => .annAssign (.name name) type (some value) span

end FieldEntry

namespace Scan

variable {p : Place} {scope : Namespace} {span span' : Span}

/-- The call `name = make(name, [entries], keywords)`. -/
def functionalForm (make : Expr) (name : String) (entries : List FieldEntry)
    (keywords : List (Keyword Expr)) (span : Span) : Stmt :=
  .assign [.name name]
    (.call make [.constant (.str name), .list (entries.map FieldEntry.toExpr)] keywords) span

/-- The class `name` with the decorator `decorator(keywords)`, whose body declares the entries, each
at a place of its own. -/
def classForm (decorator : Expr) (name : String) (entries : List (FieldEntry × Span))
    (keywords : List (Keyword Expr)) (span : Span) : Stmt :=
  .classDef ⟨name, [], [], [.call decorator [] keywords], entries.map fun e => e.1.toStmt e.2, span⟩

/-! ### Fields -/

/-- A field is read alike at any place. -/
theorem Place.readField_eq_ok_iff {target : Expr} {declared value : Option Expr}
    {found : Option Field} : p.readField target declared value span = .ok found ↔
      p.readField target declared value span' = .ok found :=
  ⟨below_readField (.refl p.scope) target declared value found,
    below_readField (.refl p.scope) target declared value found⟩

/-- The declaration of a field in a class is read as its entry in a call. -/
theorem readMember_toStmt_iff (hf : p.framework = .dataclasses) (e : FieldEntry) {m : Member} :
    readMember p (e.toStmt span') = .ok m ↔
      ∃ found, readEntry p span e.toExpr = .ok found ∧ Member.ofField? found = m := by
  cases e with
  | bare name =>
    have hread : p.readField (.name name) (some (.dotted "typing.Any")) none span' =
      .ok (some ⟨name, some untyped, .absent⟩) := declares_bare hf name
    rw [FieldEntry.toStmt, readMember, hread]
    simp [FieldEntry.toExpr, readEntry, Except.map]
  | typed name type =>
    rw [FieldEntry.toStmt, readMember, Except.map_eq_ok_iff]
    exact exists_congr fun found => and_congr_left fun _ => Place.readField_eq_ok_iff
  | defaulted name type value =>
    rw [FieldEntry.toStmt, readMember, Except.map_eq_ok_iff]
    exact exists_congr fun found => and_congr_left fun _ => Place.readField_eq_ok_iff

/-- The declaration of a field in a class is no option. -/
theorem option?_of_readMember_toStmt {e : FieldEntry} {m : Member}
    (h : readMember p (e.toStmt span) = .ok m) : m.option? = none := by
  have hofField (found : Option Field) : (Member.ofField? found).option? = none := by
    cases found with
    | none => rfl
    | some f => rfl
  cases e with
  | _ =>
    obtain ⟨found, -, rfl⟩ := Except.map_eq_ok_iff.mp h
    exact hofField found

theorem options_of_readMembers_toStmt {entries : List (FieldEntry × Span)} {members : List Member}
    (h : readMembers p (entries.map fun e => e.1.toStmt e.2) = .ok members) :
    members.filterMap Member.option? = [] := by
  induction entries generalizing members with
  | nil => cases h; rfl
  | cons e entries ih =>
    obtain ⟨m, hmember, h⟩ := Except.bind_eq_ok_iff.mp h
    obtain ⟨ms, hmembers, h⟩ := Except.bind_eq_ok_iff.mp h
    rw [← Except.ok.inj h, List.filterMap_cons_none (option?_of_readMember_toStmt hmember),
      ih hmembers]

/-- The declarations of fields in a class are read as their entries in a call. -/
theorem readEntries_iff_readMembers (hf : p.framework = .dataclasses)
    (entries : List (FieldEntry × Span)) {fields : List Field} :
    readEntries p span (entries.map fun e => e.1.toExpr) = .ok fields ↔
      ∃ members, readMembers p (entries.map fun e => e.1.toStmt e.2) = .ok members ∧
        members.filterMap Member.field? = fields := by
  -- what is read first, before the fields that are read after it
  have hcons (found : Option Field) (ms : List Member) :
      (Member.ofField? found :: ms).filterMap Member.field? =
        found.toList ++ ms.filterMap Member.field? := by
    cases found with
    | none => rfl
    | some f => rfl
  induction entries generalizing fields with
  | nil => simp [readEntries, readMembers]
  | cons e entries ih =>
    constructor
    · intro h
      obtain ⟨found, hfound, h⟩ := Except.bind_eq_ok_iff.mp h
      obtain ⟨rest, hrest, h⟩ := Except.bind_eq_ok_iff.mp h
      obtain ⟨ms, hmembers, rfl⟩ := ih.mp hrest
      have hmember : readMember p (e.1.toStmt e.2) = .ok (Member.ofField? found) :=
        (readMember_toStmt_iff hf e.1).mpr ⟨found, hfound, rfl⟩
      refine ⟨Member.ofField? found :: ms, ?_, (hcons found ms).trans (Except.ok.inj h)⟩
      rw [List.map_cons, readMembers, hmember, Except.ok_bind, hmembers, Except.ok_bind]
    · rintro ⟨members, h, rfl⟩
      obtain ⟨m, hmember, h⟩ := Except.bind_eq_ok_iff.mp h
      obtain ⟨ms, hmembers, h⟩ := Except.bind_eq_ok_iff.mp h
      obtain rfl := Except.ok.inj h
      obtain ⟨found, hfound, rfl⟩ :
          ∃ found, readEntry p span e.1.toExpr = .ok found ∧ Member.ofField? found = m :=
        (readMember_toStmt_iff hf e.1).mp hmember
      rw [List.map_cons, readEntries, hfound, Except.ok_bind, ih.mpr ⟨ms, hmembers, rfl⟩,
        Except.ok_bind, hcons]

/-! ### Records -/

variable {make decorator : Expr} {name : String} {entries : List (FieldEntry × Span)}
  {keywords : List (Keyword Expr)} {r : ScannedRecord}

/-- What is read from a call that makes a dataclass: its entries, then its arguments. -/
theorem readRecord_functionalForm_iff (hmake : make.dottedName?.any Marker.isMakeDataclass) :
    readRecord scope (functionalForm make name (entries.map Prod.fst) keywords span) =
        .ok (some r) ↔
      ∃ fields schema options,
        readEntries ⟨.dataclasses, name, scope, true⟩ span
            (entries.map fun e => e.1.toExpr) = .ok fields ∧
          schemaOf name fields = .ok schema ∧ readOptions span keywords = .ok options ∧
          r = ⟨.dataclasses, schema, options, span⟩ := by
  have hentries : (entries.map Prod.fst).map FieldEntry.toExpr =
      entries.map fun e => e.1.toExpr := List.map_map
  have hread : readRecord scope (functionalForm make name (entries.map Prod.fst) keywords span) =
      (readMade scope name (entries.map fun e => e.1.toExpr) keywords span).map some := by
    rw [functionalForm, hentries]
    exact if_pos hmake
  rw [hread, Except.map_eq_ok_iff]
  constructor
  · rintro ⟨r', hmade, heq⟩
    obtain rfl := Option.some.inj heq
    obtain ⟨fields, hfields, h⟩ := Except.bind_eq_ok_iff.mp hmade
    obtain ⟨schema, hschema, h⟩ := Except.bind_eq_ok_iff.mp h
    obtain ⟨options, hoptions, h⟩ := Except.bind_eq_ok_iff.mp h
    exact ⟨fields, schema, options, hfields, hschema, hoptions, (Except.ok.inj h).symm⟩
  · rintro ⟨fields, schema, options, hfields, hschema, hoptions, rfl⟩
    refine ⟨_, ?_, rfl⟩
    rw [readMade, hfields, Except.ok_bind, hschema, Except.ok_bind, hoptions, Except.ok_bind]

/-- The markers of a class with one decorator, which is called. -/
theorem readMarkers_classForm {body : List Stmt}
    (hdecorator : decorator.dottedName?.bind Marker.decorator? = some .dataclasses) :
    readMarkers ⟨name, [], [], [.call decorator [] keywords], body, span⟩ =
      (readOptions span keywords).map fun options => (some .dataclasses, options) := by
  have hmarker : decoratorMarker? (.call decorator [] keywords) = some .dataclasses := hdecorator
  simp only [readMarkers, readDecorators, hmarker, decoratorOptions]
  cases readOptions span keywords with
  | ok options => rfl
  | error e => rfl

/-- What is read from a class with a decorator: the arguments of the decorator, then the body. -/
theorem readRecord_classForm_iff
    (hdecorator : decorator.dottedName?.bind Marker.decorator? = some .dataclasses) :
    readRecord scope (classForm decorator name entries keywords span) = .ok (some r) ↔
      ∃ members schema options,
        readMembers ⟨.dataclasses, name, scope, true⟩
            (entries.map fun e => e.1.toStmt e.2) = .ok members ∧
          schemaOf name (members.filterMap Member.field?) = .ok schema ∧
          readOptions span keywords = .ok options ∧
          r = ⟨.dataclasses, schema, options ++ members.filterMap Member.option?, span⟩ := by
  have hmarked (options : List ConfigOption) :
      readMarked scope ⟨name, [], [], [.call decorator [] keywords],
          entries.map fun e => e.1.toStmt e.2, span⟩ .dataclasses options =
        readMembers ⟨.dataclasses, name, scope, true⟩ (entries.map fun e => e.1.toStmt e.2) >>=
          fun members => schemaOf name (members.filterMap Member.field?) >>= fun schema =>
            .ok ⟨.dataclasses, schema, options ++ [] ++ members.filterMap Member.option?, span⟩ :=
    rfl
  rw [classForm, readRecord, readClass, readMarkers_classForm hdecorator]
  constructor
  · intro h
    obtain ⟨⟨found, options⟩, hmarkers, h⟩ := Except.bind_eq_ok_iff.mp h
    obtain ⟨options', hoptions, heq⟩ := Except.map_eq_ok_iff.mp hmarkers
    obtain ⟨rfl, rfl⟩ := Prod.mk.inj heq
    obtain ⟨r', hread, heq⟩ := Except.map_eq_ok_iff.mp h
    obtain rfl := Option.some.inj heq
    rw [hmarked] at hread
    obtain ⟨members, hmembers, h⟩ := Except.bind_eq_ok_iff.mp hread
    obtain ⟨schema, hschema, h⟩ := Except.bind_eq_ok_iff.mp h
    refine ⟨members, schema, options', hmembers, hschema, hoptions, ?_⟩
    rw [← Except.ok.inj h, List.append_nil]
  · rintro ⟨members, schema, options, hmembers, hschema, hoptions, rfl⟩
    rw [hoptions]
    refine Except.map_eq_ok_iff.mpr ⟨_, ?_, rfl⟩
    rw [hmarked, hmembers, Except.ok_bind, hschema, Except.ok_bind, List.append_nil]

/-- A call that makes a dataclass and a class with its entries in the body are read alike. -/
theorem readRecord_functional_iff (hmake : make.dottedName?.any Marker.isMakeDataclass)
    (hdecorator : decorator.dottedName?.bind Marker.decorator? = some .dataclasses)
    (content : Framework × Schema × List ConfigOption) :
    (∃ r, readRecord scope (functionalForm make name (entries.map Prod.fst) keywords span) =
        .ok (some r) ∧ r.content = content) ↔
      ∃ r, readRecord scope (classForm decorator name entries keywords span') = .ok (some r) ∧
        r.content = content := by
  simp only [readRecord_functionalForm_iff hmake, readRecord_classForm_iff hdecorator]
  constructor
  · rintro ⟨_, ⟨fields, schema, options, hfields, hschema, hoptions, rfl⟩, rfl⟩
    obtain ⟨members, hmembers, rfl⟩ := (readEntries_iff_readMembers rfl entries).mp hfields
    have hoptions' : readOptions span' keywords = .ok options :=
      below_readOptions keywords options hoptions
    refine ⟨_, ⟨members, schema, options, hmembers, hschema, hoptions', rfl⟩, ?_⟩
    rw [options_of_readMembers_toStmt hmembers, List.append_nil]
    rfl
  · rintro ⟨_, ⟨members, schema, options, hmembers, hschema, hoptions, rfl⟩, rfl⟩
    have hfields : readEntries ⟨.dataclasses, name, scope, true⟩ span
        (entries.map fun e => e.1.toExpr) = .ok (members.filterMap Member.field?) :=
      (readEntries_iff_readMembers rfl entries).mpr ⟨members, hmembers, rfl⟩
    have hoptions' : readOptions span keywords = .ok options :=
      below_readOptions keywords options hoptions
    refine ⟨_, ⟨_, schema, options, hfields, hschema, hoptions', rfl⟩, ?_⟩
    rw [options_of_readMembers_toStmt hmembers, List.append_nil]
    rfl

/-! ### Files -/

theorem readRecords_append_eq_ok_iff {body body' : List Stmt} {rs : List ScannedRecord} :
    readRecords scope (body ++ body') = .ok rs ↔
      ∃ as bs, readRecords scope body = .ok as ∧ readRecords scope body' = .ok bs ∧
        as ++ bs = rs := by
  induction body generalizing rs with
  | nil => simp [readRecords]
  | cons s body ih =>
    simp only [List.cons_append, readRecords, Except.bind_eq_ok_iff, ih, Except.ok.injEq]
    constructor
    · rintro ⟨found, hfound, _, ⟨as, bs, has, hbs, rfl⟩, rfl⟩
      exact ⟨found.toList ++ as, bs, ⟨found, hfound, as, has, rfl⟩, hbs, List.append_assoc ..⟩
    · rintro ⟨_, bs, ⟨found, hfound, as, has, rfl⟩, hbs, rfl⟩
      exact ⟨found, hfound, as ++ bs, ⟨as, bs, has, hbs, rfl⟩, (List.append_assoc ..).symm⟩

/-- In a file that is scanned, a statement can be exchanged for another one that is read alike in
some respect. -/
theorem exists_map_of_exchange {α : Type} {respect : ScannedRecord → α} {s s' : Stmt}
    {before after : List Stmt} (h : ∀ found, readRecord scope s = .ok found →
      ∃ found', readRecord scope s' = .ok found' ∧ found'.map respect = found.map respect)
    {rs : List ScannedRecord} (hread : readRecords scope (before ++ s :: after) = .ok rs) :
    ∃ rs', readRecords scope (before ++ s' :: after) = .ok rs' ∧
      rs'.map respect = rs.map respect := by
  -- The statements before and after are read as they were, among the same names.
  obtain ⟨as, bs, has, hbs, rfl⟩ := readRecords_append_eq_ok_iff.mp hread
  obtain ⟨found, hfound, hbs⟩ := Except.bind_eq_ok_iff.mp hbs
  obtain ⟨rest, hrest, heq⟩ := Except.bind_eq_ok_iff.mp hbs
  obtain ⟨found', hfound', hsame⟩ := h found hfound
  have hsecond : readRecords scope (s' :: after) = .ok (found'.toList ++ rest) := by
    rw [readRecords, hfound', Except.ok_bind, hrest, Except.ok_bind]
  have hone : found'.toList.map respect = found.toList.map respect := by
    rw [← Option.toList_map, hsame, Option.toList_map]
  refine ⟨as ++ (found'.toList ++ rest),
    readRecords_append_eq_ok_iff.mpr ⟨as, found'.toList ++ rest, has, hsecond, rfl⟩, ?_⟩
  rw [← Except.ok.inj heq, List.map_append, List.map_append, List.map_append, List.map_append, hone]

/-- In a file that is scanned, the definition of a record can be exchanged for another one that is
read as the same record. -/
theorem exists_contents_of_exchange {s s' : Stmt} {before after : List Stmt} (hs : isRecord s)
    (h : ∀ r, readRecord scope s = .ok (some r) →
      ∃ r', readRecord scope s' = .ok (some r') ∧ r'.content = r.content)
    {rs : List ScannedRecord} (hread : readRecords scope (before ++ s :: after) = .ok rs) :
    ∃ rs', readRecords scope (before ++ s' :: after) = .ok rs' ∧
      rs'.map ScannedRecord.content = rs.map ScannedRecord.content := by
  refine exists_map_of_exchange (fun found hfound => ?_) hread
  obtain ⟨r, rfl⟩ := Option.isSome_iff_exists.mp (isSome_of_readRecord hs hfound)
  obtain ⟨r', hr', hcontent⟩ := h r hfound
  exact ⟨some r', hr', congrArg some hcontent⟩

theorem isRecord_functionalForm (hmake : make.dottedName?.any Marker.isMakeDataclass)
    (entries : List FieldEntry) : isRecord (functionalForm make name entries keywords span) :=
  hmake

theorem isRecord_classForm
    (hdecorator : decorator.dottedName?.bind Marker.decorator? = some .dataclasses) :
    isRecord (classForm decorator name entries keywords span) := by
  have hmarker : decoratorMarker? (.call decorator [] keywords) = some .dataclasses := hdecorator
  simp [classForm, isRecord, isMarked, hmarker]

/-- The two forms bind the same name. -/
theorem namespaceOf_functionalForm (before after : List Stmt) :
    namespaceOf (before ++ functionalForm make name (entries.map Prod.fst) keywords span :: after) =
      namespaceOf (before ++ classForm decorator name entries keywords span' :: after) := by
  rw [namespaceOf, namespaceOf, List.foldl_append, List.foldl_append]
  rfl

/-- **The functional and the class form of a dataclass are read alike.**  A call that makes a
dataclass from a list of entries is read just if the class is that has the same arguments in its
decorator and declares the same fields, and then both are one record with the same framework, schema
and options.  The same is true of the files in which they stand, whatever is around them. -/
theorem records_functional_iff (hmake : make.dottedName?.any Marker.isMakeDataclass)
    (hdecorator : decorator.dottedName?.bind Marker.decorator? = some .dataclasses)
    (name : String) (entries : List (FieldEntry × Span)) (keywords : List (Keyword Expr))
    (span span' : Span) (before after : List Stmt) :
    let call := functionalForm make name (entries.map Prod.fst) keywords span
    let cls := classForm decorator name entries keywords span'
    (∀ scope content, (∃ r, readRecord scope call = .ok (some r) ∧ r.content = content) ↔
        ∃ r, readRecord scope cls = .ok (some r) ∧ r.content = content) ∧
      (∀ scope, readRecord scope call ≠ .ok none ∧ readRecord scope cls ≠ .ok none) ∧
      ∀ contents, (∃ rs, records (before ++ call :: after) = .ok rs ∧
          rs.map ScannedRecord.content = contents) ↔
        ∃ rs, records (before ++ cls :: after) = .ok rs ∧
          rs.map ScannedRecord.content = contents := by
  intro call cls
  have hcall : isRecord call := isRecord_functionalForm hmake _
  have hcls : isRecord cls := isRecord_classForm hdecorator
  have hiff (scope : Namespace) (content : Framework × Schema × List ConfigOption) :
      (∃ r, readRecord scope call = .ok (some r) ∧ r.content = content) ↔
        ∃ r, readRecord scope cls = .ok (some r) ∧ r.content = content :=
    readRecord_functional_iff hmake hdecorator content
  refine ⟨hiff, fun scope => ⟨fun h => ?_, fun h => ?_⟩, fun contents => ⟨?_, ?_⟩⟩
  · cases isSome_of_readRecord hcall h
  · cases isSome_of_readRecord hcls h
  · rintro ⟨rs, hrs, rfl⟩
    rw [records, namespaceOf_functionalForm] at hrs
    exact exists_contents_of_exchange hcall (fun r hr => (hiff _ _).mp ⟨r, hr, rfl⟩) hrs
  · rintro ⟨rs, hrs, rfl⟩
    rw [records, namespaceOf_functionalForm]
    exact exists_contents_of_exchange hcls (fun r hr => (hiff _ _).mpr ⟨r, hr, rfl⟩) hrs

/-- The fields of a node, one of which refers to the record itself. -/
def nodeEntries : List (FieldEntry × Span) :=
  [(.bare "id", ⟨7, 4⟩), (.typed "next" (.constant (.str "Node | None")), ⟨8, 4⟩),
    (.defaulted "tags" (.subscript (.name "list") (.name "str"))
      (.call (.name "field") [] [⟨some "default_factory", .name "list"⟩]), ⟨9, 4⟩)]

/-- The argument `frozen=True`. -/
def frozen : List (Keyword Expr) :=
  [⟨some "frozen", .constant (.bool true)⟩]

theorem records_functional_iff_node :
    let make : Expr := .attr (.name "dataclasses") "make_dataclass"
    let decorator : Expr := .attr (.name "dataclasses") "dataclass"
    make.dottedName?.any Marker.isMakeDataclass ∧
      decorator.dottedName?.bind Marker.decorator? = some .dataclasses ∧
      ∃ rs rs',
        records [functionalForm make "Node" (nodeEntries.map Prod.fst) frozen ⟨3, 0⟩] = .ok rs ∧
          records [classForm decorator "Node" nodeEntries frozen ⟨5, 0⟩] = .ok rs' ∧
          rs'.map ScannedRecord.content = rs.map ScannedRecord.content := by
  intro make decorator
  have hmake : make.dottedName?.any Marker.isMakeDataclass := by decide
  have hdecorator : decorator.dottedName?.bind Marker.decorator? = some .dataclasses := by decide
  obtain ⟨-, -, hfiles⟩ := records_functional_iff hmake hdecorator "Node" nodeEntries frozen
    ⟨3, 0⟩ ⟨5, 0⟩ [] []
  have hsome : (records [functionalForm make "Node" (nodeEntries.map Prod.fst) frozen
      ⟨3, 0⟩]).toOption.isSome := by decide +kernel
  obtain ⟨rs, hrs⟩ := Except.exists_eq_ok hsome
  obtain ⟨rs', hrs', hcontent⟩ := (hfiles (rs.map ScannedRecord.content)).mp ⟨rs, hrs, rfl⟩
  exact ⟨hmake, hdecorator, rs, rs', hrs, hrs', hcontent⟩

end Scan

end RecordForms
