import RecordForms.Proofs.Scan.Fields

/-!
# Scanning what is written for a definition

A definition that was built from a schema is written as a class.  Scanning the class, without
evaluating anything, gives the record that the framework itself reports: one record, of the same
framework, with the same schema.

## Main results

* `Scan.readMarkers_toClass`: the framework of a class is read from its marker
* `Scan.readClass_toClass`: a class that declares readable fields is a record with these fields, as
  its framework reads them
-/

namespace RecordForms

open Source

namespace Scan

variable {f : Framework} {name : String} {span : Span} {c : ClassLayout}
  {pairs : List (Field × DefaultSlot)}

/-! ### Markers and options -/

theorem exists_readOptions (span : Span) (flags : List (String × Bool)) :
    ∃ options, readOptions span (namedArguments flagExpr flags) = .ok options := by
  induction flags with
  | nil => exact ⟨[], rfl⟩
  | cons flag flags ih =>
    obtain ⟨options, h⟩ := ih
    rw [namedArguments] at h
    refine ⟨⟨flag.1, flagExpr flag.2⟩ :: options, ?_⟩
    rw [namedArguments, List.map_cons, readOptions, h, Except.ok_bind]

theorem decoratorName_decoratorExpr (callee : String) (flags : List (String × Bool)) :
    (decoratorName (decoratorExpr (callee, flags))).dottedName? = some callee := by
  cases flags with
  | nil =>
    have hname := Expr.dottedName?_dotted callee
    rw [decoratorExpr]
    rcases Expr.dotted_cases callee with h | ⟨value, member, h⟩
    · rw [h] at hname ⊢
      exact hname
    · rw [h] at hname ⊢
      exact hname
  | cons flag flags => exact Expr.dottedName?_dotted callee

theorem exists_decoratorOptions (span : Span) (callee : String) (flags : List (String × Bool)) :
    ∃ options, decoratorOptions span (decoratorExpr (callee, flags)) = .ok options := by
  cases flags with
  | nil =>
    refine ⟨[], ?_⟩
    rw [decoratorExpr]
    rcases Expr.dotted_cases callee with h | ⟨value, member, h⟩
    · rw [h, decoratorOptions]
      · nofun
      · nofun
    · rw [h, decoratorOptions]
      · nofun
      · nofun
  | cons flag flags => exact exists_readOptions span (flag :: flags)

/-- The framework of a class is read from its marker. -/
theorem readMarkers_toClass (h : c.MarkedAs f) (span : Span) :
    ∃ options, readMarkers (c.toClass span) = .ok (some f, options) := by
  rcases h with ⟨callee, flags, hdecorator, hmarker, hbase⟩ | ⟨base, hdecorator, hbase, hmarker⟩
  · obtain ⟨options, hoptions⟩ := exists_decoratorOptions span callee flags
    have hfound : decoratorMarker? (decoratorExpr (callee, flags)) = some f := by
      rw [decoratorMarker?, decoratorName_decoratorExpr, Option.bind_some, hmarker]
    refine ⟨options, ?_⟩
    simp only [readMarkers, ClassLayout.toClass, hdecorator, hbase, Option.map_some,
      Option.map_none, Option.toList_some, Option.toList_none, readDecorators, hfound, hoptions,
      Except.ok_bind, List.nil_append, readBases]
  · have hfound : baseMarker? (Expr.dotted base) = some f := by
      rw [baseMarker?, Expr.headName?_dotted, Option.bind_some, hmarker]
    refine ⟨[], ?_⟩
    simp only [readMarkers, ClassLayout.toClass, hdecorator, hbase, Option.map_some,
      Option.map_none, Option.toList_some, Option.toList_none, readDecorators, Except.ok_bind,
      readBases, hfound]

theorem checkBases_toClass (h : c.MarkedAs f) (span : Span) :
    checkBases span (c.toClass span).bases = .ok () := by
  rcases h with ⟨callee, flags, -, -, hbase⟩ | ⟨base, -, hbase, hmarker⟩
  · simp only [checkBases, ClassLayout.toClass, hbase, Option.map_none, Option.toList_none,
      List.find?_nil]
  · have hknown : isKnownBase (Expr.dotted base) = true := by
      rw [isKnownBase, baseMarker?, Expr.headName?_dotted, Option.bind_some, hmarker]
      rfl
    simp only [checkBases, ClassLayout.toClass, hbase, Option.map_some, Option.toList_some,
      List.find?_cons, hknown, Bool.not_true, List.find?_nil]

theorem readTotal_toClass (h : f = .typedDict → c.keywords = []) (span : Span) :
    readTotal f (c.toClass span) = .ok true := by
  unfold readTotal
  split
  · rename_i hf
    simp only [ClassLayout.toClass, h hf]
    rfl
  · rfl

/-! ### Members -/

/-- A field is read from the form of statement that its class uses. -/
theorem readMember_fieldStmt {p : Place} {config : Config} {q : Field × DefaultSlot} (span : Span)
    (htotal : p.total = true) (hq : q ∈ pairs)
    (hslot : p.framework.Fills config q.1.default q.2)
    (hfield : q.1.Readable p.framework config) :
    readMember p (p.framework.fieldStmt span pairs q) =
      .ok (.field (q.1.through [p.framework])) := by
  cases hexplicit : p.framework.isExplicit pairs with
  | true =>
    rw [Framework.isExplicit, Bool.and_eq_true, beq_iff_eq] at hexplicit
    rw [Framework.fieldStmt, Framework.isExplicit, hexplicit.2, beq_iff_eq.mpr hexplicit.1]
    exact readMember_explicitStmt span hexplicit.1 hslot hfield
  | false =>
    -- an annotated field has a type, or is of a framework that makes the missing type `typing.Any`
    have htype : p.framework.allowsUntyped = false ∨ q.1.type.isSome := by
      rw [Framework.isExplicit] at hexplicit
      cases hf : p.framework with
      | attrs =>
        rw [hf] at hexplicit
        have hall := List.any_eq_false.mp ((Bool.true_and _).symm.trans hexplicit) q hq
        exact Or.inr (Option.isSome_iff_ne_none.mpr (by simpa using hall))
      | namedTuple => exact Or.inr (hfield.typed hf)
      | _ => exact Or.inl rfl
    rw [Framework.fieldStmt, hexplicit]
    exact readMember_annotatedStmt span htotal hslot hfield htype

theorem readMembers_map {α : Type} {p : Place} {stmt : α → Stmt} {field : α → Field} {as : List α}
    (h : ∀ a ∈ as, readMember p (stmt a) = .ok (.field (field a))) :
    readMembers p (as.map stmt) = .ok (as.map fun a => .field (field a)) := by
  induction as with
  | nil => rfl
  | cons a as ih =>
    rw [List.forall_mem_cons] at h
    rw [List.map_cons, readMembers, h.1, Except.ok_bind, ih h.2, Except.ok_bind]
    rfl

/-- What the body of a class contributes: the fields that it declares.  A class without fields has a
statement in its body nevertheless. -/
theorem readMembers_toClass {p : Place} (h : c.Declares f name pairs) (span : Span)
    (hmember : ∀ q ∈ pairs, readMember p (f.fieldStmt span pairs q) =
      .ok (.field (q.1.through [f]))) :
    ∃ members, readMembers p (c.toClass span).body = .ok members ∧
      members.filterMap Member.field? = (pairs.map Prod.fst).map (Field.through [f]) ∧
      members.filterMap Member.option? = [] := by
  have hbody := h.body span
  cases hc : c.body with
  | nil =>
    -- the body is a single `pass`
    rw [hc, List.map_nil] at hbody
    have hpairs : pairs = [] := List.map_eq_nil_iff.mp hbody.symm
    refine ⟨[.nothing], ?_, by simp [hpairs, Member.field?], rfl⟩
    simp only [ClassLayout.toClass, hc]
    rfl
  | cons entry entries =>
    have hread := readMembers_map hmember
    rw [← hbody] at hread
    refine ⟨pairs.map fun q => .field (q.1.through [f]), ?_, ?_, ?_⟩
    · simp only [ClassLayout.toClass, hc, List.isEmpty_cons, Bool.false_eq_true, if_false]
      rw [← hc]
      exact hread
    · simp [List.filterMap_map, Function.comp_def, Member.field?]
    · simp [List.filterMap_map, Function.comp_def, Member.option?]

/-- A class that declares the fields of a schema is a record with this schema, whatever names are
known around it. -/
theorem readClass_toClass {s : Schema} (h : c.Declares f s.name pairs)
    (hfields : pairs.map Prod.fst = s.fields) (span : Span)
    (hmember : ∀ scope, ∀ q ∈ pairs,
      readMember ⟨f, s.name, scope, true⟩ (f.fieldStmt span pairs q) =
        .ok (.field (q.1.through [f]))) :
    ∃ options, ∀ scope, readClass scope (c.toClass span) =
      .ok (some ⟨f, s.through [f], options, span⟩) := by
  obtain ⟨options, hmarkers⟩ := readMarkers_toClass h.marked span
  obtain ⟨arguments, harguments⟩ := exists_readOptions span c.keywords
  refine ⟨options ++ arguments, fun scope => ?_⟩
  obtain ⟨members, hmembers, hread, hnone⟩ := readMembers_toClass h span (hmember scope)
  have hschema : schemaOf s.name (s.fields.map (Field.through [f])) = .ok (s.through [f]) := by
    have hfields : Schema.ofFields? s.name (s.fields.map (Field.through [f])) =
        .ok (s.through [f]) := Schema.ofFields?_eq_ok_iff.mpr ⟨rfl, rfl⟩
    rw [schemaOf, hfields]
    rfl
  have hmarked : readMarked scope (c.toClass span) f options =
      .ok ⟨f, s.through [f], options ++ arguments, span⟩ := by
    have hname : (c.toClass span).name = s.name := h.name
    have hspan : (c.toClass span).span = span := rfl
    have hkeywords : (c.toClass span).keywords = namedArguments flagExpr c.keywords := rfl
    rw [hfields] at hread
    simp only [readMarked, hname, hspan, hkeywords, checkBases_toClass h.marked, harguments,
      readTotal_toClass h.keywords, hmembers, hread, hnone, hschema, Except.ok_bind,
      List.append_nil]
  simp only [readClass, hmarkers, Except.ok_bind, hmarked]
  rfl

end Scan

/-- **Scanning and reading agree on a definition that was built**: the class that is written for it
is one record of its framework, with the schema that the framework reports. -/
theorem Framework.records_of_build {f : Framework} {config : Config} {s : Schema} {d : Definition}
    (hf : f ≠ .pydanticV1) (h : f.build config s = .ok d)
    (hs : ∀ field ∈ s.fields, field.Readable f config) (span : Span) :
    ∃ c r, d.toStmt span = .classDef c ∧ (∀ scope, Scan.readClass scope c = .ok (some r)) ∧
      Scan.records [d.toStmt span] = .ok [r] ∧ r.framework = f ∧ f.read d = .ok r.schema ∧
      r.span = span := by
  -- Both readings give what the framework leaves of the schema.
  have hread : f.read d = .ok (s.through [f]) :=
    (read_eq_schema? (framework_of_build h)).trans (schema?_build h)
  obtain ⟨kwOnly, pairs, -, hfields, hslots, rfl⟩ := exists_slots_of_build h
  have hnames : (pairs.map fun p => p.1.name).Nodup := by
    have h := s.nodup
    rwa [← hfields, List.map_map] at h
  have hreadable : ∀ p ∈ pairs, p.1.Readable f config := by
    intro p hp
    exact hs p.1 (hfields ▸ List.mem_map_of_mem hp)
  have hlayout : ∃ c, (f.describe s.name (config.target s.name) kwOnly pairs).layout =
      .classForm c ∧ c.Declares f s.name pairs :=
    layout_describe hf hnames hslots fun hf p hp => (hreadable p hp).typed hf
  obtain ⟨c, hlayout, hdeclares⟩ := hlayout
  obtain ⟨options, hclass⟩ := Scan.readClass_toClass hdeclares hfields span fun scope p hp =>
    Scan.readMember_fieldStmt (p := ⟨f, s.name, scope, true⟩) span rfl hp (hslots p hp)
      (hreadable p hp)
  have hstmt : (f.describe s.name (config.target s.name) kwOnly pairs).toStmt span =
      .classDef (c.toClass span) := by
    rw [Definition.toStmt, hlayout, Layout.toStmt]
  refine ⟨c.toClass span, ⟨f, s.through [f], options, span⟩, hstmt, hclass, ?_, rfl, hread, rfl⟩
  simp only [hstmt, Scan.records, Scan.readRecords, Scan.readRecord, hclass, Except.ok_bind,
    Option.toList_some, List.append_nil]

/-- A schema with a field without a type, so that the fields of its attrs class are explicit. -/
def book : Schema where
  name := "Book"
  fields := [
    ⟨"tags", some (.generic "list" [.union [.name "str", .noneType]]), .value (.list [])⟩,
    ⟨"shelf", none, .value (.int (-3))⟩,
    ⟨"binding", some (.literal "typing.Literal" [.tuple [.int 1], .str "soft"]), .absent⟩]
  nodup := by decide

theorem readable_book : ∀ field ∈ book.fields, field.Readable .attrs {} := by
  have hunion : (TypeExpr.union [.name "str", .noneType]).Regular (fun _ => True)
      TypeExpr.ReadableArgs := by
    refine .union (by decide) (by decide) ?_
    simpa using ⟨.name trivial, .noneType⟩
  have hint : (Value.int 1).Readable := .int (by decide)
  simp only [book, List.forall_mem_cons, List.not_mem_nil, false_imp_iff, implies_true, and_true]
  refine ⟨⟨?_, ?_, by simp, ?_⟩, ⟨by simp, by simp, by simp, ?_⟩, ⟨?_, ?_, by simp, by simp⟩⟩
  · rintro t ⟨⟩
    exact .generic trivial (by decide +kernel) (by simp) (by simpa using hunion)
  · rintro t ⟨⟩
    decide
  · rintro v ⟨⟩
    exact Or.inl (.list (by simp))
  · rintro v ⟨⟩
    exact Or.inl (.int (by decide))
  · rintro t ⟨⟩
    refine .literal trivial (by decide +kernel) (by simp) ⟨?_, by simp⟩
    simpa using ⟨.tuple (by simpa using hint), .str "soft"⟩
  · rintro t ⟨⟩
    decide

theorem records_of_build_book : ∃ d, Framework.attrs.build {} book = .ok d ∧
    ∃ c r, d.toStmt ⟨4, 0⟩ = .classDef c ∧ (∀ scope, Scan.readClass scope c = .ok (some r)) ∧
      Scan.records [d.toStmt ⟨4, 0⟩] = .ok [r] ∧ r.framework = .attrs ∧
      Framework.attrs.read d = .ok r.schema ∧ r.span = ⟨4, 0⟩ := by
  obtain ⟨d, hd⟩ : ∃ d, Framework.attrs.build {} book = .ok d := ⟨_, rfl⟩
  exact ⟨d, hd, Framework.records_of_build (by decide) hd readable_book ⟨4, 0⟩⟩

/-- Only a literal origin tells that the arguments of a subscript are values: with any other origin
the type is written in the same way, and its arguments are read as types. -/
theorem records_of_plainLiteral :
    ∃ d, Framework.attrs.build {} ⟨"R", [⟨"x", some (.literal "Foo" [.int 1]), .absent⟩],
        by decide⟩ = .ok d ∧
      TypeExpr.IsTypeName "Foo" ∧ TypeExpr.ReadableArgs [.int 1] ∧
      Framework.attrs.isFieldHead "Foo" ∧
      Framework.attrs.read d = .ok ⟨"R", [⟨"x", some (.literal "Foo" [.int 1]), .absent⟩],
        by decide⟩ ∧
      Scan.records [d.toStmt ⟨4, 0⟩] =
        .error (.expr (.constant (.int 1)) ⟨4, 0⟩ .notType) := by
  obtain ⟨d, hd⟩ : ∃ d, Framework.attrs.build {} ⟨"R", [⟨"x", some (.literal "Foo" [.int 1]),
      .absent⟩], by decide⟩ = .ok d := ⟨_, rfl⟩
  have hint : (Value.int 1).Readable := .int (by decide)
  refine ⟨d, hd, by decide +kernel, ⟨by simpa using hint, by simp⟩, by decide,
    (Framework.read_eq_schema? (Framework.framework_of_build hd)).trans
      (Framework.schema?_build hd), ?_⟩
  cases hd
  rfl

end RecordForms
