import RecordForms.Proofs.Scan.Functional

/-!
# What the schema of a class does not depend on

The configuration of a record is kept as it is written, and nothing is read from it but whether the
keys of a typed dict are required.  Decorators that are no markers, and statements that declare
nothing, are passed over.  So two classes that differ in nothing else are records of the same
framework with the same schema.

Two things that look like configuration are not.  Arguments given in a table, as in `**options`, are
refused, since their names are not known.  And only where `model_config` is assigned without an
annotation is it the configuration of a pydantic model; with one it is a field like any other.

## Main definitions

* `Scan.isIdle`: the statements in a body that declare nothing
* `Scan.SameMarker`, `Scan.SameMember`: two markers, and two statements in a body, that differ in
  configuration and in their places
* `Scan.SameFields`: two classes that differ in configuration and in what is passed over
* `ScannedRecord.core`: what a record is apart from its options and its place

## Main results

* `Scan.readFields_filter`: the statements that declare nothing can be left out
* `Scan.exists_readMarkers`, `Scan.exists_readMarked`: two such classes have the same markers, and
  the same fields
* `Scan.records_of_sameFields`: two such classes are read alike, and so are the files in which they
  stand
-/

namespace RecordForms

/-- What a record is apart from its options and its place. -/
def ScannedRecord.core (r : ScannedRecord) : Framework × Schema :=
  (r.framework, r.schema)

namespace Scan

/-! ### Classes that differ in configuration -/

/-- Whether a statement in a body declares nothing: methods, nested classes, `pass`, texts and
`...`. -/
def isIdle : Stmt → Bool
  | .functionDef .. | .classDef _ | .pass _ | .expr (.constant (.str _)) _
  | .expr (.constant .ellipsis) _ => true
  | _ => false

/-- The arguments of a decorator, by position and by name. -/
def decoratorArguments : Expr → List Expr × List (Keyword Expr)
  | .call _ args keywords => (args, keywords)
  | _ => ([], [])

/-- Two decorators that differ in arguments given by name. -/
structure SameMarker (e e' : Expr) : Prop where
  name : decoratorName e' = decoratorName e
  positional : (decoratorArguments e').1 = (decoratorArguments e).1
  named : ∀ k ∈ (decoratorArguments e').2, k.arg.isSome

/-- Two statements in the body of a class with these markers that differ in their places, and in the
value of `model_config` where it is no field: in attrs alone an assignment without an annotation can
declare one. -/
inductive SameMember (markers : List Framework) : Stmt → Stmt → Prop
  | same (s : Stmt) : SameMember markers s s
  | annotated (target annotation : Expr) (value : Option Expr) (span span' : Span) :
      SameMember markers (.annAssign target annotation value span)
        (.annAssign target annotation value span')
  | assigned (targets : List Expr) (value : Expr) (span span' : Span) :
      SameMember markers (.assign targets value span) (.assign targets value span')
  | config (h : .attrs ∉ markers) (value value' : Expr) (span span' : Span) :
      SameMember markers (.assign [.name "model_config"] value span)
        (.assign [.name "model_config"] value' span')
  | classLevel { annotation : Expr} (h : annotation.headName?.any Marker.isNonField)
      (value value' : Option Expr) (span span' : Span) :
      SameMember markers (.annAssign (.name "model_config") annotation value span)
        (.annAssign (.name "model_config") annotation value' span')

/-- The argument that says whether the keys of a typed dict are required. -/
def totalArgument (c : ClassDef) : Option Expr :=
  (c.keywords.find? fun k => k.arg == some "total").map Keyword.value

/-- Two classes that differ in configuration given by name, in decorators that are no markers, in
statements that declare nothing, and in places. -/
structure SameFields (c c' : ClassDef) : Prop where
  name : c'.name = c.name
  bases : c'.bases = c.bases
  decorators : List.Forall₂ SameMarker (c.decorators.filter fun e => (decoratorMarker? e).isSome)
    (c'.decorators.filter fun e => (decoratorMarker? e).isSome)
  named : ∀ k ∈ c'.keywords, k.arg.isSome
  total : .typedDict ∈ markers c → totalArgument c' = totalArgument c
  body : List.Forall₂ (SameMember (markers c)) (c.body.filter fun s => !isIdle s)
    (c'.body.filter fun s => !isIdle s)

variable {scope : Namespace} {span span' : Span} {c c' : ClassDef} {f : Framework}

/-! ### Markers -/

theorem exists_options_of_named {keywords : List (Keyword Expr)}
    (h : ∀ k ∈ keywords, k.arg.isSome) (span : Span) :
    ∃ options, readOptions span keywords = .ok options := by
  induction keywords with
  | nil => exact ⟨[], rfl⟩
  | cons k keywords ih =>
    rw [List.forall_mem_cons] at h
    obtain ⟨options, hoptions⟩ := ih h.2
    obtain ⟨arg, value⟩ := k
    obtain ⟨name, rfl⟩ := Option.isSome_iff_exists.mp h.1
    exact ⟨⟨name, value⟩ :: options, by rw [readOptions, hoptions, Except.ok_bind]⟩

/-- The options of a decorator are its arguments, of which none is given by position. -/
theorem decoratorOptions_eq (e : Expr) : decoratorOptions span e =
    match (decoratorArguments e).1 with
    | [] => readOptions span (decoratorArguments e).2
    | arg :: _ => .error (.expr arg span .positionalOption) := by
  cases e with
  | call func args keywords =>
    cases args with
    | nil => rfl
    | cons arg args => rfl
  | _ => rfl

theorem SameMarker.exists_options {e e' : Expr} (h : SameMarker e e') {options : List ConfigOption}
    (hread : decoratorOptions span e = .ok options) (span' : Span) :
    ∃ options', decoratorOptions span' e' = .ok options' := by
  rw [decoratorOptions_eq] at hread ⊢
  rw [h.positional]
  cases hargs : (decoratorArguments e).1 with
  | nil => exact exists_options_of_named h.named span'
  | cons arg args =>
    rw [hargs] at hread
    cases hread

theorem SameMarker.decoratorMarker? {e e' : Expr} (h : SameMarker e e') :
    decoratorMarker? e' = decoratorMarker? e := by
  rw [Scan.decoratorMarker?, Scan.decoratorMarker?, h.name]

/-- Decorators that are no markers can be left out. -/
theorem readDecorators_filter (found : Option Framework) (options : List ConfigOption)
    (es : List Expr) :
    readDecorators span found options (es.filter fun e => (decoratorMarker? e).isSome) =
      readDecorators span found options es := by
  induction es generalizing found options with
  | nil => rfl
  | cons e es ih =>
    cases hmarker : decoratorMarker? e with
    | none =>
      rw [List.filter_cons_of_neg (by simp [hmarker]), ih]
      simp only [readDecorators, hmarker]
    | some f =>
      rw [List.filter_cons_of_pos (by simp [hmarker])]
      cases found with
      | some f' => simp only [readDecorators, hmarker]
      | none => simp only [readDecorators, hmarker, ih]

theorem exists_readDecorators {es es' : List Expr} (h : List.Forall₂ SameMarker es es')
    {found found' : Option Framework} {options read : List ConfigOption}
    (hread : readDecorators span found options es = .ok (found', read)) (span' : Span)
    (options' : List ConfigOption) :
    ∃ read', readDecorators span' found options' es' = .ok (found', read') := by
  -- Along the markers, from whatever options have been read before.
  induction h generalizing found options options' with
  | nil =>
    cases hread
    exact ⟨options', rfl⟩
  | @cons e e' es es' hmarker _ ih =>
    cases he : decoratorMarker? e with
    | none =>
      simp only [readDecorators, hmarker.decoratorMarker?, he] at hread ⊢
      exact ih hread options'
    | some f =>
      cases found with
      | some f' =>
        simp only [readDecorators, he] at hread
        cases hread
      | none =>
        simp only [readDecorators, hmarker.decoratorMarker?, he] at hread ⊢
        obtain ⟨given, hgiven, hread⟩ := Except.bind_eq_ok_iff.mp hread
        obtain ⟨given', hgiven'⟩ := hmarker.exists_options hgiven span'
        rw [hgiven', Except.ok_bind]
        exact ih hread (options' ++ given')

/-- Two classes that differ in configuration have the same markers. -/
theorem exists_readMarkers (h : SameFields c c') {found : Option Framework}
    {options : List ConfigOption} (hread : readMarkers c = .ok (found, options)) :
    ∃ options', readMarkers c' = .ok (found, options') := by
  obtain ⟨⟨found', given⟩, hdecorators, hread⟩ := Except.bind_eq_ok_iff.mp hread
  obtain ⟨found'', hbases, hread⟩ := Except.bind_eq_ok_iff.mp hread
  cases hread
  rw [← readDecorators_filter] at hdecorators
  obtain ⟨given', hgiven⟩ := exists_readDecorators h.decorators hdecorators c'.span []
  rw [readDecorators_filter] at hgiven
  have hbases' : readBases c'.span found' c'.bases = .ok found := by
    rw [h.bases]
    exact below_readBases found' c.bases found hbases
  refine ⟨given', ?_⟩
  rw [readMarkers, hgiven, Except.ok_bind]
  dsimp only
  rw [hbases', Except.ok_bind]

/-! ### Members -/

/-- The field that a statement declares. -/
def readFieldOf (p : Place) (s : Stmt) : Except ScanError (Option Field) :=
  (readMember p s).map Member.field?

/-- The fields that a body declares. -/
def readFields (p : Place) (body : List Stmt) : Except ScanError (List Field) :=
  (readMembers p body).map fun members => members.filterMap Member.field?

variable {p : Place}

theorem readFields_cons (s : Stmt) (body : List Stmt) :
    readFields p (s :: body) = readFieldOf p s >>= fun field =>
      readFields p body >>= fun fields => .ok (field.toList ++ fields) := by
  rw [readFields, readFields, readFieldOf, readMembers]
  cases readMember p s with
  | error e => rfl
  | ok m =>
    cases readMembers p body with
    | error e => rfl
    | ok members =>
      cases m with
      | _ => rfl

theorem readFieldOf_of_isIdle {s : Stmt} (h : isIdle s) : readFieldOf p s = .ok none := by
  cases s with
  | functionDef | classDef | pass => rfl
  | expr value span =>
    cases value with
    | constant v =>
      cases v with
      | str | ellipsis => rfl
      | _ => cases h
    | _ => cases h
  | _ => cases h

/-- The statements that declare nothing can be left out. -/
theorem readFields_filter (body : List Stmt) :
    readFields p (body.filter fun s => !isIdle s) = readFields p body := by
  induction body with
  | nil => rfl
  | cons s body ih =>
    cases hidle : isIdle s with
    | true =>
      rw [List.filter_cons_of_neg (by simp [hidle]), ih, readFields_cons,
        readFieldOf_of_isIdle hidle, Except.ok_bind]
      cases readFields p body with
      | error e => rfl
      | ok fields => rfl
    | false =>
      rw [List.filter_cons_of_pos (by simp [hidle]), readFields_cons, readFields_cons, ih]

/-- Outside attrs, an assignment to `model_config` is configuration or is refused. -/
theorem below_config (h : p.framework ≠ .attrs) (value value' : Expr) (span span' : Span) :
    (readFieldOf p (.assign [.name "model_config"] value span)).Below
      (readFieldOf p (.assign [.name "model_config"] value' span')) := by
  have hread (value : Expr) (span : Span) :
      readMember p (.assign [.name "model_config"] value span) =
        readAssignment.config p [.name "model_config"] value span "model_config" := by
    cases value with
    | call func args keywords => simp [readMember, readAssignment, h]
    | _ => rfl
  rw [readFieldOf, readFieldOf, hread, hread, readAssignment.config, readAssignment.config]
  split
  · exact .refl _
  · exact .of_error _ _

theorem readFieldOf_classLevel { annotation : Expr}
    (h : annotation.headName?.any Marker.isNonField) (id : String) (value : Option Expr)
    (span : Span) : readFieldOf p (.annAssign (.name id) annotation value span) = .ok none := by
  have hfield : p.readField (.name id) (some annotation) value span = .ok none := if_pos h
  rw [readFieldOf, readMember, hfield]
  rfl

/-- What a statement declares does not depend on configuration. -/
theorem SameMember.below {markers : List Framework} (hf : markers = [p.framework]) {s s' : Stmt}
    (h : SameMember markers s s') : (readFieldOf p s).Below (readFieldOf p s') := by
  cases h with
  | same => exact .refl _
  | annotated target annotation value span span' =>
    exact ((Place.below_readField (.refl p.scope) target (some annotation) value).map _).map _
  | assigned targets value span span' =>
    exact (below_readAssignment (.refl p.scope) targets value).map _
  | config hattrs value value' span span' =>
    refine below_config (fun hframework => hattrs ?_) value value' span span'
    rw [hf, hframework, List.mem_singleton]
  | classLevel hnone =>
    rw [readFieldOf_classLevel hnone, readFieldOf_classLevel hnone]
    exact .refl _

theorem below_readFields {markers : List Framework} (hf : markers = [p.framework])
    {body body' : List Stmt} (h : List.Forall₂ (SameMember markers) body body') :
    (readFields p body).Below (readFields p body') := by
  induction h with
  | nil => exact .refl _
  | cons hs _ ih =>
    rw [readFields_cons, readFields_cons]
    exact (hs.below hf).bind fun field => ih.bind fun fields => .refl _

/-! ### Records -/

/-- Of the arguments of a class one is looked at, and in a typed dict only. -/
theorem readTotal_eq (f : Framework) (c : ClassDef) : readTotal f c =
    if f = .typedDict then
      match totalArgument c with
      | none => .ok true
      | some (.constant (.bool total)) => .ok total
      | some e => .error (.expr e c.span .totalNotBool)
    else .ok true := by
  rw [readTotal, totalArgument]
  cases c.keywords.find? fun k => k.arg == some "total" with
  | none => rfl
  | some k =>
    obtain ⟨arg, value⟩ := k
    cases value with
    | constant v =>
      cases v with
      | _ => rfl
    | _ => rfl

theorem readTotal_of_sameFields (h : SameFields c c') (hf : markers c = [f]) {total : Bool}
    (hread : readTotal f c = .ok total) : readTotal f c' = .ok total := by
  rw [readTotal_eq] at hread ⊢
  split at hread
  · rename_i htyped
    have hmem : .typedDict ∈ markers c := by rw [hf, htyped, List.mem_singleton]
    rw [if_pos htyped, h.total hmem]
    split at hread
    · exact hread
    · exact hread
    · cases hread
  · rename_i htyped
    rwa [if_neg htyped]

/-- Two classes that differ in configuration have the same fields. -/
theorem exists_readMarked (h : SameFields c c') (hf : markers c = [f])
    {options : List ConfigOption} {r : ScannedRecord}
    (hread : readMarked scope c f options = .ok r) (options' : List ConfigOption) :
    ∃ r', readMarked scope c' f options' = .ok r' ∧ r'.core = r.core := by
  obtain ⟨arguments, total, members, schema, hbases, -, htotal, hmembers, hschema, rfl⟩ :=
    readMarked_eq_ok_iff.mp hread
  have hbases' : checkBases c'.span c'.bases = .ok () := by
    rw [h.bases]
    exact below_checkBases c.bases () hbases
  obtain ⟨arguments', harguments⟩ := exists_options_of_named h.named c'.span
  -- the fields are those of the statements that both bodies have
  have hbody : (readFields ⟨f, c.name, scope, total⟩ c.body).Below
      (readFields ⟨f, c.name, scope, total⟩ c'.body) := by
    rw [← readFields_filter c.body, ← readFields_filter c'.body]
    exact below_readFields hf h.body
  have hfields : readFields ⟨f, c.name, scope, total⟩ c.body =
      .ok (members.filterMap Member.field?) := by
    rw [readFields, hmembers]
    rfl
  obtain ⟨members', hmembers', hsame⟩ := Except.map_eq_ok_iff.mp (hbody _ hfields)
  refine ⟨_, readMarked_eq_ok_iff.mpr ⟨arguments', total, members', schema, hbases', harguments,
    readTotal_of_sameFields h hf htotal, ?_, ?_, rfl⟩, rfl⟩
  · rw [h.name]
    exact hmembers'
  · rw [h.name, hsame]
    exact hschema

theorem exists_readClass (h : SameFields c c') {found : Option ScannedRecord}
    (hread : readClass scope c = .ok found) :
    ∃ found', readClass scope c' = .ok found' ∧
      found'.map ScannedRecord.core = found.map ScannedRecord.core := by
  obtain ⟨⟨framework, options⟩, hmarkers, hread⟩ := Except.bind_eq_ok_iff.mp hread
  obtain ⟨options', hmarkers'⟩ := exists_readMarkers h hmarkers
  rw [readClass, hmarkers', Except.ok_bind]
  cases framework with
  | none =>
    cases hread
    exact ⟨none, rfl, rfl⟩
  | some f =>
    obtain ⟨r, hr, rfl⟩ := Except.map_eq_ok_iff.mp hread
    obtain ⟨r', hr', hcore⟩ := exists_readMarked h (toList_of_readMarkers hmarkers).symm hr options'
    exact ⟨some r', Except.map_eq_ok_iff.mpr ⟨r', hr', rfl⟩, congrArg some hcore⟩

/-- **Configuration does not change the schema.**  A class that differs from a record in
configuration given by name, in decorators that are no markers and in statements that declare
nothing is a record of the same framework with the same schema, whatever names are known around it.
A source file in which the one stands in the place of the other has the same records up to their
options and their places. -/
theorem records_of_sameFields (h : SameFields c c') :
    (∀ scope r, readClass scope c = .ok (some r) →
        ∃ r', readClass scope c' = .ok (some r') ∧ r'.framework = r.framework ∧
          r'.schema = r.schema) ∧
      ∀ before after rs, records (before ++ .classDef c :: after) = .ok rs →
        ∃ rs', records (before ++ .classDef c' :: after) = .ok rs' ∧
          rs'.map ScannedRecord.core = rs.map ScannedRecord.core := by
  constructor
  · intro scope r hread
    obtain ⟨found, hfound, hcore⟩ := exists_readClass h hread
    obtain ⟨r', rfl, hcore⟩ := Option.map_eq_some_iff.mp hcore
    obtain ⟨hframework, hschema⟩ := Prod.mk.inj (Option.some.inj hcore)
    exact ⟨r', hfound, hframework, hschema⟩
  · intro before after rs hread
    -- the two bind the same name, so the names around all statements are the same
    have hscope : namespaceOf (before ++ .classDef c' :: after) =
        namespaceOf (before ++ .classDef c :: after) := by
      rw [namespaceOf, namespaceOf, List.foldl_append, List.foldl_append, List.foldl_cons,
        List.foldl_cons, bindStmt, bindStmt, h.name]
    rw [records, hscope]
    refine exists_map_of_exchange (s := .classDef c) (fun found hfound => ?_) hread
    exact exists_readClass h hfound

/-- A dataclass without configuration. -/
def plainTask : ClassDef where
  name := "Task"
  bases := []
  keywords := []
  decorators := [.name "dataclass"]
  body := [.annAssign (.name "title") (.name "str") none ⟨3, 4⟩,
    .annAssign (.name "done") (.name "bool") (some (.constant (.bool false))) ⟨4, 4⟩]
  span := ⟨1, 0⟩

/-- The dataclass with configuration, another decorator, a text and a method. -/
def configuredTask : ClassDef where
  name := "Task"
  bases := []
  keywords := [⟨some "metaclass", .name "Meta"⟩]
  decorators := [.name "register",
    .call (.name "dataclass") [] [⟨some "frozen", .constant (.bool true)⟩,
      ⟨some "kw_only", .constant (.bool true)⟩]]
  body := [.expr (.constant (.str "A task.")) ⟨4, 4⟩,
    .annAssign (.name "title") (.name "str") none ⟨5, 4⟩,
    .annAssign (.name "done") (.name "bool") (some (.constant (.bool false))) ⟨6, 4⟩,
    .functionDef "finish" ⟨8, 4⟩]
  span := ⟨1, 0⟩

theorem records_of_sameFields_task :
    SameFields plainTask configuredTask ∧
    ∃ r, readClass (namespaceOf [.classDef plainTask]) plainTask = .ok (some r) ∧
      r.schema.fields.map Field.name = ["title", "done"] ∧
      (∃ r', readClass (namespaceOf [.classDef plainTask]) configuredTask = .ok (some r') ∧
        r'.framework = r.framework ∧ r'.schema = r.schema) ∧
      records [.classDef plainTask] = .ok [r] ∧
      ∃ rs, records [.classDef configuredTask] = .ok rs ∧
        rs.map ScannedRecord.core = [r.core] := by
  have hsame : SameFields plainTask configuredTask := {
    name := rfl
    bases := rfl
    decorators := .cons ⟨rfl, rfl, by decide⟩ .nil
    named := by decide
    total := fun h => absurd h (by decide)
    body := .cons (.annotated ..) (.cons (.annotated ..) .nil) }
  obtain ⟨hclass, hfile⟩ := records_of_sameFields hsame
  obtain ⟨r, hr, hnames⟩ : ∃ r, readClass (namespaceOf [.classDef plainTask]) plainTask =
      .ok (some r) ∧ r.schema.fields.map Field.name = ["title", "done"] := ⟨_, rfl, rfl⟩
  have hrecords : records [.classDef plainTask] = .ok [r] := by
    rw [records, readRecords, readRecord, hr]
    rfl
  exact ⟨hsame, r, hr, hnames, hclass _ r hr, hrecords, hfile [] [] [r] hrecords⟩

/-- A pydantic model whose configuration is given by name. -/
def namedLimits : ClassDef where
  name := "Limits"
  bases := [.name "BaseModel"]
  keywords := [⟨some "extra", .constant (.str "forbid")⟩]
  decorators := []
  body := [.annAssign (.name "low") (.name "int") none ⟨2, 4⟩]
  span := ⟨1, 0⟩

/-- The model with its configuration in a table. -/
def tabledLimits : ClassDef :=
  { namedLimits with keywords := [⟨none, .name "options"⟩] }

/-- The model with `model_config` under an annotation. -/
def declaredLimits (value : Expr) : ClassDef :=
  { namedLimits with
    body := namedLimits.body ++
      [.annAssign (.name "model_config") (.name "dict") (some value) ⟨3, 4⟩] }

/-- A model whose keyword arguments are given in a table is not read, though with arguments given by
name it is; and the value of `model_config` under an annotation is part of the schema. -/
theorem readClass_limits :
    (∃ r, readClass (namespaceOf []) namedLimits = .ok (some r)) ∧
    (∀ r, readClass (namespaceOf []) tabledLimits ≠ .ok r) ∧
    ∃ r r', readClass (namespaceOf []) (declaredLimits (.dict [])) = .ok (some r) ∧
      readClass (namespaceOf [])
        (declaredLimits (.dict [(.constant (.str "extra"), .constant (.str "forbid"))])) =
          .ok (some r') ∧ r'.schema ≠ r.schema := by
  refine ⟨⟨_, rfl⟩, fun r => nofun, ⟨_, _, rfl, rfl, ?_⟩⟩
  decide

end Scan

end RecordForms
