import RecordForms.Proofs.Scan.Declarations
import RecordForms.Proofs.Scan.Records

/-!
# Recognizing what is written for a definition

Scanning passes over a class without a marker.  What is written for a definition that was built from
a schema has the marker of its framework, so it is never passed over, whatever the types and the
defaults are: it is a record of its framework, or the scan fails.  The one exception is a named
tuple with fields but without annotations, which is written as a call that is no marker.

## Main results

* `Scan.eq_some_of_readClass`: a class with a marker is not passed over
* `Scan.readRecord_tupleForm`: the call that makes a named tuple is passed over
* `Framework.recognized_of_build`: what is written for a definition is recognized, but for such
  calls
-/

namespace RecordForms

/-- Whether a statement imports names. -/
def Stmt.isImport : Stmt → Bool
  | .importModules .. | .importFrom .. => true
  | _ => false

open Source

namespace Scan

variable {scope : Namespace} {span : Span}

/-- Imports are passed over. -/
theorem readRecords_imports {imports : List Stmt} (h : ∀ i ∈ imports, i.isImport)
    (body : List Stmt) : readRecords scope (imports ++ body) = readRecords scope body := by
  induction imports with
  | nil => rfl
  | cons i imports ih =>
    rw [List.forall_mem_cons] at h
    have hnone : readRecord scope i = .ok none := by
      cases i with
      | importModules | importFrom => rfl
      | _ => cases h.1
    rw [List.cons_append, readRecords, hnone, Except.ok_bind, ih h.2]
    cases readRecords scope body with
    | ok rs => rfl
    | error e => rfl

/-- The records of a file that has one statement besides imports. -/
theorem records_single {imports : List Stmt} (h : ∀ i ∈ imports, i.isImport) {s : Stmt}
    {rs : List ScannedRecord} : records (imports ++ [s]) = .ok rs ↔
      ∃ r, readRecord (namespaceOf (imports ++ [s])) s = .ok r ∧ r.toList = rs := by
  rw [records, readRecords_imports h, readRecords, Except.bind_eq_ok_iff]
  simp only [readRecords, Except.ok_bind, List.append_nil, Except.ok.injEq]

/-- A class with a marker is not passed over: if it is read, it is a record. -/
theorem eq_some_of_readClass {c : ClassLayout} {f : Framework} (h : c.MarkedAs f)
    {found : Option ScannedRecord} (hread : readClass scope (c.toClass span) = .ok found) :
    ∃ r, found = some r ∧ r.framework = f ∧ r.schema.name = c.name ∧ r.span = span := by
  obtain ⟨options, hmarkers⟩ := readMarkers_toClass h span
  rw [readClass, hmarkers, Except.ok_bind] at hread
  obtain ⟨r, hr, rfl⟩ := Except.map_eq_ok_iff.mp hread
  obtain ⟨hframework, hname, hspan, -⟩ := readMarked_eq_ok hr
  exact ⟨r, rfl, hframework, hname, hspan⟩

/-- The call that makes a named tuple is passed over: only calls that make a dataclass are read. -/
theorem readRecord_tupleForm (name : String) (fields : List String) (defaults : List Value) :
    readRecord scope ((Layout.tupleForm name fields defaults).toStmt span) = .ok none := by
  have hmade : (Expr.dotted "collections.namedtuple").dottedName?.any Marker.isMakeDataclass =
      false := by
    rw [Expr.dottedName?_dotted]
    decide
  simp only [Layout.toStmt, tupleCall, readRecord, readFunctional, hmade, Bool.false_eq_true,
    if_false]

end Scan

namespace Framework

variable {f : Framework} {config : Config} {s : Schema} {d : Definition}

/-- The definitions that are written as a call: named tuples with fields, none of which has a
type. -/
def WrittenAsCall (f : Framework) (s : Schema) : Prop :=
  f = .namedTuple ∧ s.fields ≠ [] ∧ ∀ field ∈ s.fields, field.type = none

/-- What is written for a definition is a class with the marker of its framework, or a call. -/
theorem layout_of_build (hf : f ≠ .pydanticV1) (h : f.build config s = .ok d) :
    (f.WrittenAsCall s ∧ ∃ fields defaults, d.layout = .tupleForm s.name fields defaults) ∨
      ¬ f.WrittenAsCall s ∧ ∃ c, d.layout = .classForm c ∧ c.MarkedAs f ∧ c.name = s.name := by
  obtain ⟨kwOnly, pairs, -, hfields, hslots, rfl⟩ := exists_slots_of_build h
  have hnames := nodup_names hfields
  by_cases hcall : f.WrittenAsCall s
  · obtain ⟨rfl, hne, huntyped⟩ := id hcall
    refine Or.inl ⟨hcall, _, _, layout_namedTuple_untyped hnames ?_ fun p hp => ?_⟩
    · rintro rfl
      exact hne hfields.symm
    · exact huntyped p.1 (hfields ▸ List.mem_map_of_mem hp)
  · refine Or.inr ⟨hcall, ?_⟩
    -- a named tuple that is no call has no fields or a type
    have htyped (hf : f = .namedTuple) : pairs = [] ∨ ∃ p ∈ pairs, p.1.type.isSome := by
      by_contra hnot
      rw [not_or, not_exists] at hnot
      refine hcall ⟨hf, ?_, ?_⟩
      · rw [← hfields]
        simpa using hnot.1
      · intro field hfield
        rw [← hfields] at hfield
        obtain ⟨p, hp, rfl⟩ := List.mem_map.mp hfield
        simpa [hp] using hnot.2 p
    have hlayout : ∃ c, (f.describe s.name (config.target s.name) kwOnly pairs).layout =
        .classForm c ∧ c.Declares f s.name pairs := classForm_describe hf hnames hslots htyped
    obtain ⟨c, hlayout, hdeclares⟩ := hlayout
    exact ⟨c, hlayout, hdeclares.marked, hdeclares.name⟩

/-- **What is written for a definition is recognized** in a file of its own, after whatever imports:
if the file is scanned at all, it has one record, of the framework and with the name of the
definition.  Only a named tuple with fields but without types is passed over. -/
theorem recognized_of_build (hf : f ≠ .pydanticV1) (h : f.build config s = .ok d)
    {imports : List Stmt} (himports : ∀ i ∈ imports, i.isImport) (span : Span) :
    (Scan.records (imports ++ [d.toStmt span]) = .ok [] ↔ f.WrittenAsCall s) ∧
      ∀ rs, Scan.records (imports ++ [d.toStmt span]) = .ok rs → rs ≠ [] →
        ∃ r, rs = [r] ∧ r.framework = f ∧ r.schema.name = s.name ∧ r.span = span := by
  simp only [Scan.records_single himports]
  rcases layout_of_build hf h with ⟨hcall, fields, defaults, hlayout⟩ | ⟨hclass, c, hlayout, hc⟩
  · have hnone (scope : Namespace) : Scan.readRecord scope (d.toStmt span) = .ok none := by
      rw [Definition.toStmt, hlayout]
      exact Scan.readRecord_tupleForm s.name fields defaults
    simp only [hnone, Except.ok.injEq]
    refine ⟨⟨fun _ => hcall, fun _ => ⟨none, rfl, rfl⟩⟩, ?_⟩
    rintro rs ⟨r, rfl, rfl⟩ hne
    exact absurd rfl hne
  · have hsome {scope : Namespace} {found : Option ScannedRecord}
        (hread : Scan.readRecord scope (d.toStmt span) = .ok found) :
        ∃ r, found = some r ∧ r.framework = f ∧ r.schema.name = s.name ∧ r.span = span := by
      rw [Definition.toStmt, hlayout] at hread
      rw [← hc.2]
      exact Scan.eq_some_of_readClass hc.1 hread
    constructor
    · refine ⟨?_, fun hcall => absurd hcall hclass⟩
      rintro ⟨found, hread, hnil⟩
      obtain ⟨r, rfl, -⟩ := hsome hread
      cases hnil
    · rintro rs ⟨found, hread, rfl⟩ -
      obtain ⟨r, rfl, hr⟩ := hsome hread
      exact ⟨r, rfl, hr⟩

/-- A schema with a typed field and one without a type. -/
def pair : Schema where
  name := "Pair"
  fields := [⟨"left", some (.name "int"), .absent⟩, ⟨"right", none, .value (.int 0)⟩]
  nodup := by decide

theorem recognized_of_build_pair : ∃ d, namedTuple.build {} pair = .ok d ∧
    Scan.records [.importModules [⟨"typing", none⟩] ⟨1, 0⟩, d.toStmt ⟨4, 0⟩] ≠ .ok [] ∧
      ∀ rs, Scan.records [.importModules [⟨"typing", none⟩] ⟨1, 0⟩, d.toStmt ⟨4, 0⟩] = .ok rs →
        rs ≠ [] → ∃ r, rs = [r] ∧ r.framework = .namedTuple ∧ r.schema.name = "Pair" ∧
          r.span = ⟨4, 0⟩ := by
  obtain ⟨d, hd⟩ : ∃ d, namedTuple.build {} pair = .ok d := ⟨_, rfl⟩
  have himports : ∀ i ∈ [Stmt.importModules [⟨"typing", none⟩] ⟨1, 0⟩], i.isImport := by
    simp [Stmt.isImport]
  obtain ⟨hnil, hone⟩ := recognized_of_build (by decide) hd himports ⟨4, 0⟩
  refine ⟨d, hd, fun h => ?_, hone⟩
  obtain ⟨-, -, huntyped⟩ := hnil.mp h
  cases huntyped _ List.mem_cons_self

/-- A named tuple whose fields have no types is written as a call, which the scan passes over. -/
theorem records_of_untypedTuple :
    ∃ d, namedTuple.build {} ⟨"P", [⟨"x", none, .absent⟩], by decide⟩ = .ok d ∧
      Scan.records [.importModules [⟨"collections", none⟩] ⟨1, 0⟩, d.toStmt ⟨4, 0⟩] = .ok [] := by
  obtain ⟨d, hd⟩ : ∃ d, namedTuple.build {} ⟨"P", [⟨"x", none, .absent⟩], by decide⟩ = .ok d :=
    ⟨_, rfl⟩
  refine ⟨d, hd, ?_⟩
  cases hd
  rfl

end Framework

end RecordForms
