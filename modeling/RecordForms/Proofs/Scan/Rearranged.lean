import RecordForms.Proofs.Scan.Markers
import RecordForms.Proofs.Scan.Surroundings

/-!
# Records among other statements

The statements of a file are read one by one, among the names that all of them bind together.  So it
does not matter in which order they stand, and statements that define no record can be added: they
are passed over, and a name more does no harm.

## Main definitions

* `Scan.recordIn body s`: the record that the statement `s` is among the names of the file `body`

## Main results

* `Scan.readRecords_eq_filterMap`: the records of a file are those of its statements, in order
* `Scan.records_of_perm`: a file is read like one with the same statements in another order and
  more statements that define no record
-/

namespace RecordForms.Scan

variable {scope : Namespace} {body extra body' : List Stmt} {rs : List ScannedRecord}

/-- The record that a statement is among the names of a file, if it is one. -/
def recordIn (body : List Stmt) (s : Stmt) : Option ScannedRecord :=
  (readRecord (namespaceOf body) s).toOption.join

theorem recordIn_eq {s : Stmt} {found : Option ScannedRecord}
    (h : readRecord (namespaceOf body) s = .ok found) : recordIn body s = found := by
  rw [recordIn, h]
  rfl

/-- Every statement of a file that is scanned is read. -/
theorem readRecord_of_mem (h : readRecords scope body = .ok rs) {s : Stmt} (hs : s ∈ body) :
    ∃ found, readRecord scope s = .ok found := by
  induction body generalizing rs with
  | nil => cases hs
  | cons t body ih =>
    obtain ⟨found, hfound, h⟩ := Except.bind_eq_ok_iff.mp h
    obtain ⟨rest, hrest, -⟩ := Except.bind_eq_ok_iff.mp h
    rcases List.mem_cons.mp hs with rfl | hs
    · exact ⟨found, hfound⟩
    · exact ih hrest hs

/-- The records of a file are those of its statements, in order. -/
theorem readRecords_eq_filterMap {found : Stmt → Option ScannedRecord}
    (h : ∀ s ∈ body, readRecord scope s = .ok (found s)) :
    readRecords scope body = .ok (body.filterMap found) := by
  induction body with
  | nil => rfl
  | cons s body ih =>
    rw [List.forall_mem_cons] at h
    rw [readRecords, h.1, Except.ok_bind, ih h.2, Except.ok_bind, List.filterMap_cons]
    cases found s with
    | none => rfl
    | some r => rfl

/-- What a statement is in a scanned file it is in every file with the names of that file. -/
theorem readRecord_eq_recordIn (h : records body = .ok rs) (hsub : body ⊆ body') {s : Stmt}
    (hs : s ∈ body) : readRecord (namespaceOf body') s = .ok (recordIn body s) := by
  obtain ⟨found, hfound⟩ := readRecord_of_mem h hs
  rw [recordIn_eq hfound]
  exact below_readRecord (extends_namespaceOf hsub) s found hfound

/-- A statement that defines no record is none in any file. -/
theorem recordIn_of_isRecord_eq_false (body : List Stmt) {s : Stmt} (hs : isRecord s = false) :
    recordIn body s = none :=
  recordIn_eq (readRecord_of_isRecord_eq_false hs)

/-- **Records do not depend on where statements stand, nor on unrelated statements.**  If a file is
scanned, then so is every file with the same statements in any order and more statements that define
no record.  It has the records that the statements of the first file are there, in the order in
which these statements stand now, and no others. -/
theorem records_of_perm (h : records body = .ok rs) (hextra : ∀ s ∈ extra, isRecord s = false)
    (hperm : body'.Perm (body ++ extra)) :
    rs = body.filterMap (recordIn body) ∧
      records body' = .ok (body'.filterMap (recordIn body)) ∧
      (∀ s ∈ body', (recordIn body s).isSome = isRecord s) ∧
      (body'.filter isRecord).Perm (body.filter isRecord) := by
  -- Nothing but the names around a statement could change what it is read as, and these only grow.
  have hsub : body ⊆ body' := fun s hs => hperm.mem_iff.mpr (List.mem_append_left extra hs)
  have hcases {s : Stmt} (hs : s ∈ body') : s ∈ body ∨ isRecord s = false :=
    (List.mem_append.mp (hperm.mem_iff.mp hs)).imp_right (hextra s)
  have hread : ∀ s ∈ body', readRecord (namespaceOf body') s = .ok (recordIn body s) := by
    intro s hs
    rcases hcases hs with hs | hs
    · exact readRecord_eq_recordIn h hsub hs
    · rw [recordIn_of_isRecord_eq_false body hs]
      exact readRecord_of_isRecord_eq_false hs
  refine ⟨?_, readRecords_eq_filterMap hread, fun s hs => ?_, ?_⟩
  · have hself := readRecords_eq_filterMap fun s hs => readRecord_eq_recordIn h (.refl body) hs
    exact Except.ok.inj (h.symm.trans hself)
  · cases hrecord : isRecord s with
    | false => rw [recordIn_of_isRecord_eq_false body hrecord, Option.isSome_none]
    | true => exact isSome_of_readRecord hrecord (hread s hs)
  · have hnone : extra.filter isRecord = [] :=
      List.filter_eq_nil_iff.mpr fun s hs => by simp [hextra s hs]
    have hfilter := hperm.filter isRecord
    rwa [List.filter_append, hnone, List.append_nil] at hfilter

/-- A dataclass with a field of a type that is given in quotes. -/
def parcel : Stmt :=
  .classDef ⟨"Parcel", [], [], [.name "dataclass"],
    [.annAssign (.name "label") (.constant (.str "list[Label]")) none ⟨3, 4⟩], ⟨1, 0⟩⟩

/-- A dataclass that is made by a call. -/
def label : Stmt :=
  .assign [.name "Label"] (.call (.name "make_dataclass")
    [.constant (.str "Label"), .list [.constant (.str "text")]] []) ⟨5, 0⟩

/-- Statements that define no record. -/
def unrelated : List Stmt :=
  [.importModules [⟨"typing", none⟩] ⟨7, 0⟩, .functionDef "main" ⟨9, 0⟩]

-- The type of the field is defined after the class that refers to it.
theorem records_of_perm_parcel : (∀ s ∈ unrelated, isRecord s = false) ∧
    (label :: unrelated ++ [parcel]).Perm ([parcel, label] ++ unrelated) ∧
    ∃ r r', records [parcel, label] = .ok [r, r'] ∧
      records (label :: unrelated ++ [parcel]) = .ok [r', r] := by
  have hextra : ∀ s ∈ unrelated, isRecord s = false := by
    simp [unrelated, isRecord]
  have hperm : (label :: unrelated ++ [parcel]).Perm ([parcel, label] ++ unrelated) :=
    @List.perm_append_comm _ (label :: unrelated) [parcel]
  have hsome : (records [parcel, label]).toOption.isSome := by decide +kernel
  obtain ⟨rs, hread⟩ := Except.exists_eq_ok hsome
  obtain ⟨hrs, hrecords, hfound, -⟩ := records_of_perm hread hextra hperm
  obtain ⟨r, hr⟩ := Option.isSome_iff_exists.mp (hfound parcel (by simp))
  obtain ⟨r', hr'⟩ := Option.isSome_iff_exists.mp (hfound label (by simp))
  have hnone : unrelated.filterMap (recordIn [parcel, label]) = [] :=
    List.filterMap_eq_nil_iff.mpr fun s hs => recordIn_of_isRecord_eq_false _ (hextra s hs)
  refine ⟨hextra, hperm, r, r', hread.trans ?_, hrecords.trans ?_⟩
  · rw [hrs]
    simp [hr, hr']
  · simp [hr, hr', hnone]

end RecordForms.Scan
