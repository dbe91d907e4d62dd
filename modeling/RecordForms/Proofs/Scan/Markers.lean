import RecordForms.Proofs.Scan.Declarations

/-!
# The statements that are records

Whether a statement is the definition of a record is seen on its markers alone: a class has one
among its decorators or its bases, and the value of an assignment is a call that makes a dataclass.
Any other statement is passed over, whatever it holds; such a definition is read as a record, or not
at all.  A class is recognized by the number of its markers, wherever they stand.

## Main definitions

* `Scan.isMarked`, `Scan.markers`: the classes with a marker, and the frameworks of the markers
* `Scan.markerCount`: the number of markers of a class
* `Scan.isRecord`: the statements that define a record

## Main results

* `Scan.toList_of_readMarkers`: the framework of a class is that of its only marker
* `Scan.readRecord_of_isRecord_eq_false`: any other statement is passed over
* `Scan.isSome_of_readRecord`: the definition of a record is not passed over
* `Scan.readClass_of_markerCount`: without markers a class is passed over, with one it is a record
  or is not read, with more than one it is never read
-/

namespace RecordForms.Scan

variable {scope : Namespace} {span : Span}

/-- Whether a class has a marker among its decorators or its bases. -/
def isMarked (c : ClassDef) : Bool :=
  c.decorators.any (fun e => (decoratorMarker? e).isSome) ||
    c.bases.any fun e => (baseMarker? e).isSome

/-- The frameworks that a class has a marker of, decorators before bases. -/
def markers (c : ClassDef) : List Framework :=
  c.decorators.filterMap decoratorMarker? ++ c.bases.filterMap baseMarker?

/-- The number of markers of a class. -/
def markerCount (c : ClassDef) : Nat :=
  c.decorators.countP (fun e => (decoratorMarker? e).isSome) +
    c.bases.countP fun e => (baseMarker? e).isSome

/-- Whether an expression is a call that makes a dataclass. -/
def isMaker : Expr → Bool
  | .call func _ _ => func.dottedName?.any Marker.isMakeDataclass
  | _ => false

/-- Whether a statement defines a record: a class with a marker, or an assignment of a call that
makes a dataclass. -/
def isRecord : Stmt → Bool
  | .classDef c => isMarked c
  | .assign _ value _ => isMaker value
  | _ => false

/-! ### Classes -/

theorem readDecorators_of_unmarked {es : List Expr} (h : ∀ e ∈ es, decoratorMarker? e = none)
    (found : Option Framework) (options : List ConfigOption) :
    readDecorators span found options es = .ok (found, options) := by
  induction es with
  | nil => rfl
  | cons e es ih =>
    rw [List.forall_mem_cons] at h
    simp only [readDecorators, h.1]
    exact ih h.2

theorem readBases_of_unmarked {es : List Expr} (h : ∀ e ∈ es, baseMarker? e = none)
    (found : Option Framework) : readBases span found es = .ok found := by
  induction es with
  | nil => rfl
  | cons e es ih =>
    rw [List.forall_mem_cons] at h
    simp only [readBases, h.1]
    exact ih h.2

/-- After the decorators the framework is the one that was known before, or that of the one marker
among them. -/
theorem toList_of_readDecorators {es : List Expr} {found found' : Option Framework}
    {options options' : List ConfigOption}
    (h : readDecorators span found options es = .ok (found', options')) :
    found'.toList = found.toList ++ es.filterMap decoratorMarker? := by
  -- Along the decorators, from what has been found so far.
  induction es generalizing found options with
  | nil =>
    cases h
    rw [List.filterMap_nil, List.append_nil]
  | cons e es ih =>
    cases hmarker : decoratorMarker? e with
    | none =>
      simp only [readDecorators, hmarker] at h
      rw [ih h, List.filterMap_cons_none hmarker]
    | some f =>
      cases found with
      | some f' =>
        simp only [readDecorators, hmarker] at h
        cases h
      | none =>
        simp only [readDecorators, hmarker] at h
        obtain ⟨given, -, h⟩ := Except.bind_eq_ok_iff.mp h
        rw [ih h, List.filterMap_cons_some hmarker]
        rfl

/-- After the bases the framework is the one that was known before, or that of the one marker among
them. -/
theorem toList_of_readBases {es : List Expr} {found found' : Option Framework}
    (h : readBases span found es = .ok found') :
    found'.toList = found.toList ++ es.filterMap baseMarker? := by
  induction es generalizing found with
  | nil =>
    cases h
    rw [List.filterMap_nil, List.append_nil]
  | cons e es ih =>
    cases hmarker : baseMarker? e with
    | none =>
      simp only [readBases, hmarker] at h
      rw [ih h, List.filterMap_cons_none hmarker]
    | some f =>
      cases found with
      | some f' =>
        simp only [readBases, hmarker] at h
        cases h
      | none =>
        simp only [readBases, hmarker] at h
        rw [ih h, List.filterMap_cons_some hmarker]
        rfl

/-- Where its markers are read, a class has one at most, and its framework is that of the marker. -/
theorem toList_of_readMarkers {c : ClassDef} {found : Option Framework}
    {options : List ConfigOption} (h : readMarkers c = .ok (found, options)) :
    found.toList = markers c := by
  obtain ⟨⟨found', options'⟩, hdecorators, h⟩ := Except.bind_eq_ok_iff.mp h
  obtain ⟨found'', hbases, h⟩ := Except.bind_eq_ok_iff.mp h
  cases h
  rw [toList_of_readBases hbases, toList_of_readDecorators hdecorators, Option.toList_none,
    List.nil_append, markers]

/-- A class has a marker just if one of its decorators or bases is one of some framework. -/
theorem isMarked_iff {c : ClassDef} : isMarked c ↔ markers c ≠ [] := by
  rw [isMarked, markers, ne_eq, List.append_eq_nil_iff, not_and_or]
  simp [List.filterMap_eq_nil_iff, Option.isSome_iff_ne_none]

/-- Where its markers are read, a framework is found for a class just if it has a marker. -/
theorem isSome_of_readMarkers {c : ClassDef} {found : Option Framework}
    {options : List ConfigOption} (h : readMarkers c = .ok (found, options)) :
    found.isSome = isMarked c := by
  rw [Bool.eq_iff_iff, isMarked_iff, ← toList_of_readMarkers h]
  cases found with
  | none => simp
  | some f => simp

/-- The markers of a class without markers are read. -/
theorem readMarkers_of_unmarked {c : ClassDef} (h : isMarked c = false) :
    readMarkers c = .ok (none, []) := by
  rw [isMarked, Bool.or_eq_false_iff, List.any_eq_false, List.any_eq_false] at h
  have hdecorators : ∀ e ∈ c.decorators, decoratorMarker? e = none :=
    fun e he => by simpa using h.1 e he
  have hbases : ∀ e ∈ c.bases, baseMarker? e = none := fun e he => by simpa using h.2 e he
  rw [readMarkers, readDecorators_of_unmarked hdecorators, Except.ok_bind]
  dsimp only
  rw [readBases_of_unmarked hbases, Except.ok_bind]

theorem length_markers (c : ClassDef) : (markers c).length = markerCount c := by
  rw [markers, List.length_append, List.length_filterMap_eq_countP,
    List.length_filterMap_eq_countP, markerCount]

theorem isMarked_eq_false_iff {c : ClassDef} : isMarked c = false ↔ markerCount c = 0 := by
  rw [← Bool.not_eq_true, isMarked_iff, not_not, ← length_markers, List.length_eq_zero_iff]

/-- A class of which the markers are read has one at most. -/
theorem markerCount_le_one_of_readMarkers {c : ClassDef} {found : Option Framework}
    {options : List ConfigOption} (h : readMarkers c = .ok (found, options)) :
    markerCount c ≤ 1 := by
  rw [← length_markers, ← toList_of_readMarkers h]
  exact Option.length_toList_le

theorem forall_isKnownBase_of_checkBases {bases : List Expr} (h : checkBases span bases = .ok ()) :
    ∀ b ∈ bases, isKnownBase b := by
  intro b hb
  unfold checkBases at h
  split at h
  · cases h
  · rename_i hfind
    simpa using List.find?_eq_none.mp hfind b hb

/-- A class that is a record has one marker, which is of the framework of the record, and brings no
fields from its bases. -/
theorem markers_of_readClass {c : ClassDef} {r : ScannedRecord}
    (h : readClass scope c = .ok (some r)) : markers c = [r.framework] ∧
      r.schema.name = c.name ∧ ∀ b ∈ c.bases, isKnownBase b := by
  obtain ⟨f, options, hmarkers, hread⟩ := readClass_eq_ok h
  obtain ⟨hframework, hname, -⟩ := readMarked_eq_ok hread
  obtain ⟨-, -, -, -, hbases, -⟩ := readMarked_eq_ok_iff.mp hread
  refine ⟨?_, hname, forall_isKnownBase_of_checkBases hbases⟩
  rw [← toList_of_readMarkers hmarkers, hframework, Option.toList_some]

/-! ### Statements -/

/-- A statement that defines no record is passed over, whatever it holds. -/
theorem readRecord_of_isRecord_eq_false {s : Stmt} (h : isRecord s = false) :
    readRecord scope s = .ok none := by
  cases s with
  | classDef c => rw [readRecord, readClass, readMarkers_of_unmarked h, Except.ok_bind]
  | assign targets value span =>
    cases value with
    | call func args keywords =>
      have hmaker : func.dottedName?.any Marker.isMakeDataclass = false := h
      simp only [readRecord, readFunctional, hmaker, Bool.false_eq_true, if_false]
    | _ => rfl
  | _ => rfl

/-- The definition of a record is not passed over: it is a record, or it is not read. -/
theorem isSome_of_readRecord {s : Stmt} (h : isRecord s) {found : Option ScannedRecord}
    (hread : readRecord scope s = .ok found) : found.isSome := by
  cases s with
  | classDef c =>
    obtain ⟨⟨f?, options⟩, hmarkers, hread⟩ := Except.bind_eq_ok_iff.mp hread
    have hsome : f?.isSome := (isSome_of_readMarkers hmarkers).trans h
    cases f? with
    | none => cases hsome
    | some f =>
      obtain ⟨r, -, rfl⟩ := Except.map_eq_ok_iff.mp hread
      rfl
  | assign targets value span =>
    cases value with
    | call func args keywords =>
      have hmaker : func.dottedName?.any Marker.isMakeDataclass = true := h
      simp only [readRecord, readFunctional, hmaker, if_true] at hread
      split at hread
      · split at hread
        · obtain ⟨r, -, rfl⟩ := Except.map_eq_ok_iff.mp hread
          rfl
        · cases hread
      · cases hread
    | _ => cases h
  | _ => cases h

/-- A class is passed over just if it has no marker. -/
theorem readClass_eq_none_iff {c : ClassDef} :
    readClass scope c = .ok none ↔ markerCount c = 0 := by
  rw [← isMarked_eq_false_iff]
  constructor
  · intro hread
    cases hmarked : isMarked c with
    | false => rfl
    | true => cases isSome_of_readRecord (s := .classDef c) hmarked hread
  · intro hmarked
    exact readRecord_of_isRecord_eq_false (s := .classDef c) hmarked

/-- **A class is recognized by the number of its markers**, in whatever order they stand among its
other decorators and bases.  Without a marker it is passed over, whatever it holds.  With two or
more it is never read.  With one it is a record of the framework of that marker, with the name of
the class and no base that may bring fields, or it is not read. -/
theorem readClass_of_markerCount (scope : Namespace) (c : ClassDef) :
    (readClass scope c = .ok none ↔ markerCount c = 0) ∧
      (2 ≤ markerCount c → ∃ e, readClass scope c = .error e) ∧
      (markerCount c = 1 → (∃ e, readClass scope c = .error e) ∨
        ∃ r, readClass scope c = .ok (some r) ∧ markers c = [r.framework] ∧
          r.schema.name = c.name ∧ ∀ b ∈ c.bases, isKnownBase b) := by
  refine ⟨readClass_eq_none_iff, fun hcount => ?_, fun hcount => ?_⟩
  · cases hmarkers : readMarkers c with
    | error e => exact ⟨e, by rw [readClass, hmarkers, Except.error_bind]⟩
    | ok found =>
      have hle := markerCount_le_one_of_readMarkers hmarkers
      omega
  · cases hread : readClass scope c with
    | error e => exact Or.inl ⟨e, rfl⟩
    | ok found =>
      cases found with
      | none =>
        rw [readClass_eq_none_iff.mp hread] at hcount
        cases hcount
      | some r => exact Or.inr ⟨r, rfl, markers_of_readClass hread⟩

/-- A generic dataclass with a decorator of another kind. -/
def leaf : ClassDef :=
  ⟨"Leaf", [.subscript (.name "Generic") (.name "T")], [],
    [.name "final", .call (.attr (.name "dataclasses") "dataclass") []
      [⟨some "frozen", .constant (.bool true)⟩]],
    [.annAssign (.name "content") (.name "T") none ⟨4, 4⟩], ⟨1, 0⟩⟩

/-- A class with two markers, one of them in quotes. -/
def hybrid : ClassDef :=
  { leaf with bases := [.name "object", .constant (.str "Struct")] }

theorem readClass_of_markerCount_leaf :
    markerCount leaf = 1 ∧ markerCount hybrid = 2 ∧
      (∃ r, readClass (.ofName "m") leaf = .ok (some r) ∧ r.framework = .dataclasses) ∧
      ∃ e, readClass (.ofName "m") hybrid = .error e := by
  have hleaf : markerCount leaf = 1 := by decide
  have hhybrid : markerCount hybrid = 2 := by decide
  have hmarkers : markers leaf = [.dataclasses] := by decide
  refine ⟨hleaf, hhybrid, ?_,
    (readClass_of_markerCount (.ofName "m") hybrid).2.1 (Nat.le_of_eq hhybrid.symm)⟩
  rcases (readClass_of_markerCount (.ofName "m") leaf).2.2 hleaf with ⟨e, he⟩ | ⟨r, hr, hf, -⟩
  · have hok : (readClass (.ofName "m") leaf).toOption.isSome := by decide +kernel
    rw [he] at hok
    cases hok
  · rw [hmarkers] at hf
    exact ⟨r, hr, (List.cons.inj hf).1.symm⟩

end RecordForms.Scan
