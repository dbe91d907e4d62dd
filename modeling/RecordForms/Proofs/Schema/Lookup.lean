import Mathlib.Data.List.Nodup
import Mathlib.Order.Bounds.Defs
import RecordForms.Proofs.Definition.Readable
import RecordForms.Proofs.Scan.Declarations
import RecordForms.Proofs.Schema.Decoding

/-!
# Looking up fields

A list of fields makes a schema just if no two of them have one name, and otherwise the first place
at which a name repeats an earlier one is reported.  Every schema passes this check, whether it
comes from a list of fields, from a definition, from a source file or from a text.  So each of them
has the fields that are declared there, and a field is found under its own name and no other.

## Main definitions

* `IsRepeat names j`: the name at place `j` stands at some place before it too
* `Schema.IsIndexedBy s names`: `names` are the names of the fields, all of them distinct, and each
  field is found under its name

## Main results

* `isFirstRepeated_iff`: the first name that repeats an earlier one, by its place
* `Schema.field?_eq_some_iff`: what is found under a name
* `Schema.ofFields?_isIndexedBy`: which lists of fields make a schema, and that the fields of every
  schema are found by their names
-/

namespace RecordForms

/-- Whether the name at place `j` of a list stands at some place before it too. -/
def IsRepeat (names : List String) (j : Nat) : Prop :=
  ∃ i < j, ∃ n, names[i]? = some n ∧ names[j]? = some n

/-! ### The first repeated name -/

section Places

variable {names before after : List String} {n : String} {j : Nat}

theorem not_isRepeat_of_nodup (h : before.Nodup) (hj : j < before.length) :
    ¬ IsRepeat (before ++ after) j := by
  rintro ⟨i, hij, m, hi, hj'⟩
  rw [List.getElem?_append_left (Nat.lt_trans hij hj)] at hi
  rw [List.getElem?_append_left hj] at hj'
  exact List.nodup_iff_getElem?_ne_getElem?.mp h i j hij hj (hi.trans hj'.symm)

theorem nodup_take_of_forall_not_isRepeat (h : ∀ k < j, ¬ IsRepeat names k) :
    (names.take j).Nodup := by
  rw [List.nodup_iff_getElem?_ne_getElem?]
  intro i k hik hk heq
  rw [List.length_take, Nat.lt_min] at hk
  obtain ⟨hkj, hlt⟩ := hk
  rw [List.getElem?_take_of_lt hkj, List.getElem?_take_of_lt (Nat.lt_trans hik hkj)] at heq
  rw [List.getElem?_eq_getElem hlt] at heq
  exact h k hkj ⟨i, hik, _, heq, List.getElem?_eq_getElem hlt⟩

/-- The first name that repeats an earlier one stands at the least place that does. -/
theorem isFirstRepeated_iff : IsFirstRepeated names n ↔
    ∃ j, names[j]? = some n ∧ IsLeast {k | IsRepeat names k} j := by
  constructor
  · rintro ⟨before, after, rfl, hnodup, hmem⟩
    have hplace : (before ++ n :: after)[before.length]? = some n := by simp
    obtain ⟨i, hi, hget⟩ := List.mem_iff_getElem.mp hmem
    have hearlier : (before ++ n :: after)[i]? = some n := by
      rw [List.getElem?_append_left hi, List.getElem?_eq_getElem hi, hget]
    refine ⟨before.length, hplace, ⟨i, hi, n, hearlier, hplace⟩, ?_⟩
    intro k hk
    by_contra hlt
    exact not_isRepeat_of_nodup hnodup (Nat.lt_of_not_le hlt) hk
  · rintro ⟨j, hj, ⟨i, hij, m, hi, hj'⟩, hleast⟩
    obtain rfl : n = m := Option.some.inj (hj.symm.trans hj')
    obtain ⟨hlt, hget⟩ := List.getElem?_eq_some_iff.mp hj
    have hnames : names = names.take j ++ n :: names.drop (j + 1) := by
      rw [← hget, ← List.drop_eq_getElem_cons hlt, List.take_append_drop]
    have hnew : ∀ k < j, ¬ IsRepeat names k := fun k hk hrepeat =>
      absurd (hleast hrepeat) (Nat.not_le_of_lt hk)
    refine ⟨names.take j, names.drop (j + 1), hnames, nodup_take_of_forall_not_isRepeat hnew, ?_⟩
    apply List.mem_of_getElem? (i := i)
    rw [List.getElem?_take_of_lt hij, hi]

end Places

namespace Schema

variable {s : Schema} {name n : String} {fields : List Field} {f : Field} {names : List String}

/-! ### Lists of fields -/

theorem exists_ofFields?_iff :
    (∃ s, ofFields? name fields = .ok s) ↔ (fields.map Field.name).Nodup := by
  constructor
  · rintro ⟨s, hs⟩
    obtain ⟨-, rfl⟩ := ofFields?_eq_ok_iff.mp hs
    exact s.nodup
  · intro h
    exact ⟨⟨name, fields, h⟩, ofFields?_eq_ok_iff.mpr ⟨rfl, rfl⟩⟩

/-- What is reported of fields that make no schema: the first whose name repeats an earlier one. -/
theorem ofFields?_eq_error_iff_isLeast {e : RecordError} : ofFields? name fields = .error e ↔
    ∃ j f, fields[j]? = some f ∧ IsLeast {k | IsRepeat (fields.map Field.name) k} j ∧
      e = .duplicateField name f.name := by
  simp only [ofFields?_eq_error_iff, isFirstRepeated_iff, List.getElem?_map, Option.map_eq_some_iff]
  constructor
  · rintro ⟨n, ⟨j, ⟨f, hf, rfl⟩, hleast⟩, rfl⟩
    exact ⟨j, f, hf, hleast, rfl⟩
  · rintro ⟨j, f, hf, hleast, rfl⟩
    exact ⟨f.name, ⟨j, ⟨f, hf, rfl⟩, hleast⟩, rfl⟩

/-! ### Fields by their names -/

/-- Under a name stands the field that has it. -/
theorem field?_eq_some_iff : s.field? n = some f ↔ f ∈ s.fields ∧ f.name = n := by
  rw [field?]
  constructor
  · intro h
    exact ⟨List.mem_of_find?_eq_some h, by simpa using List.find?_some h⟩
  · rintro ⟨hf, rfl⟩
    have hsome : (s.fields.find? fun g => g.name = f.name).isSome :=
      List.find?_isSome.mpr ⟨f, hf, decide_eq_true rfl⟩
    obtain ⟨g, hg⟩ := Option.isSome_iff_exists.mp hsome
    -- another field with this name would repeat it
    have hname : g.name = f.name := by simpa using List.find?_some hg
    rw [hg, List.inj_on_of_nodup_map s.nodup (List.mem_of_find?_eq_some hg) hf hname]

/-- Whether the fields of a schema have these names, all of them distinct, and each of them is found
under its name. -/
structure IsIndexedBy (s : Schema) (names : List String) : Prop where
  fieldNames : s.fieldNames = names
  distinct : names.Nodup
  field? : ∀ n f, s.field? n = some f ↔ f ∈ s.fields ∧ f.name = n

theorem isIndexedBy (h : s.fieldNames = names) : s.IsIndexedBy names :=
  ⟨h, h ▸ s.nodup, fun _ _ => field?_eq_some_iff⟩

/-- The names of the fields of a scanned record are the targets of its declarations. -/
theorem exists_targets_of_mem_records {body : List Stmt} {rs : List ScannedRecord}
    {r : ScannedRecord} (h : Scan.records body = .ok rs) (hr : r ∈ rs) : ∃ stmt ∈ body,
      (Scan.declarations r.framework stmt).map Scan.Declaration.target =
        r.schema.fieldNames.map Expr.name := by
  obtain ⟨stmt, hstmt, hread⟩ := Scan.exists_of_mem_readRecords h hr
  obtain ⟨p, -, -, -, hfields⟩ := Scan.readRecord_eq_ok hread
  refine ⟨stmt, hstmt, ?_⟩
  rw [fieldNames, List.map_map, ← List.forall₂_eq_eq_eq, List.forall₂_map_left_iff,
    List.forall₂_map_right_iff]
  exact hfields.imp fun d field hdeclares => hdeclares.exists_slot.1

/-- **No two fields of a schema have one name, and a field is found under its own name alone.**  A
list of fields makes a schema, with these fields, just if their names are distinct; otherwise the
report is on the first place where a name repeats an earlier one.  So the schema of a definition has
the names of the declared fields, that of a record in a source file the targets of its declarations,
and one that is read from a text the names that the text spells, each of them once. -/
theorem ofFields?_isIndexedBy :
    (∀ name fields,
      ((∃ s, ofFields? name fields = .ok s) ↔ (fields.map Field.name).Nodup) ∧
      (∀ s, ofFields? name fields = .ok s →
        s.name = name ∧ s.fields = fields ∧ s.IsIndexedBy (fields.map Field.name)) ∧
      ∀ e, ofFields? name fields = .error e ↔ ∃ j f, fields[j]? = some f ∧
        IsLeast {k | IsRepeat (fields.map Field.name) k} j ∧ e = .duplicateField name f.name) ∧
    (∀ (f : Framework) d s, f.read d = .ok s → s.IsIndexedBy d.declared) ∧
    (∀ body rs, Scan.records body = .ok rs → ∀ r ∈ rs, ∃ stmt ∈ body, ∃ names,
      (Scan.declarations r.framework stmt).map Scan.Declaration.target = names.map Expr.name ∧
        r.schema.IsIndexedBy names) ∧
    ∀ text s, read text = .ok s → ∃ fields, Spells text s.name fields ∧
      s.IsIndexedBy (fields.map Field.name) := by
  refine ⟨fun name fields => ⟨exists_ofFields?_iff, ?fields, fun e =>
    ofFields?_eq_error_iff_isLeast⟩, ?definition, ?source, ?text⟩
  case fields =>
    intro s hs
    obtain ⟨hname, hfields⟩ := ofFields?_eq_ok_iff.mp hs
    exact ⟨hname, hfields, isIndexedBy (congrArg (List.map Field.name) hfields)⟩
  case definition =>
    intro f d s hs
    rw [Framework.read] at hs
    split at hs
    · exact isIndexedBy (Definition.schema?_eq_ok hs).2
    · cases hs
  case source =>
    intro body rs hrs r hr
    obtain ⟨stmt, hstmt, htargets⟩ := exists_targets_of_mem_records hrs hr
    exact ⟨stmt, hstmt, r.schema.fieldNames, htargets, isIndexedBy rfl⟩
  case text =>
    intro text s hs
    exact ⟨s.fields, spells_of_read hs, isIndexedBy rfl⟩

/-- The fields of a record of two whole numbers. -/
def pairFields : List Field :=
  [⟨"left", some (.name "int"), .absent⟩, ⟨"right", some (.name "int"), .value (.int 0)⟩]

/-- A dataclass with these fields. -/
def pairClass : Stmt :=
  .classDef ⟨"Pair", [], [], [.name "dataclass"],
    [.annAssign (.name "left") (.name "int") none ⟨2, 4⟩,
      .annAssign (.name "right") (.name "int") (some (.constant (.int 0))) ⟨3, 4⟩], ⟨1, 0⟩⟩

/-- A text that spells a schema with one field. -/
def unitText : String :=
  "\x7b\"name\": \"Unit\", \"fields\": [\x7b\"name\": \"only\", \"type\": null, " ++
    "\"default\": \x7b\"kind\": \"absent\"\x7d\x7d]\x7d"

/-- A named tuple with the names of these fields. -/
def pairTuple : Definition :=
  .namedTuple ⟨"Pair", .ofName "m", ["left", "right"], .empty, .empty⟩

/-- The fields, the named tuple, the class and the text make schemas; twice the fields make none. -/
theorem ofFields?_isIndexedBy_pair :
    (∃ s, ofFields? "Pair" pairFields = .ok s ∧ s.IsIndexedBy ["left", "right"]) ∧
    ofFields? "Pair" (pairFields ++ pairFields) = .error (.duplicateField "Pair" "left") ∧
    (∃ s, Framework.namedTuple.read pairTuple = .ok s ∧ s.IsIndexedBy ["left", "right"]) ∧
    (∃ r, Scan.records [pairClass] = .ok [r] ∧ r.schema.IsIndexedBy ["left", "right"]) ∧
    ∃ s, read unitText = .ok s ∧ s.IsIndexedBy ["only"] := by
  obtain ⟨hfields, hdefinition, hsource, htext⟩ := ofFields?_isIndexedBy
  refine ⟨?fields, ?repeated, ?definition, ?source, ?text⟩
  case fields =>
    obtain ⟨s, hs⟩ := (hfields "Pair" pairFields).1.mpr (by decide)
    exact ⟨s, hs, ((hfields "Pair" pairFields).2.1 s hs).2.2⟩
  case repeated =>
    refine ((hfields "Pair" (pairFields ++ pairFields)).2.2 _).mpr ⟨2, _, rfl, ⟨?_, ?_⟩, rfl⟩
    · exact ⟨0, by decide, "left", rfl, rfl⟩
    · intro k hk
      by_contra hlt
      have hrepeat : IsRepeat (pairFields.map Field.name ++ pairFields.map Field.name) k := hk
      exact not_isRepeat_of_nodup (by decide) (Nat.lt_of_not_le hlt) hrepeat
  case definition =>
    have hread : (Framework.namedTuple.read pairTuple).toOption.isSome := by decide +kernel
    obtain ⟨s, hs⟩ := Except.exists_eq_ok hread
    exact ⟨s, hs, hdefinition _ _ _ hs⟩
  case source =>
    have hnames : (Scan.records [pairClass]).toOption.map
        (fun rs => rs.map fun r => r.schema.fieldNames) = some [["left", "right"]] := by
      decide +kernel
    obtain ⟨rs, hrs, hnames⟩ := Option.map_eq_some_iff.mp hnames
    obtain ⟨r, rfl, hr⟩ := List.map_eq_singleton_iff.mp hnames
    have hrecords := Except.eq_ok_of_toOption hrs
    obtain ⟨-, -, names, -, hfound⟩ := hsource _ _ hrecords r (List.mem_singleton_self r)
    obtain rfl := hfound.fieldNames.symm.trans hr
    exact ⟨r, hrecords, hfound⟩
  case text =>
    have hnames : (read unitText).toOption.map fieldNames = some ["only"] := by decide +kernel
    obtain ⟨s, hs, hnames⟩ := Option.map_eq_some_iff.mp hnames
    have hread := Except.eq_ok_of_toOption hs
    obtain ⟨fields, -, hfound⟩ := htext _ _ hread
    rw [hfound.fieldNames.symm.trans hnames] at hfound
    exact ⟨s, hread, hfound⟩

end Schema

end RecordForms
