import RecordForms.Proofs.Except
import RecordForms.Proofs.Json.RoundTrip
import RecordForms.Proofs.Schema.Json

/-!
# Reading schemas

A schema is read from the text that is written for it, if the floats in it are read from theirs, and
no text is read as a schema with a repeated name.

## Main definitions

* `Schema.Spells`: the texts that begin with a document of a name and fields
* `Schema.Floats p`: the schemas whose floats all satisfy `p`

## Main results

* `Schema.lossless_document`: the JSON of fields is read from its text, if their floats are
* `Schema.read_eq_ok_iff`, `Schema.read_eq_record_iff`: the texts that are read as a schema, and
  those that fail for their fields
* `Schema.read_jsonText`: a schema is read from its text, and a repeated name is reported
-/

namespace RecordForms

open Json (ReadsBack)

/-! ### The texts of schemas -/

namespace Value

theorem lossless_floatJson {x : Double} (hx : ReadsBack x) : (floatJson x).Lossless := by
  unfold floatJson
  split
  · exact .float hx
  · exact .null

/-- The JSON of a value is read from its text, if its floats are. -/
theorem lossless_json {v : Value} (h : v.Floats ReadsBack) : v.json.Lossless := by
  induction h with
  | none => exact Json.lossless_ofParts (List.forall_mem_nil _)
  | ellipsis => exact Json.lossless_ofParts (List.forall_mem_nil _)
  | bool b => exact Json.lossless_tagged (.bool b)
  | int n =>
    have hmax : n.toInt < UInt64.size := Int.lt_of_le_of_lt n.toInt_le (by decide)
    exact Json.lossless_tagged (.int n.minValue_le_toInt hmax)
  | float hx => exact Json.lossless_tagged (lossless_floatJson hx)
  | str s => exact Json.lossless_tagged (.str s)
  | symbol path => exact Json.lossless_tagged (.str path)
  | bytes bs =>
    refine Json.lossless_tagged (Json.lossless_arr_map fun b _ => .int ?_ ?_)
    · exact Int.le_trans (by decide) (Int.natCast_nonneg b.toNat)
    · exact Int.ofNat_lt.mpr (Nat.lt_trans b.toNat_lt (by decide))
  | tuple _ ih | list _ ih | set _ ih | frozenSet _ ih =>
    rw [json, itemsJson_eq_map]
    exact Json.lossless_tagged (Json.lossless_arr_map ih)
  | dict _ _ ihkeys ihvalues =>
    rw [json, pairsJson_eq_map]
    refine Json.lossless_tagged (Json.lossless_arr_map fun p hp => .arr ?_)
    simp only [List.forall_mem_cons]
    exact ⟨ihkeys p hp, ihvalues p hp, List.forall_mem_nil _⟩

end Value

/-- The JSON of a type is read from its text, if its floats are. -/
theorem TypeExpr.lossless_json {t : TypeExpr} (h : t.Floats ReadsBack) : t.json.Lossless := by
  induction h with
  | name path => exact Json.lossless_ofParts (List.forall_mem_singleton.mpr (.str path))
  | noneType => exact Json.lossless_ofParts (List.forall_mem_nil _)
  | generic _ ih =>
    rw [json, itemsJson_eq_map]
    refine Json.lossless_ofParts ?_
    simp only [List.forall_mem_cons]
    exact ⟨.str _, Json.lossless_arr_map ih, List.forall_mem_nil _⟩
  | union _ ih =>
    rw [json, itemsJson_eq_map]
    exact Json.lossless_ofParts (List.forall_mem_singleton.mpr (Json.lossless_arr_map ih))
  | literal hvalues =>
    rw [json, Value.itemsJson_eq_map]
    refine Json.lossless_ofParts ?_
    simp only [List.forall_mem_cons]
    exact ⟨.str _, Json.lossless_arr_map fun v hv => Value.lossless_json (hvalues v hv),
      List.forall_mem_nil _⟩

theorem FieldDefault.lossless_json {d : FieldDefault} (h : d.Floats ReadsBack) :
    d.json.Lossless := by
  cases d with
  | absent => exact Json.lossless_ofParts (List.forall_mem_nil _)
  | value v => exact Json.lossless_tagged (Value.lossless_json (h v rfl))

theorem Field.lossless_json {f : Field} (h : f.Floats ReadsBack) : f.json.Lossless := by
  obtain ⟨name, type, default⟩ := f
  refine .obj ?_
  simp only [List.forall_mem_cons]
  refine ⟨.str name, ?_, FieldDefault.lossless_json h.default, List.forall_mem_nil _⟩
  cases type with
  | none => exact .null
  | some t => exact TypeExpr.lossless_json (h.type t rfl)

namespace Schema

/-- The JSON of fields is read from its text, if their floats are. -/
theorem lossless_document {name : String} {fields : List Field}
    (h : ∀ f ∈ fields, f.Floats ReadsBack) : (document name fields).Lossless := by
  refine .obj ?_
  simp only [List.forall_mem_cons]
  exact ⟨.str name, Json.lossless_arr_map fun f hf => Field.lossless_json (h f hf),
    List.forall_mem_nil _⟩

/-! ### What is read -/

variable {room : Nat} {j : Json}

/-- What is read as a schema spells its name and its fields. -/
theorem ofJson?_eq_ok_iff {s : Schema} :
    ofJson? room j = .ok s ↔ partsOfJson? room j = some (s.name, s.fields) := by
  unfold ofJson?
  cases partsOfJson? room j with
  | none => simp
  | some parts =>
    simp only [Except.mapError_eq_ok_iff, ofFields?_eq_ok_iff, Option.some.injEq, Prod.ext_iff,
      @eq_comm _ s.name, @eq_comm _ s.fields]

/-- What fails for its fields spells some of which one repeats the name of another. -/
theorem ofJson?_eq_record_iff {e : RecordError} :
    ofJson? room j = .error (.record e) ↔ ∃ name fields n,
      partsOfJson? room j = some (name, fields) ∧ IsFirstRepeated (fields.map Field.name) n ∧
        e = .duplicateField name n := by
  unfold ofJson?
  cases partsOfJson? room j with
  | none => simp
  | some parts =>
    simp only [Except.mapError_eq_error_iff, ofFields?_eq_error_iff, Undecodable.record.injEq,
      exists_eq_right, Option.some.injEq]
    constructor
    · rintro ⟨n, hn, rfl⟩
      exact ⟨parts.1, parts.2, n, rfl, hn, rfl⟩
    · rintro ⟨name, fields, n, rfl, hn, rfl⟩
      exact ⟨n, hn, rfl⟩

/-- A text is read as a schema if it spells one, with nothing but blanks after it. -/
theorem read_eq_ok_iff {text : String} {s : Schema} :
    read text = .ok s ↔ ∃ j rest, Json.value? text.toList = some (j, rest) ∧
      ofJson? nestingLimit j = .ok s ∧ Json.skipBlanks rest = [] := by
  unfold read
  cases Json.value? text.toList with
  | none => simp
  | some p =>
    obtain ⟨j, rest⟩ := p
    simp only [Option.some.injEq, Prod.mk.injEq, Except.bind_eq_ok_iff]
    constructor
    · rintro ⟨t, ht, hread⟩
      split at hread
      · rename_i hblank
        cases hread
        exact ⟨j, rest, ⟨rfl, rfl⟩, ht, List.isEmpty_iff.mp hblank⟩
      · cases hread
    · rintro ⟨j, rest, ⟨rfl, rfl⟩, hs, hblank⟩
      exact ⟨s, hs, if_pos (List.isEmpty_iff.mpr hblank)⟩

/-- What is wrong with the fields is found before what is wrong with the text after them. -/
theorem read_eq_record_iff {text : String} {e : RecordError} :
    read text = .error (.record e) ↔ ∃ j rest, Json.value? text.toList = some (j, rest) ∧
      ofJson? nestingLimit j = .error (.record e) := by
  unfold read
  cases Json.value? text.toList with
  | none => simp
  | some p =>
    obtain ⟨j, rest⟩ := p
    cases hs : ofJson? nestingLimit j with
    | error e => simp [hs]
    | ok t =>
      simp only [hs, Except.ok_bind, Option.some.injEq, Prod.mk.injEq]
      constructor
      · intro hread
        split at hread <;> cases hread
      · rintro ⟨j, rest, ⟨rfl, rfl⟩, herror⟩
        rw [hs] at herror
        cases herror

/-- A text begins with a document of a name and fields. -/
def Spells (text : String) (name : String) (fields : List Field) : Prop :=
  ∃ j rest, Json.value? text.toList = some (j, rest) ∧
    partsOfJson? nestingLimit j = some (name, fields)

theorem spells_of_read {text : String} {s : Schema} (h : read text = .ok s) :
    Spells text s.name s.fields := by
  obtain ⟨j, rest, hj, hs, -⟩ := read_eq_ok_iff.mp h
  exact ⟨j, rest, hj, ofJson?_eq_ok_iff.mp hs⟩

/-- The first repeated name of the fields that a text spells is reported. -/
theorem read_of_spells {text name n : String} {fields : List Field} (h : Spells text name fields)
    (hn : IsFirstRepeated (fields.map Field.name) n) :
    read text = .error (.record (.duplicateField name n)) := by
  obtain ⟨j, rest, hj, hparts⟩ := h
  exact read_eq_record_iff.mpr
    ⟨j, rest, hj, ofJson?_eq_record_iff.mpr ⟨name, fields, n, hparts, hn, rfl⟩⟩

/-- A document is spelled by its text, if its floats are finite and read back. -/
theorem spells_document {name : String} {fields : List Field}
    (hfinite : ∀ f ∈ fields, f.Floats fun x => x.isFinite)
    (hroom : (document name fields).isLegible nestingLimit)
    (hexact : ∀ f ∈ fields, f.Floats ReadsBack) :
    Spells (document name fields).text name fields :=
  ⟨document name fields, [], Json.value?_text (lossless_document hexact),
    partsOfJson?_document hfinite hroom⟩

/-- The schemas whose floats all satisfy `p`. -/
def Floats (p : Double → Prop) (s : Schema) : Prop :=
  ∀ f ∈ s.fields, f.Floats p

/-- **A schema is read from its JSON** if its floats are finite, and from its JSON text if they are
read back, as long as both are nested within the limit.  Of other fields the first repeated name is
reported, whether the document was written or comes from elsewhere, and what is read as a schema
has distinct names. -/
theorem read_jsonText :
    (∀ s : Schema, s.Floats (fun x => x.isFinite) → s.json.isLegible nestingLimit →
      ofJson? nestingLimit s.json = .ok s ∧ (s.Floats ReadsBack → read s.jsonText = .ok s)) ∧
    (∀ text s, read text = .ok s →
      Spells text s.name s.fields ∧ (s.fields.map Field.name).Nodup) ∧
    (∀ text name fields n, Spells text name fields → IsFirstRepeated (fields.map Field.name) n →
      read text = .error (.record (.duplicateField name n))) ∧
    (∀ name fields n, (∀ f ∈ fields, f.Floats fun x => x.isFinite) →
      (document name fields).isLegible nestingLimit →
      IsFirstRepeated (fields.map Field.name) n →
      ofJson? nestingLimit (document name fields) =
          .error (.record (.duplicateField name n)) ∧
        ((∀ f ∈ fields, f.Floats ReadsBack) →
          read (document name fields).text = .error (.record (.duplicateField name n)))) := by
  refine ⟨?written, fun text s h => ⟨spells_of_read h, s.nodup⟩, fun _ _ _ _ => read_of_spells,
    ?repeated⟩
  case written =>
    intro s hfinite hroom
    have hread : ofJson? nestingLimit s.json = .ok s :=
      ofJson?_eq_ok_iff.mpr (partsOfJson?_document hfinite hroom)
    exact ⟨hread, fun hexact => read_eq_ok_iff.mpr
      ⟨s.json, [], Json.value?_text (lossless_document hexact), hread, rfl⟩⟩
  case repeated =>
    intro name fields n hfinite hroom hn
    exact ⟨ofJson?_eq_record_iff.mpr
        ⟨name, fields, n, partsOfJson?_document hfinite hroom, hn, rfl⟩,
      fun hexact => read_of_spells (spells_document hfinite hroom hexact) hn⟩

/-- A schema with a literal type, an optional one and a field without a type, whose default holds
one and a half. -/
def shape : Schema where
  name := "Shape"
  fields :=
    [⟨"kind", some (.literal "Literal" [.str "a\"b\n", .bytes [0, 255], .int (-3)]), .absent⟩,
      ⟨"size", some (.union [.generic "list" [.name "int"], .noneType]), .value .none⟩,
      ⟨"extra", none, .value (.dict [(.tuple [.bool true, .float (.ofRatio false 3 2)],
        .set [.ellipsis, .symbol "Color.RED"])])⟩]
  nodup := by decide

theorem floats_shape {p : Double → Prop} (h : p (.ofRatio false 3 2)) : shape.Floats p := by
  simp only [Schema.Floats, shape, List.forall_mem_cons]
  refine ⟨⟨?kind, ?absent⟩, ⟨?size, ?none⟩, ⟨?untyped, ?extra⟩, List.forall_mem_nil _⟩
  case kind =>
    rintro t ⟨⟩
    refine .literal ?_
    simp only [List.forall_mem_cons]
    exact ⟨.str _, .bytes _, .int _, List.forall_mem_nil _⟩
  case size =>
    rintro t ⟨⟩
    refine .union ?_
    simp only [List.forall_mem_cons]
    exact ⟨.generic (List.forall_mem_singleton.mpr (.name _)), .noneType, List.forall_mem_nil _⟩
  case absent | untyped =>
    rintro _ ⟨⟩
  case none =>
    rintro v ⟨⟩
    exact .none
  case extra =>
    rintro v ⟨⟩
    refine .dict ?_ ?_ <;> simp only [List.forall_mem_singleton]
    · refine .tuple ?_
      simp only [List.forall_mem_cons]
      exact ⟨.bool true, .float h, List.forall_mem_nil _⟩
    · refine .set ?_
      simp only [List.forall_mem_cons]
      exact ⟨.ellipsis, .symbol _, List.forall_mem_nil _⟩

theorem readsBack_oneAndHalf : ReadsBack (.ofRatio false 3 2) := by
  have htext : Json.floatChars (.ofRatio false 3 2) = ['1', '.', '5'] := by decide +kernel
  have hscaled : Json.Numeral.scaled? (.ofRatio false 15 1) (-1) = some (.ofRatio false 3 2) := by
    rw [Json.Numeral.scaled?]
    decide +kernel
  have hnumber : Json.Numeral.value ⟨false, [1], [5], none⟩ = .float (.ofRatio false 3 2) := by
    simp [Json.Numeral.value, Json.Numeral.gather, UInt64.size, hscaled]
  rw [ReadsBack, htext, ← hnumber]
  rfl

/-- The schema is read from its text; with its fields twice, the first of them is reported. -/
theorem read_jsonText_shape :
    shape.Floats (fun x => x.isFinite) ∧ shape.Floats ReadsBack ∧
      shape.json.isLegible nestingLimit ∧ read shape.jsonText = .ok shape ∧
      (document "Shape" (shape.fields ++ shape.fields)).isLegible nestingLimit ∧
      IsFirstRepeated ((shape.fields ++ shape.fields).map Field.name) "kind" ∧
      read (document "Shape" (shape.fields ++ shape.fields)).text =
        .error (.record (.duplicateField "Shape" "kind")) := by
  have hfinite : shape.Floats fun x => x.isFinite := floats_shape (by decide +kernel)
  have hexact : shape.Floats ReadsBack := floats_shape readsBack_oneAndHalf
  have hroom : shape.json.isLegible nestingLimit := by decide +kernel
  have hroom' : (document "Shape" (shape.fields ++ shape.fields)).isLegible nestingLimit := by
    decide +kernel
  have hfirst : IsFirstRepeated ((shape.fields ++ shape.fields).map Field.name) "kind" :=
    ⟨["kind", "size", "extra"], ["size", "extra"], rfl, by decide, by decide⟩
  have htwice {p : Double → Prop} (h : shape.Floats p) :
      ∀ f ∈ shape.fields ++ shape.fields, f.Floats p :=
    fun f hf => h f (by simpa using hf)
  exact ⟨hfinite, hexact, hroom, (read_jsonText.1 shape hfinite hroom).2 hexact, hroom', hfirst,
    (read_jsonText.2.2.2 _ _ _ (htwice hfinite) hroom' hfirst).2 (htwice hexact)⟩

end Schema

end RecordForms
