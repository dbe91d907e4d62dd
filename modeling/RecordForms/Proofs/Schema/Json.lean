import RecordForms.Proofs.Schema.Distinct
import RecordForms.Proofs.Value.Json

/-!
# Schemas as JSON

## Main definitions

* `TypeExpr.Floats p`, `Field.Floats p`: the types and fields whose floats all satisfy `p`
* `Schema.document`: the JSON of a name and a list of fields, which may make no schema

## Main results

* `TypeExpr.ofJson?_json`, `Field.ofJson?_json`: a type and a field are read from their JSON
* `Schema.partsOfJson?_document`: so are the name and the fields of a document
-/

namespace RecordForms

open Json (Access)

namespace TypeExpr

/-- The types whose floats all satisfy `p`, at any depth. -/
inductive Floats (p : Double → Prop) : TypeExpr → Prop
  | name (path : String) : Floats p (name path)
  | generic {origin : String} {args : List TypeExpr} (hargs : ∀ t ∈ args, Floats p t) :
    Floats p (generic origin args)
  | union {members : List TypeExpr} (hmembers : ∀ t ∈ members, Floats p t) :
    Floats p (union members)
  | noneType : Floats p noneType
  | literal {origin : String} {values : List Value} (hvalues : ∀ v ∈ values, v.Floats p) :
    Floats p (literal origin values)

theorem itemsJson_eq_map (ts : List TypeExpr) : itemsJson ts = ts.map json := by
  induction ts with
  | nil => rfl
  | cons t ts ih => rw [itemsJson, ih, List.map_cons]

theorem nodup_of_partNames {kind : String} {names : List String}
    (h : partNames kind = some names) : ("kind" :: names).Nodup := by
  unfold partNames at h
  split at h <;> cases h <;> decide

variable {a : Access} {room : Nat}

/-- A type is taken apart into the parts that are written. -/
theorem parts?_ofParts {kind : String} {parts : List (String × Json)}
    (hnames : partNames kind = some (parts.map Prod.fst))
    (hroom : ∀ p ∈ parts, p.2.isLegible room) :
    parts? a room (.ofParts kind parts) = some (kind, parts.map Prod.snd) := by
  have hnodup : ((("kind", Json.str kind) :: parts).map Prod.fst).Nodup := nodup_of_partNames hnames
  have hkind : Json.required? "kind" (("kind", .str kind) :: parts) = some (.str kind) :=
    Json.required?_of_mem hnodup List.mem_cons_self
  have hparts : (parts.map Prod.fst).mapM
      (fun name => Json.required? name (("kind", .str kind) :: parts)) =
        some (parts.map Prod.snd) :=
    mapM_map_eq_some_map fun p hp => Json.required?_of_mem hnodup (List.mem_cons_of_mem _ hp)
  -- What stands beside the tag is taken in before the parts are read, so it has to be legible.
  have hadmits : ((("kind", Json.str kind) :: parts).filter fun p => p.1 != "kind").all
      fun p => a.admits room p.2 := by
    simp only [List.all_eq_true, List.mem_filter, List.mem_cons]
    rintro p ⟨rfl | hp, hkey⟩
    · simp at hkey
    · simp [Access.admits, hroom p hp]
  simp only [Json.ofParts, parts?, hkind, Option.bind_eq_bind, Option.bind_some, Json.tagAmong?,
    hnames, hadmits, if_true, hparts]

/-- The types of a list are read from their JSON. -/
theorem mapM_itemsJson {ts : List TypeExpr}
    (h : ∀ t ∈ ts, ∀ (a : Access) {room}, t.json.isLegible room → ofJson? a room t.json = some t)
    (hroom : ∀ j ∈ itemsJson ts, j.isLegible room) :
    (itemsJson ts).mapM (ofJson? a room) = some ts := by
  rw [itemsJson_eq_map] at hroom ⊢
  exact mapM_map_eq_some fun t ht => h t ht a (hroom _ (List.mem_map_of_mem ht))

/-- A type whose floats are finite is read from its JSON. -/
theorem ofJson?_json {t : TypeExpr} (h : t.Floats fun x => x.isFinite) (a : Access) {room : Nat}
    (hroom : t.json.isLegible room) : ofJson? a room t.json = some t := by
  -- The arguments of a type are read after the whole type has been taken in, however it is read
  -- itself.
  induction h generalizing a room with
  | name path =>
    obtain ⟨room, rfl, hparts⟩ := Json.isLegible_ofParts hroom
    rw [json, ofJson?, parts?_ofParts rfl hparts]
    rfl
  | noneType =>
    obtain ⟨room, rfl, hparts⟩ := Json.isLegible_ofParts hroom
    rw [json, ofJson?, parts?_ofParts rfl hparts]
    rfl
  | @generic origin args hargs ih =>
    obtain ⟨room, rfl, hparts⟩ := Json.isLegible_ofParts hroom
    obtain ⟨inner, rfl, hitems⟩ :=
      Json.isLegible_arr (hparts ("args", .arr (itemsJson args)) (by simp))
    rw [json, ofJson?, parts?_ofParts rfl hparts]
    simp only [List.map_cons, List.map_nil, mapM_itemsJson ih hitems, Option.map_some]
  | @union members hmembers ih =>
    obtain ⟨room, rfl, hparts⟩ := Json.isLegible_ofParts hroom
    obtain ⟨inner, rfl, hitems⟩ := Json.isLegible_arr (hparts _ List.mem_cons_self)
    rw [json, ofJson?, parts?_ofParts rfl hparts]
    simp only [List.map_cons, List.map_nil, mapM_itemsJson ih hitems, Option.map_some]
  | @literal origin values hvalues =>
    obtain ⟨room, rfl, hparts⟩ := Json.isLegible_ofParts hroom
    have hitems : (Json.arr (Value.itemsJson values)).isLegible room :=
      hparts ("values", .arr (Value.itemsJson values)) (by simp)
    have hread : Json.items? (Value.ofJson? .buffered) room (.arr (Value.itemsJson values)) =
        some values := by
      rw [Value.itemsJson_eq_map] at hitems ⊢
      exact Json.items?_map (fun v hv => Value.ofJson?_json (hvalues v hv) .buffered) hitems
    rw [json, ofJson?, parts?_ofParts rfl hparts]
    simp only [List.map_cons, List.map_nil, hread, Option.map_some]

end TypeExpr

/-- A default whose floats all satisfy `p`. -/
def FieldDefault.Floats (p : Double → Prop) (d : FieldDefault) : Prop :=
  ∀ v, d = .value v → v.Floats p

/-- A default whose floats are finite is read from its JSON. -/
theorem FieldDefault.ofJson?_json {d : FieldDefault} (h : d.Floats fun x => x.isFinite)
    {room : Nat} (hroom : d.json.isLegible room) : ofJson? room d.json = some d := by
  cases d with
  | absent =>
    obtain ⟨room, rfl, -⟩ := Json.isLegible_ofParts hroom
    rw [json, ofJson?, Json.alternative?_bare]
    simp
  | value v =>
    obtain ⟨room, rfl, hparts⟩ := Json.isLegible_ofParts hroom
    have hread : Value.ofJson? .direct room v.json = some v :=
      Value.ofJson?_json (h v rfl) .direct (hparts _ List.mem_cons_self)
    rw [json, ofJson?, Json.alternative?_tagged]
    simp [hread]

/-- A field whose floats all satisfy `p`, in its type and in its default. -/
structure Field.Floats (p : Double → Prop) (f : Field) : Prop where
  type : ∀ t, f.type = some t → t.Floats p
  default : f.default.Floats p

namespace Field

variable {room : Nat}

/-- A type is no null, so it is read as a type. -/
theorem typeOfJson?_json {t : TypeExpr} (h : t.Floats fun x => x.isFinite)
    (hroom : t.json.isLegible room) : typeOfJson? room t.json = some (some t) := by
  have hnull : t.json ≠ .null := by cases t <;> nofun
  rw [typeOfJson?, TypeExpr.ofJson?_json h .direct hroom, Option.map_some]
  exact hnull

/-- A field whose floats are finite is read from its JSON. -/
theorem ofJson?_json {f : Field} (h : f.Floats fun x => x.isFinite)
    (hroom : f.json.isLegible room) : ofJson? room f.json = some f := by
  obtain ⟨room, rfl, hparts⟩ := Json.isLegible_obj hroom
  obtain ⟨name, type, default⟩ := f
  -- The three keys are distinct, so each part is found under its own.
  have hdefault : FieldDefault.ofJson? room default.json = some default :=
    FieldDefault.ofJson?_json h.default (hparts ("default", default.json) (by simp))
  cases type with
  | none =>
    simp [json, ofJson?, Json.required?, Json.single?, Json.str?, typeOfJson?, hdefault]
  | some t =>
    have htype : typeOfJson? room t.json = some (some t) :=
      typeOfJson?_json (h.type t rfl) (hparts ("type", t.json) (by simp))
    simp [json, ofJson?, Json.required?, Json.single?, Json.str?, htype, hdefault]

end Field

namespace Schema

/-- The JSON of a name and a list of fields, which may make no schema. -/
def document (name : String) (fields : List Field) : Json :=
  .obj [("name", .str name), ("fields", .arr (fields.map Field.json))]

/-- The name and the fields of a document are read from it. -/
theorem partsOfJson?_document {name : String} {fields : List Field} {room : Nat}
    (h : ∀ f ∈ fields, f.Floats fun x => x.isFinite)
    (hroom : (document name fields).isLegible room) :
    partsOfJson? room (document name fields) = some (name, fields) := by
  obtain ⟨room, rfl, hparts⟩ := Json.isLegible_obj hroom
  have hread : Json.items? Field.ofJson? room (.arr (fields.map Field.json)) = some fields :=
    Json.items?_map (fun f hf => Field.ofJson?_json (h f hf))
      (hparts ("fields", .arr (fields.map Field.json)) (by simp))
  simp [document, partsOfJson?, Json.required?, Json.single?, Json.str?, hread]

end Schema

end RecordForms
