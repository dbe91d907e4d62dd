import RecordForms.Proofs.Json.Parts
import RecordForms.Proofs.Number.Digits

/-!
# Values as JSON

A value whose floats are finite is read from its JSON, whether it is read as the text is taken in or
afterwards, as long as its arrays and objects may be entered.

## Main definitions

* `Value.Floats p`: the values whose floats all satisfy `p`, at any depth

## Main results

* `Value.ofJson?_json`: a value is read from its JSON
-/

namespace RecordForms

namespace Value

open Json (Access)

/-- The values whose floats all satisfy `p`, at any depth. -/
inductive Floats (p : Double → Prop) : Value → Prop
  | none : Floats p none
  | bool (b : Bool) : Floats p (bool b)
  | int (n : Int64) : Floats p (int n)
  | float {x : Double} (hx : p x) : Floats p (float x)
  | str (s : String) : Floats p (str s)
  | bytes (bs : List UInt8) : Floats p (bytes bs)
  | ellipsis : Floats p ellipsis
  | tuple {vs : List Value} (hvs : ∀ v ∈ vs, Floats p v) : Floats p (tuple vs)
  | list {vs : List Value} (hvs : ∀ v ∈ vs, Floats p v) : Floats p (list vs)
  | dict {ps : List (Value × Value)} (hkeys : ∀ e ∈ ps, Floats p e.1)
      (hvalues : ∀ e ∈ ps, Floats p e.2) : Floats p (dict ps)
  | set {vs : List Value} (hvs : ∀ v ∈ vs, Floats p v) : Floats p (set vs)
  | frozenSet {vs : List Value} (hvs : ∀ v ∈ vs, Floats p v) : Floats p (frozenSet vs)
  | symbol (path : String) : Floats p (symbol path)

theorem itemsJson_eq_map (vs : List Value) : itemsJson vs = vs.map json := by
  induction vs with
  | nil => rfl
  | cons v vs ih => rw [itemsJson, ih, List.map_cons]

theorem pairsJson_eq_map (ps : List (Value × Value)) :
    pairsJson ps = ps.map fun p => .arr [p.1.json, p.2.json] := by
  induction ps with
  | nil => rfl
  | cons p ps ih => rw [pairsJson, ih, List.map_cons]

variable {a : Access} {room : Nat}

/-- A value is read from its content where its tag is written before it. -/
theorem ofJson?_tagged {kind : String} {content : Json} {v : Value}
    (h : ∀ room, content.isLegible room → ofContent? a kind room (some content) = some v)
    (hroom : (Json.tagged kind content).isLegible room) :
    ofJson? a room (.tagged kind content) = some v := by
  obtain ⟨room, rfl, hparts⟩ := Json.isLegible_ofParts hroom
  have hcontent : content.isLegible room := hparts _ List.mem_cons_self
  rw [ofJson?, Json.alternative?_tagged]
  exact h room hcontent

theorem ofJson?_bare {kind : String} {v : Value}
    (h : ∀ room, ofContent? a kind room .none = some v)
    (hroom : (Json.ofParts kind []).isLegible room) :
    ofJson? a room (.ofParts kind []) = some v := by
  obtain ⟨room, rfl, -⟩ := Json.isLegible_ofParts hroom
  rw [ofJson?, Json.alternative?_bare]
  exact h room

/-- A container is read from its items. -/
theorem ofContent?_container {kind : String} {make : List Value → Value} {vs : List Value}
    (hmake : containerOf? kind = some make)
    (h : ∀ v ∈ vs, ∀ {room}, v.json.isLegible room → ofJson? a room v.json = some v)
    (hroom : (Json.arr (itemsJson vs)).isLegible room) :
    ofContent? a kind room (some (.arr (itemsJson vs))) = some (make vs) := by
  rw [itemsJson_eq_map] at hroom ⊢
  obtain ⟨room, rfl, hitems⟩ := Json.isLegible_arr hroom
  have hread : (vs.map json).mapM (ofJson? a room) = some vs :=
    mapM_map_eq_some fun v hv => h v hv (hitems _ (List.mem_map_of_mem hv))
  rw [ofContent?, hmake]
  simp only [hread, Option.map_some]

/-- A pair is read from its key and its value. -/
theorem ofPair?_json {p : Value × Value}
    (hkey : ∀ {room}, p.1.json.isLegible room → ofJson? a room p.1.json = some p.1)
    (hvalue : ∀ {room}, p.2.json.isLegible room → ofJson? a room p.2.json = some p.2)
    (hroom : (Json.arr [p.1.json, p.2.json]).isLegible room) :
    ofPair? a room (.arr [p.1.json, p.2.json]) = some p := by
  obtain ⟨room, rfl, hparts⟩ := Json.isLegible_arr hroom
  rw [ofPair?, hkey (hparts _ (by simp)), hvalue (hparts _ (by simp))]

/-- A dict is read from its pairs. -/
theorem ofContent?_dict {ps : List (Value × Value)}
    (hkeys : ∀ p ∈ ps, ∀ {room}, p.1.json.isLegible room → ofJson? a room p.1.json = some p.1)
    (hvalues : ∀ p ∈ ps, ∀ {room}, p.2.json.isLegible room → ofJson? a room p.2.json = some p.2)
    (hroom : (Json.arr (pairsJson ps)).isLegible room) :
    ofContent? a "dict" room (some (.arr (pairsJson ps))) = some (dict ps) := by
  rw [pairsJson_eq_map] at hroom ⊢
  obtain ⟨room, rfl, hpairs⟩ := Json.isLegible_arr hroom
  have hread : (ps.map fun p => Json.arr [p.1.json, p.2.json]).mapM (ofPair? a room) = some ps :=
    mapM_map_eq_some fun p hp =>
      ofPair?_json (hkeys p hp) (hvalues p hp) (hpairs _ (List.mem_map_of_mem hp))
  have hmake : containerOf? "dict" = .none := by decide
  rw [ofContent?, hmake]
  simp only [hread, Option.map_some, if_true]

theorem byte?_toNat (b : UInt8) : byte? (.int b.toNat) = some b := by
  have hb : b.toNat < 256 := b.toNat_lt
  rw [byte?, if_pos (by simp; omega)]
  simp

/-- Bytes are read one by one. -/
theorem ofContent?_bytes {bs : List UInt8}
    (hroom : (Json.arr (bs.map fun b => .int b.toNat)).isLegible room) :
    ofContent? a "bytes" room (some (.arr (bs.map fun b => .int b.toNat))) = some (bytes bs) := by
  obtain ⟨room, rfl, -⟩ := Json.isLegible_arr hroom
  have hread : (bs.map fun b => Json.int b.toNat).mapM byte? = some bs :=
    mapM_map_eq_some fun b _ => byte?_toNat b
  have hmake : containerOf? "bytes" = .none := by decide
  rw [ofContent?, hmake]
  simp only [ofScalar?, Json.items?, hread, Option.map_some]
  rfl

/-- A value whose floats are finite is read from its JSON. -/
theorem ofJson?_json {v : Value} (h : v.Floats fun x => x.isFinite) (a : Access) {room : Nat}
    (hroom : v.json.isLegible room) : ofJson? a room v.json = some v := by
  -- Every level of a value enters the object of its tag, and the room left is enough for what the
  -- value holds.
  induction h generalizing room with
  | none => exact ofJson?_bare (fun _ => by simp [ofContent?, ofScalar?, ofNothing?]) hroom
  | ellipsis => exact ofJson?_bare (fun _ => by simp [ofContent?, ofScalar?, ofNothing?]) hroom
  | bool b => exact ofJson?_tagged (fun _ _ => by simp [ofContent?, ofScalar?]) hroom
  | int n =>
    exact ofJson?_tagged (fun _ _ => by simp [ofContent?, ofScalar?, Number.int64?_toInt]) hroom
  | float hx =>
    rw [json, floatJson, if_pos hx] at hroom ⊢
    exact ofJson?_tagged (fun _ _ => by simp [ofContent?, ofScalar?]) hroom
  | str s => exact ofJson?_tagged (fun _ _ => by simp [ofContent?, ofScalar?]) hroom
  | symbol path => exact ofJson?_tagged (fun _ _ => by simp [ofContent?, ofScalar?]) hroom
  | bytes bs => exact ofJson?_tagged (fun _ => ofContent?_bytes) hroom
  | tuple hvs ih => exact ofJson?_tagged (fun _ => ofContent?_container rfl ih) hroom
  | list hvs ih => exact ofJson?_tagged (fun _ => ofContent?_container rfl ih) hroom
  | set hvs ih => exact ofJson?_tagged (fun _ => ofContent?_container rfl ih) hroom
  | frozenSet hvs ih => exact ofJson?_tagged (fun _ => ofContent?_container rfl ih) hroom
  | dict hkeys hvalues ihkeys ihvalues =>
    exact ofJson?_tagged (fun _ => ofContent?_dict ihkeys ihvalues) hroom

end Value

end RecordForms
