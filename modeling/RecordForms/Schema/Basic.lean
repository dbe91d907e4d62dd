import RecordForms.Error

/-!
# Schemas

What all frameworks have in common: a record has a name and fields in order, and a field has a name,
perhaps a type, and perhaps a default.  In a schema there is one way to have no default, whatever
token a framework uses for it.

## Main definitions

* `FieldDefault`, `Field`: defaults and fields
* `Schema`: the schemas, in which no two fields have one name
* `Schema.ofFields?`: the schema of a list of fields
* `Schema.field?`: the field with a name
* `Schema.orderViolation?`: the first required field after a default

## Main results

* `firstRepeated_eq_none_iff`: nothing is repeated exactly if the names are distinct
* `Schema.ofFields?_eq_ok_iff`: the schema of a list of fields has these fields
-/

namespace RecordForms

/-- The default of a field. -/
inductive FieldDefault where
  /-- The field has to be given. -/
  | absent
  | value (v : Value)
  deriving DecidableEq, Repr, Inhabited

namespace FieldDefault

/-- Equality of defaults, floats by value. -/
def equals : FieldDefault → FieldDefault → Bool
  | absent, absent => true
  | value a, value b => a.equals b
  | _, _ => false

/-- Whether there is a default. -/
def isPresent : FieldDefault → Bool
  | absent => false
  | value _ => true

end FieldDefault

/-- A field of a record. -/
structure Field where
  name : String
  type : Option TypeExpr
  default : FieldDefault
  deriving DecidableEq, Repr, Inhabited

namespace Field

/-- Whether the field has a default. -/
def hasDefault (f : Field) : Bool :=
  f.default.isPresent

/-- Equality of fields, floats by value. -/
def equals (a b : Field) : Bool :=
  a.name == b.name && a.default.equals b.default &&
    match a.type, b.type with
    | none, none => true
    | some s, some t => s.equals t
    | _, _ => false

end Field

/-- The first name of a list that has occurred before it, in the list or among the names seen. -/
def firstRepeated (seen : List String) : List String → Option String
  | [] => none
  | n :: ns => if n ∈ seen then some n else firstRepeated (n :: seen) ns

/-- Nothing is repeated exactly if the names are distinct, from each other and from those seen. -/
theorem firstRepeated_eq_none_iff {seen names : List String} :
    firstRepeated seen names = none ↔ names.Nodup ∧ ∀ n ∈ names, n ∉ seen := by
  induction names generalizing seen with
  | nil => simp [firstRepeated]
  | cons n ns ih =>
    unfold firstRepeated
    split
    · rename_i h
      simp [h]
    · rename_i h
      rw [ih]
      simp only [List.nodup_cons, List.mem_cons, not_or]
      constructor
      · rintro ⟨hns, hall⟩
        exact ⟨⟨fun hn => (hall n hn).1 rfl, hns⟩,
          fun m hm => hm.elim (fun e => e ▸ h) fun hm => (hall m hm).2⟩
      · rintro ⟨⟨hn, hns⟩, hall⟩
        exact ⟨hns, fun m hm => ⟨fun e => hn (e ▸ hm), hall m (Or.inr hm)⟩⟩

/-- A record as all frameworks see it. -/
structure Schema where
  name : String
  fields : List Field
  /-- No two fields have one name. -/
  nodup : (fields.map Field.name).Nodup
  deriving DecidableEq, Repr

namespace Schema

theorem ext {s t : Schema} (hn : s.name = t.name) (hf : s.fields = t.fields) : s = t := by
  cases s
  cases t
  simp_all

/-- The schema with these fields, or the first name that two of them have. -/
def ofFields? (name : String) (fields : List Field) : Except RecordError Schema :=
  match h : firstRepeated [] (fields.map Field.name) with
  | none => .ok ⟨name, fields, (firstRepeated_eq_none_iff.mp h).1⟩
  | some field => .error (.duplicateField name field)

/-- Fields with distinct names make a schema, and it has these fields. -/
theorem ofFields?_eq_ok_iff {name : String} {fields : List Field} {s : Schema} :
    ofFields? name fields = .ok s ↔ s.name = name ∧ s.fields = fields := by
  unfold ofFields?
  split
  · rename_i h
    rw [Except.ok.injEq]
    constructor
    · rintro rfl
      exact ⟨rfl, rfl⟩
    · rintro ⟨hn, hf⟩
      exact ext hn.symm hf.symm
  · rename_i h
    constructor
    · nofun
    · rintro ⟨-, rfl⟩
      have hnone := firstRepeated_eq_none_iff.mpr ⟨s.nodup, fun n _ => List.not_mem_nil⟩
      rw [h] at hnone
      cases hnone

/-- The field with a name. -/
def field? (s : Schema) (name : String) : Option Field :=
  s.fields.find? fun f => f.name = name

/-- The names of the fields, in order. -/
def fieldNames (s : Schema) : List String :=
  s.fields.map Field.name

/-- Equality of schemas, floats by value. -/
def equals (s t : Schema) : Bool :=
  s.name == t.name && s.fields.length == t.fields.length &&
    (s.fields.zip t.fields).all fun (f, g) => f.equals g

end Schema

/-- The first field without a default after one with a default, and the last one with a default
before it, where `last` is the last one so far. -/
def violation? (last : Option Field) : List Field → Option (Field × Field)
  | [] => none
  | f :: fs =>
    if f.hasDefault then violation? (some f) fs
    else match last with
      | some d => some (f, d)
      | none => violation? none fs

/-- The first required field after a field with a default, and the field with a default that it
follows. -/
def Schema.orderViolation? (s : Schema) : Option (Field × Field) :=
  violation? none s.fields

end RecordForms
