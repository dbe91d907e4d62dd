import RecordForms.Json.Parser
import RecordForms.Json.Printer
import RecordForms.Schema.Basic

/-!
# Schemas as JSON

The shape of a schema in JSON.  Alternatives are told apart by a tag under `kind`: for values and
defaults it stands beside their content, for types among their parts.  Structures may also be given
as arrays of their parts in order, keys that are not known are passed over, and none that is known
may be repeated.

Where the content stands before its tag, and within types, a value is read only after all of it has
been taken in.  Then all of it has to be legible, and a tag in an array may be given by its number.

## Main definitions

* `Value.json`, `TypeExpr.json`, `Schema.json`: a value, a type and a schema as JSON
* `Schema.ofJson?`: the schema that a JSON value is
* `Schema.read`, `Schema.jsonText`: reading and writing JSON texts
-/

namespace RecordForms

/-! ### Writing -/

/-- An alternative with its tag and its parts. -/
def Json.ofParts (kind : String) (parts : List (String × Json)) : Json :=
  .obj (("kind", .str kind) :: parts)

/-- An alternative with its tag and its content. -/
def Json.tagged (kind : String) (content : Json) : Json :=
  .ofParts kind [("value", content)]

namespace Value

/-- A float as JSON, which has only finite ones. -/
def floatJson (x : Double) : Json :=
  if x.isFinite then .float x else .null

mutual

/-- A value as JSON. -/
def json : Value → Json
  | none => .ofParts "none" []
  | bool b => .tagged "bool" (.bool b)
  | int n => .tagged "int" (.int n.toInt)
  | float x => .tagged "float" (floatJson x)
  | str s => .tagged "str" (.str s)
  | bytes bs => .tagged "bytes" (.arr (bs.map fun b => .int b.toNat))
  | ellipsis => .ofParts "ellipsis" []
  | tuple items => .tagged "tuple" (.arr (itemsJson items))
  | list items => .tagged "list" (.arr (itemsJson items))
  | dict pairs => .tagged "dict" (.arr (pairsJson pairs))
  | set items => .tagged "set" (.arr (itemsJson items))
  | frozenSet items => .tagged "frozen_set" (.arr (itemsJson items))
  | symbol path => .tagged "symbol" (.str path)

/-- Values as JSON. -/
def itemsJson : List Value → List Json
  | [] => []
  | v :: vs => v.json :: itemsJson vs

/-- The entries of a dict as JSON. -/
def pairsJson : List (Value × Value) → List Json
  | [] => []
  | (k, v) :: rest => .arr [k.json, v.json] :: pairsJson rest

end

end Value

namespace TypeExpr

mutual

/-- A type as JSON. -/
def json : TypeExpr → Json
  | name path => .ofParts "name" [("path", .str path)]
  | generic origin args =>
    .ofParts "generic" [("origin", .str origin), ("args", .arr (itemsJson args))]
  | union members => .ofParts "union" [("members", .arr (itemsJson members))]
  | noneType => .ofParts "none_type" []
  | literal origin values =>
    .ofParts "literal" [("origin", .str origin), ("values", .arr (Value.itemsJson values))]

/-- Types as JSON. -/
def itemsJson : List TypeExpr → List Json
  | [] => []
  | t :: ts => t.json :: itemsJson ts

end

end TypeExpr

/-- A default as JSON. -/
def FieldDefault.json : FieldDefault → Json
  | absent => .ofParts "absent" []
  | value v => .tagged "value" v.json

/-- A field as JSON. -/
def Field.json (f : Field) : Json :=
  .obj [("name", .str f.name),
    ("type", match f.type with | some t => t.json | none => .null), ("default", f.default.json)]

/-- A schema as JSON. -/
def Schema.json (s : Schema) : Json :=
  .obj [("name", .str s.name), ("fields", .arr (s.fields.map Field.json))]

/-- The JSON text of a schema. -/
def Schema.jsonText (s : Schema) : String :=
  s.json.text

/-! ### Reading -/

namespace Json

/-- How a value is read. -/
inductive Access where
  /-- While the text is taken in. -/
  | direct
  /-- After all of it has been taken in. -/
  | buffered
  deriving DecidableEq, Repr

/-- Whether what is kept for later can be taken in. -/
def Access.admits (a : Access) (room : Nat) (j : Json) : Bool :=
  a = .buffered || j.isLegible room

/-- The tag that stands in an object beside a content: its name, or an object with the name alone
and nothing under it. -/
def tagBeside? (room : Nat) : Json → Option String
  | str s => some s
  | obj [(s, null)] => if room = 0 then none else some s
  | _ => none

/-- The tag that stands among parts: its name or, after all has been taken in, its number among the
`kinds`. -/
def tagAmong? (a : Access) (kinds : List String) : Json → Option String
  | str s => some s
  | int n => if a = .buffered ∧ 0 ≤ n then kinds[n.toNat]? else none
  | _ => none

/-- An alternative taken apart: its tag, its content and how the content is read. -/
structure Alternative where
  kind : String
  content : Option Json
  access : Access

/-- An alternative with its content beside its tag, in an object or array that has been entered,
with `room` left. -/
def alternative? (a : Access) (kinds : List String) (room : Nat) : Json → Option Alternative
  | arr [tag, content] => (tagAmong? a kinds tag).map fun kind => ⟨kind, some content, a⟩
  | obj entries => do
    let kind ← (← single? "kind" entries).bind (tagBeside? room)
    match ← single? "value" entries with
    | none => some ⟨kind, none, a⟩
    | some content =>
      let isLate := ((entries.map Prod.fst).find? fun key => key == "kind" || key == "value") ==
        some "value"
      if !isLate then some ⟨kind, some content, a⟩
      else if a.admits room content then some ⟨kind, some content, .buffered⟩
      else none
  | _ => none

/-- The items of an array, which is entered. -/
def items? {α : Type} (read : Nat → Json → Option α) : Nat → Json → Option (List α)
  | room + 1, arr items => items.mapM (read room)
  | _, _ => none

end Json

namespace Value

open Json (Access)

/-- The kinds of values. -/
def kinds : List String :=
  ["none", "bool", "int", "float", "str", "bytes", "ellipsis", "tuple", "list", "dict", "set",
    "frozen_set", "symbol"]

/-- The value without content, if the content is null or missing. -/
def ofNothing? (v : Value) : Option Json → Option Value
  | .none | some .null => some v
  | _ => .none

/-- The byte that a value is. -/
def byte? : Json → Option UInt8
  | .int n => if 0 ≤ n && n < 256 then some (UInt8.ofNat n.toNat) else .none
  | _ => .none

/-- The value of a kind that holds no other values. -/
def ofScalar? (kind : String) (room : Nat) (content : Option Json) : Option Value :=
  match kind, content with
  | "none", content => ofNothing? .none content
  | "ellipsis", content => ofNothing? .ellipsis content
  | "bool", some (.bool b) => some (.bool b)
  | "int", some (.int n) => (Number.int64? n).map .int
  | "float", some (.float x) => some (.float x)
  | "float", some (.int n) => some (.float (.ofRatio (n < 0) n.natAbs 1))
  | "str", some (.str s) => some (.str s)
  | "symbol", some (.str s) => some (.symbol s)
  | "bytes", some j => (Json.items? (fun _ => byte?) room j).map .bytes
  | _, _ => .none

/-- The container of a kind, apart from dicts. -/
def containerOf? : String → Option (List Value → Value)
  | "tuple" => some tuple
  | "list" => some list
  | "set" => some set
  | "frozen_set" => some frozenSet
  | _ => .none

mutual

/-- The value that a JSON value is. -/
def ofJson? (a : Access) : Nat → Json → Option Value
  | 0, _ => .none
  | room + 1, j =>
    match Json.alternative? a kinds room j with
    | some t => ofContent? t.access t.kind room t.content
    | .none => .none

/-- The value of a kind with a content. -/
def ofContent? (a : Access) (kind : String) : Nat → Option Json → Option Value
  | room + 1, some (.arr items) =>
    match containerOf? kind with
    | some make => (items.mapM (ofJson? a room)).map make
    | .none =>
      if kind = "dict" then (items.mapM (ofPair? a room)).map dict
      else ofScalar? kind (room + 1) (some (.arr items))
  | room, content => ofScalar? kind room content

/-- The pair of values that an array of two is. -/
def ofPair? (a : Access) : Nat → Json → Option (Value × Value)
  | room + 1, .arr [k, v] =>
    match ofJson? a room k, ofJson? a room v with
    | some k, some v => some (k, v)
    | _, _ => .none
  | _, _ => .none

end

end Value

namespace TypeExpr

open Json (Access)

/-- The kinds of types. -/
def kinds : List String :=
  ["name", "generic", "union", "none_type", "literal"]

/-- The parts that types of a kind have, in order. -/
def partNames : String → Option (List String)
  | "name" => some ["path"]
  | "generic" => some ["origin", "args"]
  | "union" => some ["members"]
  | "none_type" => some []
  | "literal" => some ["origin", "values"]
  | _ => none

/-- The kind and the parts of the type that a JSON value is, which has been entered, with `room`
left. -/
def parts? (a : Access) (room : Nat) : Json → Option (String × List Json)
  | .arr (tag :: parts) => do
    let kind ← Json.tagAmong? a kinds tag
    let names ← partNames kind
    if parts.length = names.length && parts.all (a.admits room) then some (kind, parts) else none
  | .obj entries => do
    let kind ← Json.tagAmong? a kinds (← Json.required? "kind" entries)
    let names ← partNames kind
    if (entries.filter fun p => p.1 != "kind").all fun p => a.admits room p.2 then
      let parts ← names.mapM fun name => Json.required? name entries
      some (kind, parts)
    else none
  | _ => none

/-- The type that a JSON value is. -/
def ofJson? (a : Access) : Nat → Json → Option TypeExpr
  | 0, _ => none
  | room + 1, j =>
    match parts? a room j with
    | some ("name", [.str path]) => some (.name path)
    | some ("generic", [.str origin, .arr args]) =>
      match room with
      | 0 => none
      | room + 1 => (args.mapM (ofJson? .buffered room)).map (.generic origin)
    | some ("union", [.arr members]) =>
      match room with
      | 0 => none
      | room + 1 => (members.mapM (ofJson? .buffered room)).map .union
    | some ("none_type", []) => some .noneType
    | some ("literal", [.str origin, values]) =>
      (Json.items? (Value.ofJson? .buffered) room values).map (.literal origin)
    | _ => none

end TypeExpr

/-- The default that a JSON value is. -/
def FieldDefault.ofJson? : Nat → Json → Option FieldDefault
  | 0, _ => none
  | room + 1, j =>
    match Json.alternative? .direct ["absent", "value"] room j with
    | some ⟨"absent", none, _⟩ | some ⟨"absent", some .null, _⟩ => some .absent
    | some ⟨"value", some content, a⟩ => (Value.ofJson? a room content).map .value
    | _ => none

namespace Field

/-- The type of a field, which may be null. -/
def typeOfJson? (room : Nat) : Json → Option (Option TypeExpr)
  | .null => some none
  | j => (TypeExpr.ofJson? .direct room j).map some

/-- The field that a JSON value is.  Without a type it has none. -/
def ofJson? : Nat → Json → Option Field
  | room + 1, .arr [.str name, type, default] => do
    some ⟨name, ← typeOfJson? room type, ← FieldDefault.ofJson? room default⟩
  | room + 1, .obj entries => do
    let name ← (← Json.required? "name" entries).str?
    let type ← Json.single? "type" entries
    let default ← Json.required? "default" entries
    some ⟨name, ← typeOfJson? room (type.getD .null), ← FieldDefault.ofJson? room default⟩
  | _, _ => none

end Field

namespace Schema

/-- The name and the fields of the schema that a JSON value is. -/
def partsOfJson? : Nat → Json → Option (String × List Field)
  | room + 1, .arr [.str name, fields] => do
    some (name, ← Json.items? Field.ofJson? room fields)
  | room + 1, .obj entries => do
    let name ← (← Json.required? "name" entries).str?
    some (name, ← Json.items? Field.ofJson? room (← Json.required? "fields" entries))
  | _, _ => none

/-- Why a text or a JSON value is no schema. -/
inductive Undecodable where
  /-- It does not have the shape of a schema. -/
  | malformed
  /-- It has, but there is no schema with these fields. -/
  | record (e : RecordError)
  deriving DecidableEq, Repr

/-- The schema that a JSON value is, where `room` arrays and objects may be entered one in
another. -/
def ofJson? (room : Nat) (j : Json) : Except Undecodable Schema :=
  match partsOfJson? room j with
  | some (name, fields) => (ofFields? name fields).mapError .record
  | none => .error .malformed

/-- How many arrays and objects of a text may be entered one in another. -/
def nestingLimit : Nat :=
  127

/-- The schema that a JSON text spells.  What is wrong with the schema is found before what is wrong
with the text after it. -/
def read (text : String) : Except Undecodable Schema :=
  match Json.value? text.toList with
  | none => .error .malformed
  | some (j, rest) => do
    let s ← ofJson? nestingLimit j
    if (Json.skipBlanks rest).isEmpty then .ok s else .error .malformed

end Schema

end RecordForms
