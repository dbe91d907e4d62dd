import RecordForms.Scan.Field
import RecordForms.Scan.Unit
import RecordForms.Schema.Basic

/-!
# Records in a source file

A class with a marker, or a call that makes a dataclass, is a record.  Its markers are counted, its
configuration is kept as it is written, and its fields are read one after another.

## Main definitions

* `ConfigOption`, `ScannedRecord`: configuration as written, and a record of a source file
* `Scan.readMarkers`: the framework of a class and the options of its decorator
* `Scan.readMember`: what a statement in the body of a record contributes
* `Scan.readClass`, `Scan.readFunctional`: the two forms of a record
* `Scan.records`, `Scan.schemas`: the records of a source file, and their schemas
-/

namespace RecordForms

/-- An option of a record as it is written. -/
structure ConfigOption where
  name : String
  value : Expr
  deriving Repr

/-- A record in a source file. -/
structure ScannedRecord where
  framework : Framework
  schema : Schema
  /-- The options are kept as they are and have no influence on the schema. -/
  options : List ConfigOption
  span : Span
  deriving Repr

namespace Scan

/-- The options that arguments are. -/
def readOptions (span : Span) : List (Keyword Expr) → Except ScanError (List ConfigOption)
  | [] => .ok []
  | ⟨none, value⟩ :: _ => .error (.expr value span .optionTable)
  | ⟨some name, value⟩ :: ks => do
    let options ← readOptions span ks
    .ok (⟨name, value⟩ :: options)

/-- A decorator without its arguments. -/
def decoratorName : Expr → Expr
  | .call func _ _ => func
  | e => e

/-- The framework that a decorator is a marker of. -/
def decoratorMarker? (e : Expr) : Option Framework :=
  (decoratorName e).dottedName?.bind Marker.decorator?

/-- The framework that a base is a marker of. -/
def baseMarker? (e : Expr) : Option Framework :=
  e.headName?.bind Marker.base?

/-- The options of a decorator, which takes arguments by name only. -/
def decoratorOptions (span : Span) : Expr → Except ScanError (List ConfigOption)
  | .call _ (arg :: _) _ => .error (.expr arg span .positionalOption)
  | .call _ [] keywords => readOptions span keywords
  | _ => .ok []

/-- The framework of a class and the options of its decorator, after the decorators; those that are
no markers are passed over. -/
def readDecorators (span : Span) (found : Option Framework) (options : List ConfigOption) :
    List Expr → Except ScanError (Option Framework × List ConfigOption)
  | [] => .ok (found, options)
  | e :: es =>
    match decoratorMarker? e, found with
    | none, _ => readDecorators span found options es
    | some _, some _ => .error (.expr e span .secondMarker)
    | some f, none => do
      let given ← decoratorOptions span e
      readDecorators span (some f) (options ++ given) es

/-- The framework of a class after its bases; those that are no markers are passed over. -/
def readBases (span : Span) (found : Option Framework) :
    List Expr → Except ScanError (Option Framework)
  | [] => .ok found
  | e :: es =>
    match baseMarker? e, found with
    | none, _ => readBases span found es
    | some _, some _ => .error (.expr e span .secondMarker)
    | some f, none => readBases span (some f) es

/-- The framework of a class, if it has a marker, and the options of its decorator. -/
def readMarkers (c : ClassDef) : Except ScanError (Option Framework × List ConfigOption) := do
  let (found, options) ← readDecorators c.span none [] c.decorators
  let found ← readBases c.span found c.bases
  .ok (found, options)

/-- Whether a base of a record is known to bring no fields of its own. -/
def isKnownBase (e : Expr) : Bool :=
  (baseMarker? e).isSome || e.headName?.any Marker.isNeutralBase

/-- Refuses the first base that may bring fields. -/
def checkBases (span : Span) (bases : List Expr) : Except ScanError Unit :=
  match bases.find? fun e => !isKnownBase e with
  | some e => .error (.expr e span .unknownBase)
  | none => .ok ()

/-- Whether the keys of a class are required unless they say otherwise. -/
def readTotal (f : Framework) (c : ClassDef) : Except ScanError Bool :=
  if f = .typedDict then
    match c.keywords.find? fun k => k.arg == some "total" with
    | none => .ok true
    | some ⟨_, .constant (.bool total)⟩ => .ok total
    | some k => .error (.expr k.value c.span .totalNotBool)
  else .ok true

/-- What a statement in the body of a record contributes. -/
inductive Member where
  | nothing
  | field (f : Field)
  | option (o : ConfigOption)
  deriving Repr

/-- What a declaration contributes. -/
def Member.ofField? : Option Field → Member
  | some f => field f
  | none => nothing

/-- The field that a member is. -/
def Member.field? : Member → Option Field
  | field f => some f
  | _ => none

/-- The option that a member is. -/
def Member.option? : Member → Option ConfigOption
  | option o => some o
  | _ => none

/-- What an assignment in the body of a record contributes: a field of an attrs class that is
described by a call, or the configuration of a pydantic model. -/
def readAssignment (p : Place) (targets : List Expr) (value : Expr) (span : Span) :
    Except ScanError Member :=
  match targets, value with
  | [.name id], .call func args keywords =>
    if p.framework = .attrs && p.isSpecifier func then
      let type := (keywords.find? fun k => k.arg == some "type").map Keyword.value
      (p.readField (.name id) type (some (.call func args keywords)) span).map Member.ofField?
    else config id
  | [.name id], _ => config id
  | _, _ => unread
where
  /-- The error for a statement that is not read. -/
  unread : Except ScanError Member :=
    .error (.stmt (.assign targets value span) .bodyStatement)
  /-- The configuration of a pydantic model. -/
  config (id : String) : Except ScanError Member :=
    if p.framework = .pydanticV2 ∧ id = "model_config" then .ok (.option ⟨id, value⟩) else unread

/-- What a statement in the body of a record contributes.  Methods, nested classes and texts
contribute nothing. -/
def readMember (p : Place) : Stmt → Except ScanError Member
  | .annAssign target annotation value span =>
    (p.readField target (some annotation) value span).map Member.ofField?
  | .assign targets value span => readAssignment p targets value span
  | .functionDef .. | .classDef _ | .pass _ | .expr (.constant (.str _)) _
  | .expr (.constant .ellipsis) _ => .ok .nothing
  | s => .error (.stmt s .bodyStatement)

/-- What the statements in the body of a record contribute. -/
def readMembers (p : Place) : List Stmt → Except ScanError (List Member)
  | [] => .ok []
  | s :: ss => do
    let m ← readMember p s
    let ms ← readMembers p ss
    .ok (m :: ms)

/-- The schema of the fields that were read. -/
def schemaOf (name : String) (fields : List Field) : Except ScanError Schema :=
  (Schema.ofFields? name fields).mapError .record

/-- The record that a class with a marker is. -/
def readMarked (scope : Namespace) (c : ClassDef) (f : Framework) (options : List ConfigOption) :
    Except ScanError ScannedRecord := do
  checkBases c.span c.bases
  let arguments ← readOptions c.span c.keywords
  let total ← readTotal f c
  let members ← readMembers ⟨f, c.name, scope, total⟩ c.body
  let schema ← schemaOf c.name (members.filterMap Member.field?)
  .ok ⟨f, schema, options ++ arguments ++ members.filterMap Member.option?, c.span⟩

/-- The record that a class is, if it has a marker. -/
def readClass (scope : Namespace) (c : ClassDef) : Except ScanError (Option ScannedRecord) := do
  match ← readMarkers c with
  | (none, _) => .ok none
  | (some f, options) => (readMarked scope c f options).map some

/-- The type of a field of which only the name is given. -/
def untyped : TypeExpr :=
  .name "typing.Any"

/-- The field that an entry of a list of fields is: a name, or a name with a type and perhaps a
default. -/
def readEntry (p : Place) (span : Span) : Expr → Except ScanError (Option Field)
  | .constant (.str name) => .ok (some ⟨name, some untyped, .absent⟩)
  | .tuple [.constant (.str name), type] => p.readField (.name name) (some type) none span
  | .tuple [.constant (.str name), type, value] =>
    p.readField (.name name) (some type) (some value) span
  | .tuple items => .error (.expr (.tuple items) span .entryForm)
  | e => .error (.expr e span .notEntry)

/-- The fields that entries are. -/
def readEntries (p : Place) (span : Span) : List Expr → Except ScanError (List Field)
  | [] => .ok []
  | e :: es => do
    let f ← readEntry p span e
    let fs ← readEntries p span es
    .ok (f.toList ++ fs)

/-- The name and the entries of a call that makes a record. -/
def functionalParts? : List Expr → Option (String × List Expr)
  | [.constant (.str name), .list entries] => some (name, entries)
  | [.constant (.str name), .tuple entries] => some (name, entries)
  | _ => none

/-- The record that a call makes, whose arguments are a name and entries. -/
def readMade (scope : Namespace) (name : String) (entries : List Expr)
    (keywords : List (Keyword Expr)) (span : Span) : Except ScanError ScannedRecord := do
  let fields ← readEntries ⟨.dataclasses, name, scope, true⟩ span entries
  let schema ← schemaOf name fields
  let options ← readOptions span keywords
  .ok ⟨.dataclasses, schema, options, span⟩

/-- The record that an assignment is, if its value is a call that makes a dataclass. -/
def readFunctional (scope : Namespace) (targets : List Expr) (value : Expr) (span : Span) :
    Except ScanError (Option ScannedRecord) :=
  match value with
  | .call func args keywords =>
    if func.dottedName?.any Marker.isMakeDataclass then
      match targets with
      | [.name _] =>
        match functionalParts? args with
        | some (name, entries) => (readMade scope name entries keywords span).map some
        | none => .error (.expr value span .functionalForm)
      | _ => .error (.expr value span .functionalTarget)
    else .ok none
  | _ => .ok none

/-- The record that a statement is, if it is one. -/
def readRecord (scope : Namespace) : Stmt → Except ScanError (Option ScannedRecord)
  | .classDef c => readClass scope c
  | .assign targets value span => readFunctional scope targets value span
  | _ => .ok none

/-- The records among statements. -/
def readRecords (scope : Namespace) : List Stmt → Except ScanError (List ScannedRecord)
  | [] => .ok []
  | s :: ss => do
    let r ← readRecord scope s
    let rs ← readRecords scope ss
    .ok (r.toList ++ rs)

/-- The records at the top of a source file, in order. -/
def records (body : List Stmt) : Except ScanError (List ScannedRecord) :=
  readRecords (namespaceOf body) body

/-- The schemas of the records at the top of a source file, in order. -/
def schemas (body : List Stmt) : Except ScanError (List Schema) :=
  (records body).map fun rs => rs.map ScannedRecord.schema

end Scan

end RecordForms
