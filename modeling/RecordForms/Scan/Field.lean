import RecordForms.Default.Canonical
import RecordForms.Scan.Error
import RecordForms.Scan.Markers

/-!
# Fields in a source file

Reading a field from its target, its annotation and its value, without evaluating anything.

## Main definitions

* `Expr.literal?`: the value of an expression that is a literal, a name or a container of such
* `Expr.headName?`: the name that an annotation or a base begins with
* `Scan.Place`: what is known about the record that a field belongs to
* `Scan.Place.readType`: the type that an annotation is
* `Scan.Place.readSlot`: the default that a value is
* `Scan.Place.readField`: the field, if the target is one
-/

namespace RecordForms

namespace Expr

mutual

/-- The value of an expression that is a literal, perhaps with a sign, a name, or a container of
such expressions.  A number whose opposite does not fit has no value. -/
def literal? : Expr → Option Value
  | constant v => some v
  | unary .neg operand =>
    match literal? operand with
    | some (.int n) => if n = Int64.minValue then none else some (.int (-n))
    | some (.float x) => some (.float x.negate)
    | _ => none
  | unary .pos operand =>
    match literal? operand with
    | some (.int n) => some (.int n)
    | some (.float x) => some (.float x)
    | _ => none
  | name id => some (.symbol id)
  | attr value member => (attr value member).dottedName?.map .symbol
  | tuple items => (literals? items).map .tuple
  | list items => (literals? items).map .list
  | set items => (literals? items).map .set
  | dict pairs => (literalPairs? pairs).map .dict
  | _ => none

/-- The values of expressions, if all of them have one. -/
def literals? : List Expr → Option (List Value)
  | [] => some []
  | e :: es =>
    match literal? e, literals? es with
    | some v, some vs => some (v :: vs)
    | _, _ => none

/-- The values of pairs of expressions, if all of them have one. -/
def literalPairs? : List (Expr × Expr) → Option (List (Value × Value))
  | [] => some []
  | (k, v) :: rest =>
    match literal? k, literal? v, literalPairs? rest with
    | some k, some v, some rest => some ((k, v) :: rest)
    | _, _, _ => none

end

/-- The name that an annotation or a base begins with, also if it is quoted. -/
def headName? : Expr → Option String
  | subscript value _ => value.dottedName?
  | constant (.str text) =>
    let head := Text.trim (text.toList.takeWhile (· ≠ '['))
    if head.isEmpty then none else some (String.ofList head)
  | e => e.dottedName?

/-- The expressions in a subscript. -/
def subscripts : Expr → List Expr
  | tuple items => items
  | e => [e]

/-- Whether the expression is the constant `False`. -/
def isFalse : Expr → Bool
  | constant (.bool false) => true
  | _ => false

end Expr

namespace Scan

/-- What is known about the record that a field belongs to. -/
structure Place where
  framework : Framework
  record : String
  scope : Namespace
  /-- Whether the keys of a typed dict are required unless they say otherwise. -/
  total : Bool := true

/-- The values of the arguments of a literal type. -/
def readLiteralItems (span : Span) : List Expr → Except ScanError (List Value)
  | [] => .ok []
  | e :: es =>
    match e.literal? with
    | some v => do
      let vs ← readLiteralItems span es
      .ok (v :: vs)
    | none => .error (.expr e span .literalArgument)

/-- The members that a type contributes to a union. -/
def unionMembers : TypeExpr → List TypeExpr
  | .union members => members
  | t => [t]

namespace Place

mutual

/-- The type that an annotation is.  A quoted annotation is resolved among the names of the source
file; any other is taken as it stands, and unions in unions are made flat. -/
def readType (p : Place) (field : String) (span : Span) : Expr → Except ScanError TypeExpr
  | .constant .none => .ok .noneType
  | .constant (.str reference) =>
    match p.scope.resolve reference with
    | .ok t => .ok t
    | .error e => .error (.record (.typeResolution p.record field reference e))
  | .name id => .ok (.name id)
  | .attr value member =>
    match (Expr.attr value member).dottedName? with
    | some path => .ok (.name path)
    | none => .error (.expr (.attr value member) span .notTypeName)
  | .subscript value (.tuple items) =>
    match value.dottedName? with
    | none => .error (.expr value span .subscriptNotName)
    | some origin =>
      if isLiteralOrigin origin then do
        let values ← readLiteralItems span items
        .ok (.literal origin values)
      else do
        let args ← readTypes p field span items
        .ok (.generic origin args)
  | .subscript value slice =>
    match value.dottedName? with
    | none => .error (.expr value span .subscriptNotName)
    | some origin =>
      if isLiteralOrigin origin then do
        let values ← readLiteralItems span [slice]
        .ok (.literal origin values)
      else do
        let arg ← readType p field span slice
        .ok (.generic origin [arg])
  | .bitOr left right => do
    let l ← readType p field span left
    let r ← readType p field span right
    .ok (.union (unionMembers l ++ unionMembers r))
  | e => .error (.expr e span .notType)

/-- The types that annotations are. -/
def readTypes (p : Place) (field : String) (span : Span) :
    List Expr → Except ScanError (List TypeExpr)
  | [] => .ok []
  | e :: es => do
    let t ← readType p field span e
    let ts ← readTypes p field span es
    .ok (t :: ts)

end

/-- The slot of a field without a default. -/
def absent (p : Place) : DefaultSlot :=
  .token p.framework.absenceToken

/-- The slot of a value that is a literal.  In a pydantic model `...` marks a required field. -/
def literalSlot (p : Place) (span : Span) (e : Expr) : Except ScanError DefaultSlot :=
  match e.literal? with
  | some v => if v = .ellipsis ∧ p.framework = .pydanticV2 then .ok p.absent else .ok (.value v)
  | none => .error (.expr e span .notConstant)

/-- The slot of a factory, which is given by its name. -/
def factorySlot (span : Span) (e : Expr) : Except ScanError DefaultSlot :=
  match e.dottedName? with
  | some path => .ok (.factory path)
  | none => .error (.expr e span .factoryNotName)

/-- The slot of a call that wraps a factory: one argument and nothing else. -/
def wrappedSlot (span : Span) (call : Expr) (args : List Expr) (keywords : List (Keyword Expr)) :
    Except ScanError DefaultSlot :=
  match args, keywords with
  | [factory], [] => factorySlot span factory
  | _, _ => .error (.expr call span .factoryForm)

/-- Whether `func` is one of the calls that describe a field of this record. -/
def isSpecifier (p : Place) (func : Expr) : Bool :=
  func.dottedName?.any (Marker.isSpecifier p.framework)

/-- Whether `func` is one of the calls that wrap a factory in this record. -/
def isWrapper (p : Place) (func : Expr) : Bool :=
  p.framework = .attrs && func.dottedName?.any Marker.isAttrsFactory

/-- The slot of the value of `default`, which in an attrs class may wrap a factory. -/
def defaultArgument (p : Place) (span : Span) (e : Expr) : Except ScanError DefaultSlot :=
  match e with
  | .call func args keywords =>
    if p.isWrapper func then wrappedSlot span e args keywords else p.literalSlot span e
  | _ => p.literalSlot span e

/-- The slot that an argument of a specifier gives, if it gives one. -/
def argumentSlot? (p : Place) (span : Span) (k : Keyword Expr) :
    Except ScanError (Option DefaultSlot) :=
  match k.arg with
  | none => .error (.expr k.value span .argumentTable)
  | some arg =>
    if arg = "default" then (p.defaultArgument span k.value).map some
    else if arg = "default_factory" || (arg = "factory" && p.framework = .attrs) then
      (factorySlot span k.value).map some
    else .ok none

/-- The slot that the positional arguments of a specifier give, if they give one: only pydantic
takes one. -/
def positionalSlot? (p : Place) (span : Span) :
    List Expr → Except ScanError (Option DefaultSlot)
  | [] => .ok none
  | [e] =>
    if p.framework = .pydanticV2 then (p.literalSlot span e).map some
    else .error (.expr e span .extraPositional)
  | _ :: e :: _ => .error (.expr e span .extraPositional)

/-- The slot that arguments give after `given`, of which there may be one at most. -/
def argumentsSlot (p : Place) (span : Span) (call : Expr) (given : Option DefaultSlot) :
    List (Keyword Expr) → Except ScanError (Option DefaultSlot)
  | [] => .ok given
  | k :: ks => do
    match ← p.argumentSlot? span k, given with
    | none, given => argumentsSlot p span call given ks
    | some slot, none => argumentsSlot p span call (some slot) ks
    | some _, some _ => .error (.expr call span .repeatedDefault)

/-- The slot of a call that describes a field. -/
def specifierSlot (p : Place) (span : Span) (call : Expr) (args : List Expr)
    (keywords : List (Keyword Expr)) : Except ScanError DefaultSlot := do
  let given ← p.positionalSlot? span args
  let given ← p.argumentsSlot span call given keywords
  .ok (given.getD p.absent)

/-- The slot of the value of a field. -/
def readSlot (p : Place) (span : Span) (e : Expr) : Except ScanError DefaultSlot :=
  match e with
  | .call func args keywords =>
    if p.isSpecifier func then p.specifierSlot span e args keywords
    else if p.isWrapper func then wrappedSlot span e args keywords
    else p.literalSlot span e
  | _ => p.literalSlot span e

/-- Whether the value of a field says that it is no parameter of the constructor. -/
def isWithoutInit (p : Place) : Expr → Bool
  | .call func _ keywords =>
    (p.framework = .attrs || p.framework = .dataclasses) && p.isSpecifier func &&
      keywords.any fun k => k.arg == some "init" && k.value.isFalse
  | _ => false

/-- An annotation of a typed dict without the qualifier that makes its key required.  Keys that may
be missing and keys with a default are refused. -/
def unqualified (p : Place) (field : String) (declared value : Option Expr) (span : Span) :
    Except ScanError (Option Expr) :=
  let head := declared.bind Expr.headName?
  let isRequired := head.any Marker.isRequired
  if head.any Marker.isNotRequired || (!p.total && !isRequired) then
    .error (.record (.unsupportedMember p.record field .optionalKey))
  else
    match value with
    | some value => .error (.expr value span .keyWithDefault)
    | none =>
      match declared with
      | some (.subscript _ slice) => .ok (if isRequired then some slice else declared)
      | _ => .ok declared

/-- The type of a field, if it has an annotation. -/
def readAnnotation (p : Place) (field : String) (span : Span) :
    Option Expr → Except ScanError (Option TypeExpr)
  | none => .ok none
  | some e => (p.readType field span e).map some

/-- The slot of a field.  A dataclass takes no mutable default by value. -/
def readValue (p : Place) (span : Span) : Option Expr → Except ScanError DefaultSlot
  | none => .ok p.absent
  | some e => do
    match ← p.readSlot span e with
    | .value v =>
      if p.framework = .dataclasses && v.isMutable then .error (.expr e span .mutableDefault)
      else .ok (.value v)
    | slot => .ok slot

/-- The field with a name: its type is read before its default. -/
def readNamed (p : Place) (name : String) (declared value : Option Expr) (span : Span) :
    Except ScanError Field := do
  let declared ←
    if p.framework = .typedDict then p.unqualified name declared value span else .ok declared
  if value.any p.isWithoutInit then
    .error (.record (.unsupportedMember p.record name .fieldWithoutInit))
  else do
    let type ← p.readAnnotation name span declared
    let slot ← p.readValue span value
    match p.framework.readDefault p.record name slot with
    | .ok default => .ok ⟨name, type, default⟩
    | .error e => .error (.record e)

/-- The field that a target with an annotation and a value declares; some annotations declare an
attribute of the class instead. -/
def readField (p : Place) (target : Expr) (declared value : Option Expr) (span : Span) :
    Except ScanError (Option Field) :=
  match target with
  | .name name =>
    if (declared.bind Expr.headName?).any Marker.isNonField then .ok none
    else (p.readNamed name declared value span).map some
  | _ => .error (.expr target span .targetNotName)

end Place

end Scan

end RecordForms
