import RecordForms.Schema.Basic

/-!
# Defaults between frameworks and schemas

Each framework has its own token for "no default"; a schema has one.  Here a slot is read into a
schema's default, and a schema's default is put into a slot.

## Main definitions

* `Framework.absenceToken`: the token that a framework uses
* `Framework.readDefault`: what a slot means
* `Framework.writeDefault`: the slot for a default
-/

namespace RecordForms.Framework

/-- The token that the framework uses for "no default". -/
def absenceToken : Framework → AbsenceToken
  | attrs => .nothing
  | dataclasses => .missing
  | msgspec => .noDefault
  | namedTuple => .notPresent
  | pydanticV1 => .pydanticUndefined
  | pydanticV2 => .pydanticUndefined
  | typedDict => .notPresent

/-- Whether the framework reports `None` for a field without a default, so that the two cannot be
told apart. -/
def readsNoneAsAbsent (f : Framework) : Bool :=
  f = pydanticV1

/-- What a slot means.  The framework's own token is "no default"; a token of another framework is
refused, and so is a factory whose value is not known without calling it. -/
def readDefault (f : Framework) (record field : String) :
    DefaultSlot → Except RecordError FieldDefault
  | .token t =>
    if t = f.absenceToken then .ok .absent
    else .error (.unsupportedMember record field (.foreignToken f t))
  | .value v =>
    if v = .none ∧ f.readsNoneAsAbsent then .ok .absent else .ok (.value v)
  | .factory path =>
    match emptyOfFactory? path with
    | some v => .ok (.value v)
    | none => .error (.unsupportedMember record field (.unknownFactory path))

/-- The slot for a default. -/
def writeDefault (f : Framework) : FieldDefault → DefaultSlot
  | .absent => .token f.absenceToken
  | .value v => .value v

/-- The token that a framework writes for "no default" it also reads as such. -/
theorem readDefault_absenceToken (f : Framework) (record field : String) :
    f.readDefault record field (.token f.absenceToken) = .ok .absent := by
  simp [readDefault]

end RecordForms.Framework
