import RecordForms.Proofs.Scan.Declarations

/-!
# The defaults of a record

The default of a scanned field is taken from what is written for it: the value of the field, or an
argument of the call that describes the field.  A name is kept as a name.  The names by which the
frameworks call "no default" are no exception, so a field that is written with one of them has it as
its default, although the framework itself reports that such a field has none.

## Main definitions

* `Scan.Declaration.default?`: the value that is written for the default of a field
* `Scan.Written`: the slots that what is written is read as

## Main results

* `Scan.Place.written_readValue`: what is written decides the slot of a field
* `Scan.default_eq_symbol_iff`: the default of a field is a name just if this name is written
-/

namespace RecordForms.Scan

/-- The value of an argument, if its name is `default`. -/
def defaultArgument? (k : Keyword Expr) : Option Expr :=
  if k.arg = some "default" then some k.value else none

/-- What stands for the default in a call that describes a field: its first positional argument, or
the one with the name. -/
def writtenArgument? (args : List Expr) (keywords : List (Keyword Expr)) : Option Expr :=
  args.head?.or (keywords.findSome? defaultArgument?)

/-- What stands for the default in the value of a field of `f`: an argument, if the value is a call
that describes the field, and else all of it. -/
def writtenDefault? (f : Framework) : Expr → Option Expr
  | .call func args keywords =>
    if func.dottedName?.any (Marker.isSpecifier f) then writtenArgument? args keywords
    else some (.call func args keywords)
  | e => some e

/-- The value that is written for the default of a field of `f`. -/
def Declaration.default? (f : Framework) (d : Declaration) : Option Value :=
  (d.value.bind (writtenDefault? f)).bind Expr.literal?

/-- The slots that a field of `f` may have if `written` is the value written for its default. -/
inductive Written (f : Framework) : (written : Option Value) → DefaultSlot → Prop
  /-- A value stands for itself. -/
  | value {v : Value} (hmarker : ¬ (v = .ellipsis ∧ f = .pydanticV2)) :
    Written f (some v) (.value v)
  /-- In a pydantic model `...` marks a required field. -/
  | marker (hf : f = .pydanticV2) : Written f (some .ellipsis) (.token f.absenceToken)
  /-- Where nothing is written there is no default, unless a factory makes it. -/
  | absent : Written f none (.token f.absenceToken)
  | factory {path : String} : Written f none (.factory path)

/-- What has been read of the arguments of a call, if `written` is what stands for the default in
them. -/
def Given (f : Framework) (written : Option Expr) : Option DefaultSlot → Prop
  | none => written = none
  | some slot => Written f (written.bind Expr.literal?) slot

variable {p : Place} {span : Span} {slot : DefaultSlot} {e : Expr}

/-- A slot holds a name just if this name is written. -/
theorem Written.eq_symbol_iff {f : Framework} {written : Option Value} (h : Written f written slot)
    (path : String) : slot = .value (.symbol path) ↔ written = some (.symbol path) := by
  cases h with
  | value => simp
  | marker => simp
  | absent => simp
  | factory => simp

theorem Written.ne_ellipsis {f : Framework} {written : Option Value} {v : Value}
    (h : Written f written (.value v)) (hf : f = .pydanticV2) : v ≠ .ellipsis := by
  cases h with
  | value hmarker => exact fun hv => hmarker ⟨hv, hf⟩

namespace Place

/-! ### Literals and factories -/

theorem written_literalSlot (h : p.literalSlot span e = .ok slot) :
    Written p.framework e.literal? slot := by
  unfold literalSlot at h
  split at h
  · rename_i v hv
    rw [hv]
    split at h
    · rename_i hmarker
      obtain rfl := Except.ok.inj h
      rw [hmarker.1]
      exact .marker hmarker.2
    · rename_i hmarker
      obtain rfl := Except.ok.inj h
      exact .value hmarker
  · cases h

theorem exists_of_factorySlot (h : factorySlot span e = .ok slot) :
    ∃ path, slot = .factory path := by
  unfold factorySlot at h
  split at h
  · rename_i path _
    exact ⟨path, (Except.ok.inj h).symm⟩
  · cases h

theorem exists_of_wrappedSlot {args : List Expr} {keywords : List (Keyword Expr)}
    (h : wrappedSlot span e args keywords = .ok slot) : ∃ path, slot = .factory path := by
  unfold wrappedSlot at h
  split at h
  · exact exists_of_factorySlot h
  · cases h

/-- A call that wraps a factory has no value, like any call. -/
theorem written_wrappedSlot {func : Expr} {args : List Expr} {keywords : List (Keyword Expr)}
    (h : wrappedSlot span e args keywords = .ok slot) :
    Written p.framework (Expr.call func args keywords).literal? slot := by
  obtain ⟨path, rfl⟩ := exists_of_wrappedSlot h
  have hnone : (Expr.call func args keywords).literal? = none := by simp [Expr.literal?]
  rw [hnone]
  exact .factory

/-! ### The arguments of a call that describes a field -/

theorem written_defaultArgument (h : p.defaultArgument span e = .ok slot) :
    Written p.framework e.literal? slot := by
  unfold defaultArgument at h
  split at h
  · split at h
    · exact written_wrappedSlot h
    · exact written_literalSlot h
  · exact written_literalSlot h

/-- An argument gives a slot if it is the default or a factory; no other argument gives one. -/
theorem given_argumentSlot? {k : Keyword Expr} {found : Option DefaultSlot}
    (h : p.argumentSlot? span k = .ok found) : Given p.framework (defaultArgument? k) found := by
  obtain ⟨arg, harg, hcases⟩ := argumentSlot?_eq_ok h
  simp only [defaultArgument?, harg, Option.some.injEq]
  rcases hcases with ⟨rfl, slot, hread, rfl⟩ | ⟨hfactory, slot, hread, rfl⟩ | ⟨hdefault, -, -, rfl⟩
  · rw [if_pos rfl]
    exact written_defaultArgument hread
  · have hdefault : arg ≠ "default" := by
      rcases hfactory with rfl | ⟨rfl, -⟩
      · decide
      · decide
    obtain ⟨path, rfl⟩ := exists_of_factorySlot hread
    rw [if_neg hdefault]
    exact .factory
  · rw [if_neg hdefault]
    rfl

/-- The arguments that follow add what they say about the default; saying it twice is refused. -/
theorem given_argumentsSlot {call : Expr} {written : Option Expr} {keywords : List (Keyword Expr)}
    {given found : Option DefaultSlot} (hgiven : Given p.framework written given)
    (h : p.argumentsSlot span call given keywords = .ok found) :
    Given p.framework (written.or (keywords.findSome? defaultArgument?)) found := by
  induction keywords generalizing written given with
  | nil =>
    obtain rfl := Except.ok.inj h
    rwa [List.findSome?_nil, Option.or_none]
  | cons k ks ih =>
    obtain ⟨argument, hargument, h⟩ := Except.bind_eq_ok_iff.mp h
    have hargument := given_argumentSlot? hargument
    cases argument with
    | none =>
      -- the argument says nothing, so it is not the one that is looked for
      rw [Given] at hargument
      rw [List.findSome?_cons, hargument]
      exact ih hgiven h
    | some slot =>
      -- the second of two slots is an error, so nothing has been found before
      cases given with
      | some other => cases h
      | none =>
        obtain rfl : written = none := hgiven
        have hrest := ih hargument h
        rw [Option.none_or, List.findSome?_cons]
        cases hk : defaultArgument? k with
        | none => rwa [hk, Option.none_or] at hrest
        | some e => rwa [hk, Option.some_or] at hrest

theorem given_positionalSlot? {args : List Expr} {found : Option DefaultSlot}
    (h : p.positionalSlot? span args = .ok found) : Given p.framework args.head? found := by
  unfold positionalSlot? at h
  split at h
  · obtain rfl := Except.ok.inj h
    rfl
  · split at h
    · obtain ⟨slot, hread, rfl⟩ := Except.map_eq_ok_iff.mp h
      exact written_literalSlot hread
    · cases h
  · cases h

theorem written_specifierSlot {call : Expr} {args : List Expr} {keywords : List (Keyword Expr)}
    (h : p.specifierSlot span call args keywords = .ok slot) :
    Written p.framework ((writtenArgument? args keywords).bind Expr.literal?) slot := by
  obtain ⟨given, hgiven, h⟩ := Except.bind_eq_ok_iff.mp h
  obtain ⟨found, hfound, h⟩ := Except.bind_eq_ok_iff.mp h
  obtain rfl := Except.ok.inj h
  have hread : Given p.framework (writtenArgument? args keywords) found :=
    given_argumentsSlot (given_positionalSlot? hgiven) hfound
  cases found with
  | none =>
    rw [Given] at hread
    rw [hread]
    exact .absent
  | some slot => exact hread

/-! ### The value of a field -/

theorem written_readSlot (h : p.readSlot span e = .ok slot) :
    Written p.framework ((writtenDefault? p.framework e).bind Expr.literal?) slot := by
  unfold readSlot at h
  split at h
  · rename_i func args keywords
    rw [isSpecifier] at h
    split at h
    · rename_i hspecifier
      rw [writtenDefault?, if_pos hspecifier]
      exact written_specifierSlot h
    · -- any other call stands for itself: it wraps a factory, or it is no literal
      rename_i hspecifier
      rw [writtenDefault?, if_neg hspecifier, Option.bind_some]
      split at h
      · exact written_wrappedSlot h
      · exact written_literalSlot h
  · rename_i hcall
    rw [writtenDefault?]
    · exact written_literalSlot h
    · exact hcall

/-- **What is written for the default decides the slot of a field**; in a dataclass it is no value
that instances would share. -/
theorem written_readValue {value : Option Expr} (h : p.readValue span value = .ok slot) :
    Written p.framework ((value.bind (writtenDefault? p.framework)).bind Expr.literal?) slot ∧
      (p.framework = .dataclasses → ∀ v, slot = .value v → v.isMutable = false) := by
  cases value with
  | none =>
    obtain rfl := Except.ok.inj h
    exact ⟨.absent, nofun⟩
  | some e =>
    obtain ⟨found, hread, h⟩ := Except.bind_eq_ok_iff.mp h
    have hwritten := written_readSlot hread
    cases found with
    | value v =>
      dsimp only at h
      split at h
      · cases h
      · rename_i hmutable
        obtain rfl := Except.ok.inj h
        refine ⟨hwritten, ?_⟩
        rintro hf _ ⟨⟩
        simpa [hf] using hmutable
    | token t =>
      obtain rfl := Except.ok.inj h
      exact ⟨hwritten, nofun⟩
    | factory path =>
      obtain rfl := Except.ok.inj h
      exact ⟨hwritten, nofun⟩

end Place

/-! ### The default of a field -/

/-- A default is the value of a slot, or an empty container that a factory makes. -/
theorem eq_value_or_isEmptyContainer {f : Framework} {record field : String} {v : Value}
    (h : f.readDefault record field slot = .ok (.value v)) :
    slot = .value v ∨ (∃ path, slot = .factory path) ∧ v.isEmptyContainer := by
  unfold Framework.readDefault at h
  split at h
  · split at h
    · cases Except.ok.inj h
    · cases h
  · split at h
    · cases Except.ok.inj h
    · cases Except.ok.inj h
      exact Or.inl rfl
  · split at h
    · rename_i hv
      cases Except.ok.inj h
      exact Or.inr ⟨⟨_, rfl⟩, isEmptyContainer_of_emptyOfFactory? hv⟩
    · cases h

/-- A field has a name as its default just if the slot holds it. -/
theorem readDefault_eq_symbol_iff {f : Framework} {record field : String} {default : FieldDefault}
    (h : f.readDefault record field slot = .ok default) (path : String) :
    default = .value (.symbol path) ↔ slot = .value (.symbol path) := by
  constructor
  · rintro rfl
    rcases eq_value_or_isEmptyContainer h with hslot | ⟨-, hempty⟩
    · exact hslot
    · -- a name is no container
      cases hempty
  · rintro rfl
    rw [Framework.readDefault, if_neg (by simp)] at h
    exact (Except.ok.inj h).symm

/-- The default of a field is a name just if its declaration says so. -/
theorem Declares.symbol_iff {d : Declaration} {field : Field} (h : Declares p d field)
    (path : String) :
    field.default = .value (.symbol path) ↔ d.default? p.framework = some (.symbol path) := by
  obtain ⟨-, -, -, slot, hslot, hdefault⟩ := h.exists_slot
  obtain ⟨hwritten, -⟩ := Place.written_readValue hslot
  rw [readDefault_eq_symbol_iff hdefault, hwritten.eq_symbol_iff, Declaration.default?]

/-- **Where the default of a field is written as a name, this name is the default**, and no other
field has a name as its default.  The rule has no exception for the names of the tokens for "no
default", such as `dataclasses.MISSING`: a scanned field has one of them as its default just if it
is declared with it. -/
theorem default_eq_symbol_iff {body : List Stmt} {rs : List ScannedRecord} {r : ScannedRecord}
    (h : records body = .ok rs) (hr : r ∈ rs) :
    ∃ s ∈ body, readRecord (namespaceOf body) s = .ok (some r) ∧
      List.Forall₂ (fun d field => d.target = .name field.name ∧ ∀ path,
        field.default = .value (.symbol path) ↔ d.default? r.framework = some (.symbol path))
        (declarations r.framework s) r.schema.fields := by
  obtain ⟨s, hs, hread⟩ := exists_of_mem_readRecords h hr
  obtain ⟨p, hframework, -, -, hfields⟩ := readRecord_eq_ok hread
  refine ⟨s, hs, hread, hfields.imp fun d field hd => ⟨hd.exists_slot.1, ?_⟩⟩
  rw [← hframework]
  exact hd.symbol_iff

/-- A module with a dataclass, both of whose fields are written without a default. -/
def ownerBody : List Stmt :=
  let missing := .attr (.name "dataclasses") "MISSING"
  [.importModules [⟨"dataclasses", none⟩] ⟨1, 0⟩,
    .classDef ⟨"Job", [], [], [.attr (.name "dataclasses") "dataclass"],
      [.annAssign (.name "owner") (.name "int") (some missing) ⟨5, 4⟩,
        .annAssign (.name "tag") (.name "str")
          (some (.call (.attr (.name "dataclasses") "field") [] [⟨some "default", missing⟩]))
          ⟨6, 4⟩], ⟨4, 0⟩⟩]

/-- The record of the module. -/
def ownerRecord : ScannedRecord where
  framework := .dataclasses
  schema := ⟨"Job", [⟨"owner", some (.name "int"), .value (.symbol "dataclasses.MISSING")⟩,
    ⟨"tag", some (.name "str"), .value (.symbol "dataclasses.MISSING")⟩], by decide⟩
  options := []
  span := ⟨4, 0⟩

theorem default_eq_symbol_iff_owner : records ownerBody = .ok [ownerRecord] ∧
    ∃ s ∈ ownerBody, readRecord (namespaceOf ownerBody) s = .ok (some ownerRecord) ∧
      List.Forall₂ (fun d field => d.target = .name field.name ∧ ∀ path,
        field.default = .value (.symbol path) ↔ d.default? .dataclasses = some (.symbol path))
        (declarations .dataclasses s) ownerRecord.schema.fields := by
  have hread : records ownerBody = .ok [ownerRecord] := rfl
  exact ⟨hread, default_eq_symbol_iff hread List.mem_cons_self⟩

/-- The token for "no default" of a dataclass is a default in the schema that is read from it. -/
theorem records_of_missing : ∃ rs, records ownerBody = .ok rs ∧
    ∃ r ∈ rs, r.framework = .dataclasses ∧ ∀ field ∈ r.schema.fields,
      field.default = .value (.symbol r.framework.absenceToken.text) := by
  refine ⟨[ownerRecord], rfl, ownerRecord, List.mem_cons_self, rfl, ?_⟩
  decide

end RecordForms.Scan
