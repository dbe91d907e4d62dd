import RecordForms.Proofs.Scan.Bindings
import RecordForms.Proofs.Scan.Declarations

/-!
# What a reading depends on

The place of a declaration in the source file is kept for error messages only, and the names around
it are asked for when a quoted annotation is resolved.  So what is read is read as the same thing at
any other place, and in any namespace that extends the one around it.

## Main definitions

* `Scan.Place.among`: the same record among other names

## Main results

* `Scan.Place.below_readType`: an annotation that is a type is the same type elsewhere
* `Scan.Place.below_readSlot`: a value that gives a slot gives the same slot elsewhere
* `Scan.Place.below_readField`: a field that is read is read elsewhere
* `Scan.below_readRecord`: a record that is read is read in every extension of the namespace
-/

namespace RecordForms.Scan

variable {scope' : Namespace} {span span' : Span}

/-! ### Annotations -/

theorem below_readLiteralItems (es : List Expr) :
    (readLiteralItems span es).Below (readLiteralItems span' es) := by
  induction es with
  | nil => exact .refl _
  | cons e es ih =>
    rw [readLiteralItems, readLiteralItems]
    cases e.literal? with
    | none => exact .of_error _ _
    | some v => exact ih.bind fun _ => .refl _

namespace Place

/-- The same record among other names. -/
def among (p : Place) (scope : Namespace) : Place :=
  { p with scope := scope }

variable {p : Place} {field : String}

mutual

/-- An annotation that is a type is the same type elsewhere. -/
theorem below_readType (h : scope'.Extends p.scope) (e : Expr) :
    (p.readType field span e).Below ((p.among scope').readType field span' e) := by
  cases e with
  | constant v =>
    cases v with
    | none => exact .refl _
    | str reference =>
      intro t ht
      rw [readType] at ht ⊢
      cases hread : p.scope.resolve reference with
      | ok t' =>
        have hread' : (p.among scope').scope.resolve reference = .ok t' := h.resolve hread
        rw [hread']
        rw [hread] at ht
        exact ht
      | error e =>
        rw [hread] at ht
        cases ht
    | _ => exact .of_error _ _
  | name id => exact .refl _
  | attr value member =>
    rw [readType, readType]
    cases (Expr.attr value member).dottedName? with
    | none => exact .of_error _ _
    | some path => exact .refl _
  | subscript value slice =>
    have hargs : (p.readTypes field span slice.subscripts).Below
        ((p.among scope').readTypes field span' slice.subscripts) := by
      rcases slice.subscripts_cases with ⟨items, rfl⟩ | ⟨hone, -⟩
      · exact below_readTypes h items
      · rw [hone, readTypes, readTypes]
        exact (below_readType h slice).bind fun t => .refl _
    rw [readType_subscript, readType_subscript]
    cases value.dottedName? with
    | none => exact .of_error _ _
    | some origin =>
      dsimp only
      split
      · exact (below_readLiteralItems slice.subscripts).map _
      · exact hargs.map _
  | bitOr left right =>
    rw [readType, readType]
    exact (below_readType h left).bind fun l => (below_readType h right).bind fun r => .refl _
  | _ => exact .of_error _ _

theorem below_readTypes (h : scope'.Extends p.scope) (es : List Expr) :
    (p.readTypes field span es).Below ((p.among scope').readTypes field span' es) := by
  match es with
  | [] => exact .refl _
  | e :: es =>
    rw [readTypes, readTypes]
    exact (below_readType h e).bind fun t => (below_readTypes h es).bind fun ts => .refl _

end

theorem readAnnotation_below (h : scope'.Extends p.scope) (declared : Option Expr)
    (type : Option TypeExpr) (hread : p.readAnnotation field span declared = .ok type) :
    Place.readAnnotation (p.among scope') field span' declared = .ok type := by
  cases declared with
  | none => exact hread
  | some e => exact (below_readType h e).map some type hread

/-- Whether a key may be missing is seen on its annotation alone. -/
theorem below_unqualified (declared value : Option Expr) :
    (p.unqualified field declared value span).Below
      ((p.among scope').unqualified field declared value span') := by
  refine .ite (.of_error _ _) ?_
  cases value with
  | some value => exact .of_error _ _
  | none => exact .refl _

/-! ### Defaults -/

theorem below_literalSlot (e : Expr) :
    (p.literalSlot span e).Below ((p.among scope').literalSlot span' e) := by
  rw [literalSlot, literalSlot]
  cases e.literal? with
  | none => exact .of_error _ _
  | some v => exact .refl _

theorem below_factorySlot (e : Expr) : (factorySlot span e).Below (factorySlot span' e) := by
  rw [factorySlot, factorySlot]
  cases e.dottedName? with
  | none => exact .of_error _ _
  | some path => exact .refl _

theorem below_wrappedSlot (call : Expr) (args : List Expr) (keywords : List (Keyword Expr)) :
    (wrappedSlot span call args keywords).Below (wrappedSlot span' call args keywords) := by
  match args, keywords with
  | [factory], [] => exact below_factorySlot factory
  | [], _ | _ :: _ :: _, _ | [_], _ :: _ => exact .of_error _ _

theorem below_defaultArgument (e : Expr) :
    (p.defaultArgument span e).Below ((p.among scope').defaultArgument span' e) := by
  cases e with
  | call func args keywords => exact .ite (below_wrappedSlot _ _ _) (below_literalSlot _)
  | _ =>
    simp only [defaultArgument]
    exact below_literalSlot _

theorem below_argumentSlot? (k : Keyword Expr) :
    (p.argumentSlot? span k).Below ((p.among scope').argumentSlot? span' k) := by
  rw [argumentSlot?, argumentSlot?]
  cases k.arg with
  | none => exact .of_error _ _
  | some arg =>
    exact .ite ((below_defaultArgument k.value).map some)
      (.ite ((below_factorySlot k.value).map some) (.refl _))

theorem below_positionalSlot? (args : List Expr) :
    (p.positionalSlot? span args).Below ((p.among scope').positionalSlot? span' args) := by
  match args with
  | [] => exact .refl _
  | [e] => exact .ite ((below_literalSlot e).map some) (.of_error _ _)
  | _ :: _ :: _ => exact .of_error _ _

theorem below_argumentsSlot (call : Expr) (given : Option DefaultSlot)
    (keywords : List (Keyword Expr)) :
    (p.argumentsSlot span call given keywords).Below
      ((p.among scope').argumentsSlot span' call given keywords) := by
  -- Along the arguments, from whatever the arguments before them have given.
  induction keywords generalizing given with
  | nil => exact .refl _
  | cons k keywords ih =>
    refine (below_argumentSlot? k).bind fun slot => ?_
    match slot, given with
    | none, given => exact ih given
    | some slot, none => exact ih (some slot)
    | some _, some _ => exact .of_error _ _

theorem below_specifierSlot (call : Expr) (args : List Expr) (keywords : List (Keyword Expr)) :
    (p.specifierSlot span call args keywords).Below
      ((p.among scope').specifierSlot span' call args keywords) :=
  (below_positionalSlot? args).bind fun given =>
    (below_argumentsSlot call given keywords).bind fun _ => .refl _

/-- A value that gives a slot gives the same slot elsewhere. -/
theorem below_readSlot (e : Expr) :
    (p.readSlot span e).Below ((p.among scope').readSlot span' e) := by
  cases e with
  | call func args keywords =>
    exact .ite (below_specifierSlot _ _ _) (.ite (below_wrappedSlot _ _ _) (below_literalSlot _))
  | _ =>
    simp only [readSlot]
    exact below_literalSlot _

theorem below_readValue (value : Option Expr) :
    (p.readValue span value).Below ((p.among scope').readValue span' value) := by
  cases value with
  | none => exact .refl _
  | some e =>
    refine (below_readSlot e).bind fun slot => ?_
    cases slot with
    | value v => exact .ite (.of_error _ _) (.refl _)
    | _ => exact .refl _

/-! ### Fields -/

theorem below_readNamed (h : scope'.Extends p.scope) (declared value : Option Expr) :
    (p.readNamed field declared value span).Below
      ((p.among scope').readNamed field declared value span') := by
  rw [readNamed_eq, readNamed_eq]
  have hplain : (if p.framework = .typedDict then p.unqualified field declared value span
        else .ok declared).Below
      (if (p.among scope').framework = .typedDict then
        (p.among scope').unqualified field declared value span' else .ok declared) :=
    .ite (below_unqualified declared value) (.refl _)
  refine hplain.bind fun plain => .ite (.of_error _ _) ?_
  exact Except.Below.bind (readAnnotation_below h plain) fun type =>
    (below_readValue value).bind fun slot => .refl _

/-- A field that is read is read elsewhere. -/
theorem below_readField (h : scope'.Extends p.scope) (target : Expr)
    (declared value : Option Expr) :
    (p.readField target declared value span).Below
      ((p.among scope').readField target declared value span') := by
  cases target with
  | name name => exact .ite (.refl _) ((below_readNamed h declared value).map some)
  | _ => exact .of_error _ _

end Place

/-! ### Records -/

theorem below_readOptions (keywords : List (Keyword Expr)) :
    (readOptions span keywords).Below (readOptions span' keywords) := by
  induction keywords with
  | nil => exact .refl _
  | cons k keywords ih =>
    obtain ⟨arg, value⟩ := k
    cases arg with
    | none => exact .of_error _ _
    | some name => exact ih.bind fun _ => .refl _

theorem below_readBases (found : Option Framework) (bases : List Expr) :
    (readBases span found bases).Below (readBases span' found bases) := by
  induction bases generalizing found with
  | nil => exact .refl _
  | cons e bases ih =>
    simp only [readBases]
    cases baseMarker? e with
    | none => exact ih found
    | some f =>
      cases found with
      | none => exact ih (some f)
      | some _ => exact .of_error _ _

theorem below_checkBases (bases : List Expr) :
    (checkBases span bases).Below (checkBases span' bases) := by
  rw [checkBases, checkBases]
  cases bases.find? fun e => !isKnownBase e with
  | none => exact .refl _
  | some e => exact .of_error _ _

variable {p : Place} {scope : Namespace}

theorem below_readAssignment (h : scope'.Extends p.scope) (targets : List Expr) (value : Expr) :
    (readAssignment p targets value span).Below
      (readAssignment (p.among scope') targets value span') := by
  have hconfig (id : String) : (readAssignment.config p targets value span id).Below
      (readAssignment.config (p.among scope') targets value span' id) :=
    .ite (.refl _) (.of_error _ _)
  unfold readAssignment
  split
  · exact .ite ((Place.below_readField h _ _ _).map _) (hconfig _)
  · rename_i hcall
    cases value with
    | call func args keywords => exact absurd rfl (hcall func args keywords)
    | _ => exact hconfig _
  · exact .of_error _ _

theorem below_readMember (h : scope'.Extends p.scope) (s : Stmt) :
    (readMember p s).Below (readMember (p.among scope') s) := by
  cases s with
  | annAssign target annotation value span =>
    exact (Place.below_readField h target (some annotation) value).map _
  | assign targets value span => exact below_readAssignment h targets value
  | expr value span =>
    cases value with
    | constant v =>
      cases v with
      | _ => exact .refl _
    | _ => exact .refl _
  | _ => exact .refl _

theorem below_readMembers (h : scope'.Extends p.scope) (body : List Stmt) :
    (readMembers p body).Below (readMembers (p.among scope') body) := by
  induction body with
  | nil => exact .refl _
  | cons s body ih => exact (below_readMember h s).bind fun m => ih.bind fun ms => .refl _

theorem below_readMarked (h : scope'.Extends scope) (c : ClassDef) (f : Framework)
    (options : List ConfigOption) :
    (readMarked scope c f options).Below (readMarked scope' c f options) := by
  refine Except.Below.bind (.refl _) fun _ => .bind (.refl _) fun arguments =>
    .bind (.refl _) fun total => ?_
  exact .bind (below_readMembers (p := ⟨f, c.name, scope, total⟩) h c.body) fun members => .refl _

theorem below_readEntry (h : scope'.Extends p.scope) (e : Expr) :
    (readEntry p span e).Below (readEntry (p.among scope') span e) := by
  unfold readEntry
  split
  · exact .refl _
  · exact Place.below_readField h _ _ _
  · exact Place.below_readField h _ _ _
  · exact .of_error _ _
  · exact .of_error _ _

theorem below_readEntries (h : scope'.Extends p.scope) (entries : List Expr) :
    (readEntries p span entries).Below (readEntries (p.among scope') span entries) := by
  induction entries with
  | nil => exact .refl _
  | cons e entries ih => exact (below_readEntry h e).bind fun f => ih.bind fun fs => .refl _

theorem below_readMade (h : scope'.Extends scope) (name : String) (entries : List Expr)
    (keywords : List (Keyword Expr)) :
    (readMade scope name entries keywords span).Below
      (readMade scope' name entries keywords span) :=
  (below_readEntries (p := ⟨.dataclasses, name, scope, true⟩) h entries).bind fun _ => .refl _

/-- A record that is read is read in every extension of the namespace, and a statement that is none
is none there. -/
theorem below_readRecord (h : scope'.Extends scope) (s : Stmt) :
    (readRecord scope s).Below (readRecord scope' s) := by
  cases s with
  | classDef c =>
    refine Except.Below.bind (.refl _) fun ⟨found, options⟩ => ?_
    cases found with
    | none => exact .refl _
    | some f => exact (below_readMarked h c f options).map some
  | assign targets value span =>
    cases value with
    | call func args keywords =>
      refine .ite ?_ (.refl _)
      split
      · cases functionalParts? args with
        | none => exact .refl _
        | some parts => exact (below_readMade h parts.1 parts.2 keywords).map some
      · exact .of_error _ _
    | _ => exact .refl _
  | _ => exact .refl _

end RecordForms.Scan
