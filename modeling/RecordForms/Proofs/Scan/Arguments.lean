import Mathlib.Data.List.Nodup
import RecordForms.Proofs.Scan.Declarations

/-!
# The arguments of a call that describes a field

The default of a field can be given in several arguments of the call that describes it.  All of them
are read, in the order in which they are written, but the order has no influence on the field: the
arguments give at most one default, and if they give none, the field has none.

## Main definitions

* `Scan.argument?`: an argument by its name
* `Scan.Declaration.ofCall`: a field that is described by a call
* `Scan.Place.givesDefault`, `Scan.Place.defaultCount`: the arguments that give a default

## Main results

* `Scan.Place.argumentsSlot_eq_ok_iff`: what arguments give, without regard to their order
* `Scan.Place.specifierSlot_eq_ok`: a call that is read gives one default at most
* `Scan.read_ofCall`: a field that is described by a call, with its arguments in any order
-/

namespace List

variable {α : Type} {as bs : List α}

/-- A list of one item at most has no other order. -/
theorem Perm.eq_of_length_le_one (h : as.Perm bs) (hlength : as.length ≤ 1) : as = bs := by
  match as with
  | [] => exact (nil_perm.mp h).symm
  | [a] => exact singleton_perm.mp h

end List

namespace RecordForms.Scan

/-- The argument with a name. -/
def argument? (keywords : List (Keyword Expr)) (name : String) : Option Expr :=
  (keywords.find? fun k => k.arg == some name).map Keyword.value

/-- What is written for a field that is described by a call.  Where there is no annotation, the
argument `type` stands for it. -/
def Declaration.ofCall (name : String) (type : Option Expr) (func : Expr) (args : List Expr)
    (keywords : List (Keyword Expr)) (span : Span) : Declaration where
  target := .name name
  annotation := type.or (argument? keywords "type")
  value := some (.call func args keywords)
  span := span

namespace Place

/-- Whether an argument given by name gives a default. -/
def givesDefault (p : Place) (k : Keyword Expr) : Bool :=
  k.arg == some "default" || k.arg == some "default_factory" ||
    (k.arg == some "factory" && p.framework = .attrs)

/-- The number of arguments that give a default.  In a pydantic model positional ones do. -/
def defaultCount (p : Place) (args : List Expr) (keywords : List (Keyword Expr)) : Nat :=
  (if p.framework = .pydanticV2 then args.length else 0) + keywords.countP p.givesDefault

/-- The slot that an argument given by name gives, if it can be read and gives one. -/
def slotOf? (p : Place) (span : Span) (k : Keyword Expr) : Option DefaultSlot :=
  (p.argumentSlot? span k).toOption.join

end Place

variable {p : Place} {span : Span} {name : String} {type declared : Option Expr}
  {func call call' : Expr} {args : List Expr} {k : Keyword Expr} {ks ks' : List (Keyword Expr)}
  {slot : DefaultSlot} {given found : Option DefaultSlot}

/-! ### Arguments in any order -/

/-- Where no two arguments have one name, each is found in whatever order they stand. -/
theorem argument?_perm (hperm : ks.Perm ks') (hdistinct : (ks.filterMap Keyword.arg).Nodup)
    (name : String) : argument? ks name = argument? ks' name := by
  have hcount : (ks.filter fun k => k.arg == some name).length ≤ 1 := by
    have hle := List.nodup_iff_count_le_one.mp hdistinct name
    rwa [List.count_filterMap, List.countP_eq_length_filter] at hle
  have hfilter := (hperm.filter fun k => k.arg == some name).eq_of_length_le_one hcount
  rw [argument?, argument?, ← List.head?_filter, ← List.head?_filter, hfilter]

namespace Place

/-- An argument gives a slot just if it gives a default. -/
theorem isSome_of_argumentSlot? (h : p.argumentSlot? span k = .ok given) :
    given.isSome = p.givesDefault k := by
  obtain ⟨arg, harg, hcases⟩ := argumentSlot?_eq_ok h
  -- the default, a factory under its two names, or another argument
  rcases hcases with ⟨rfl, slot, -, rfl⟩ | ⟨hfactory, slot, -, rfl⟩ |
    ⟨hdefault, hnamed, hshort, rfl⟩
  · rw [givesDefault, harg]
    rfl
  · rcases hfactory with rfl | ⟨rfl, hf⟩
    · rw [givesDefault, harg]
      rfl
    · rw [givesDefault, harg, hf]
      rfl
  · simpa [givesDefault, harg, hdefault, hnamed] using hshort

/-- Arguments are read just if each of them can be read and there is one slot at most, given before
or by one of them.  This is it. -/
theorem argumentsSlot_eq_ok_iff : p.argumentsSlot span call given ks = .ok found ↔
    (∀ k ∈ ks, ∃ slot?, p.argumentSlot? span k = .ok slot?) ∧
      given.toList ++ ks.filterMap (p.slotOf? span) = found.toList := by
  induction ks generalizing given with
  | nil =>
    rw [argumentsSlot, Except.ok.injEq, List.filterMap_nil, List.append_nil]
    cases given <;> cases found <;> simp
  | cons k ks ih =>
    rw [argumentsSlot, List.forall_mem_cons, List.filterMap_cons, slotOf?]
    cases hk : p.argumentSlot? span k with
    | error e => simp
    | ok slot? =>
      cases slot? with
      | none => simpa [Except.toOption] using ih
      | some slot =>
        cases given with
        | none =>
          have hone : p.argumentsSlot span call (some slot) ks = .ok found ↔ _ := ih
          simpa [Except.toOption] using hone
        | some slot' =>
          -- two slots are one too many
          constructor
          · intro h
            cases h
          · rintro ⟨-, hfound⟩
            have hlength := congrArg List.length hfound
            cases found <;> simp [Except.toOption] at hlength

/-- Arguments in another order give the same slot. -/
theorem below_argumentsSlot_perm (hperm : ks.Perm ks') :
    (p.argumentsSlot span call given ks).Below (p.argumentsSlot span call' given ks') := by
  intro found h
  obtain ⟨hread, hfound⟩ := argumentsSlot_eq_ok_iff.mp h
  refine argumentsSlot_eq_ok_iff.mpr ⟨fun k hk => hread k (hperm.mem_iff.mpr hk), ?_⟩
  have hslots := (hperm.filterMap (p.slotOf? span)).append_left given.toList
  have hlength : (given.toList ++ ks.filterMap (p.slotOf? span)).length ≤ 1 := by
    rw [hfound]
    cases found <;> simp
  rw [← hslots.eq_of_length_le_one hlength, hfound]

theorem below_readValue_perm (hspecifier : p.isSpecifier func) (hperm : ks.Perm ks') :
    (p.readValue span (some (.call func args ks))).Below
      (p.readValue span (some (.call func args ks'))) := by
  have hslot : (p.readSlot span (.call func args ks)).Below
      (p.readSlot span (.call func args ks')) := by
    rw [readSlot, readSlot, if_pos hspecifier, if_pos hspecifier]
    apply Except.Below.bind (.refl _)
    intro given
    exact (below_argumentsSlot_perm hperm).bind fun _ => .refl _
  apply hslot.bind
  intro slot
  cases slot with
  | value v => exact .ite (.of_error _ _) (.refl _)
  | token t => exact .refl _
  | factory path => exact .refl _

theorem isWithoutInit_perm (hperm : ks.Perm ks') :
    p.isWithoutInit (.call func args ks) = p.isWithoutInit (.call func args ks') := by
  rw [isWithoutInit, isWithoutInit, hperm.any_eq]

theorem below_readNamed_perm (hspecifier : p.isSpecifier func) (hperm : ks.Perm ks') :
    (p.readNamed name declared (some (.call func args ks)) span).Below
      (p.readNamed name declared (some (.call func args ks')) span) := by
  rw [readNamed_eq, readNamed_eq]
  refine Except.Below.bind (.ite ?_ (.refl _)) fun plain => ?_
  · -- a typed dict refuses every value
    intro plain h
    cases (unqualified_eq_ok h).1
  · rw [Option.any_some, Option.any_some, isWithoutInit_perm hperm]
    refine .ite (.of_error _ _) (.bind (.refl _) fun type => ?_)
    exact (below_readValue_perm hspecifier hperm).bind fun slot => .refl _

end Place

theorem Declaration.below_read_perm (hspecifier : p.isSpecifier func) (hperm : ks.Perm ks')
    (hdistinct : (ks.filterMap Keyword.arg).Nodup) :
    ((ofCall name type func args ks span).read p).Below
      ((ofCall name type func args ks' span).read p) := by
  unfold Declaration.read Place.readField ofCall
  dsimp only
  rw [argument?_perm hperm hdistinct]
  exact .ite (.refl _) ((Place.below_readNamed_perm hspecifier hperm).map some)

/-! ### One default at most -/

namespace Place

/-- Positional arguments give a slot just if there are any and they may. -/
theorem length_toList_of_positionalSlot? (h : p.positionalSlot? span args = .ok given) :
    given.toList.length = if p.framework = .pydanticV2 then args.length else 0 := by
  match args with
  | [] =>
    obtain rfl := Except.ok.inj h
    simp
  | [e] =>
    rw [positionalSlot?] at h
    split at h
    · rename_i hf
      obtain ⟨slot, -, rfl⟩ := Except.map_eq_ok_iff.mp h
      rw [if_pos hf]
      rfl
    · cases h
  | _ :: _ :: _ => cases h

theorem countP_givesDefault (h : ∀ k ∈ ks, ∃ slot?, p.argumentSlot? span k = .ok slot?) :
    ks.countP p.givesDefault = (ks.filterMap (p.slotOf? span)).length := by
  rw [List.length_filterMap_eq_countP]
  apply List.countP_congr
  intro k hk
  obtain ⟨slot?, hslot⟩ := h k hk
  rw [← isSome_of_argumentSlot? hslot, slotOf?, hslot]
  cases slot? <;> simp [Except.toOption]

/-- A call that is read gives one default at most, and without any it stands for no default. -/
theorem specifierSlot_eq_ok (h : p.specifierSlot span call args ks = .ok slot) :
    p.defaultCount args ks ≤ 1 ∧ (p.defaultCount args ks = 0 → slot = p.absent) := by
  obtain ⟨given, hgiven, h⟩ := Except.bind_eq_ok_iff.mp h
  obtain ⟨found, hfound, h⟩ := Except.bind_eq_ok_iff.mp h
  obtain rfl := Except.ok.inj h
  obtain ⟨hread, hslots⟩ := argumentsSlot_eq_ok_iff.mp hfound
  have hcount : p.defaultCount args ks = found.toList.length := by
    rw [defaultCount, ← length_toList_of_positionalSlot? hgiven, countP_givesDefault hread,
      ← List.length_append, hslots]
  rw [hcount]
  cases found with
  | none => simp
  | some slot => simp

theorem readValue_eq_ok (hspecifier : p.isSpecifier func)
    (h : p.readValue span (some (.call func args ks)) = .ok slot) :
    p.specifierSlot span (.call func args ks) args ks = .ok slot := by
  obtain ⟨slot', hread, h⟩ := Except.bind_eq_ok_iff.mp h
  rw [readSlot, if_pos hspecifier] at hread
  rw [hread]
  cases slot' with
  | value v =>
    dsimp only at h
    split at h
    · cases h
    · exact h
  | token t => exact h
  | factory path => exact h

end Place

/-- What is read from a call has one default at most, and none if no argument gives one. -/
theorem Declares.default_of_ofCall {field : Field} (hspecifier : p.isSpecifier func)
    (h : Declares p (.ofCall name type func args ks span) field) :
    p.defaultCount args ks ≤ 1 ∧ (p.defaultCount args ks = 0 → field.default = .absent) := by
  obtain ⟨-, -, -, slot, hslot, hdefault⟩ := h.exists_slot
  obtain ⟨hone, hnone⟩ :=
    Place.specifierSlot_eq_ok (Place.readValue_eq_ok hspecifier hslot)
  refine ⟨hone, fun hcount => ?_⟩
  rw [hnone hcount, Place.absent, Framework.readDefault_absenceToken] at hdefault
  exact (Except.ok.inj hdefault).symm

/-! ### Where such calls stand -/

/-- After an annotation, in the body of a class. -/
theorem readMember_annAssign_call (type : Expr) :
    readMember p (.annAssign (.name name) type (some (.call func args ks)) span) =
      ((Declaration.ofCall name (some type) func args ks span).read p).map Member.ofField? :=
  rfl

/-- Assigned to a name, in the body of an attrs class. -/
theorem readMember_assign_call (hf : p.framework = .attrs) (hspecifier : p.isSpecifier func) :
    readMember p (.assign [.name name] (.call func args ks) span) =
      ((Declaration.ofCall name none func args ks span).read p).map Member.ofField? := by
  rw [readMember, readAssignment, hf, hspecifier]
  rfl

/-- In an entry of a list of fields. -/
theorem readEntry_call (type : Expr) :
    readEntry p span (.tuple [.constant (.str name), type, .call func args ks]) =
      (Declaration.ofCall name (some type) func args ks span).read p :=
  rfl

/-- **The arguments of a call that describes a field may stand in any order**, if no two of them
have one name: the field is read in all orders or in none, and it is the same.  If more than one of
them gives a default it is not read, unless no field is declared at all; if none does, the field
that is read has no default. -/
theorem read_ofCall (hspecifier : p.isSpecifier func)
    (hdistinct : (ks.filterMap Keyword.arg).Nodup) (hperm : ks.Perm ks') (name : String)
    (type : Option Expr) (args : List Expr) (span : Span) :
    ((Declaration.ofCall name type func args ks' span).read p).toOption =
        ((Declaration.ofCall name type func args ks span).read p).toOption ∧
      (2 ≤ p.defaultCount args ks → (Declaration.ofCall name type func args ks span).isField →
        ∃ e, (Declaration.ofCall name type func args ks span).read p = .error e) ∧
      (p.defaultCount args ks = 0 → ∀ field,
        (Declaration.ofCall name type func args ks span).read p = .ok (some field) →
          field.default = .absent) := by
  refine ⟨?_, fun hcount hfield => ?_, fun hcount field hread => ?_⟩
  · have hdistinct' : (ks'.filterMap Keyword.arg).Nodup :=
      (hperm.filterMap Keyword.arg).nodup_iff.mp hdistinct
    apply Except.Below.toOption_eq
    · exact Declaration.below_read_perm hspecifier hperm.symm hdistinct'
    · exact Declaration.below_read_perm hspecifier hperm hdistinct
  · cases hread : (Declaration.ofCall name type func args ks span).read p with
    | error e => exact ⟨e, rfl⟩
    | ok field? =>
      -- then a field was read, with one default at most
      have hrel := Declaration.field?_of_read hread
      rw [Declaration.field?, if_pos hfield] at hrel
      cases hrel with
      | some hdeclares =>
        have hone := (hdeclares.default_of_ofCall hspecifier).1
        omega
  · exact (Declares.default_of_ofCall hspecifier hread).2 hcount

/-- An attrs class, and a dataclass. -/
def jobPlace (framework : Framework) : Place :=
  { framework, record := "Job", scope := .ofName "m" }

/-- The calls that describe fields of the two, and some of their arguments. -/
def attrsField : Expr :=
  .attr (.name "attrs") "field"

def dataclassField : Expr :=
  .attr (.name "dataclasses") "field"

def typeArgument : Keyword Expr :=
  ⟨some "type", .name "list"⟩

def factoryArgument : Keyword Expr :=
  ⟨some "factory", .name "list"⟩

def defaultArgument : Keyword Expr :=
  ⟨some "default", .constant .none⟩

theorem read_ofCall_tags : (jobPlace .attrs).isSpecifier attrsField ∧
    ([factoryArgument, typeArgument].filterMap Keyword.arg).Nodup ∧
    [factoryArgument, typeArgument].Perm [typeArgument, factoryArgument] ∧
    readMember (jobPlace .attrs) (.assign [.name "tags"]
        (.call attrsField [] [typeArgument, factoryArgument]) ⟨5, 4⟩) =
      .ok (.field ⟨"tags", some (.name "list"), .value (.list [])⟩) ∧
    (∃ e, readMember (jobPlace .attrs) (.annAssign (.name "tags") (.name "list")
      (some (.call attrsField [] [factoryArgument, defaultArgument])) ⟨5, 4⟩) = .error e) ∧
    ∃ field, readEntry (jobPlace .dataclasses) ⟨5, 4⟩ (.tuple [.constant (.str "tags"),
      .name "list", .call dataclassField [] []]) = .ok (some field) ∧ field.default = .absent := by
  have hspecifier : (jobPlace .attrs).isSpecifier attrsField := by decide
  have hdistinct : ([factoryArgument, typeArgument].filterMap Keyword.arg).Nodup := by decide
  have hperm : [factoryArgument, typeArgument].Perm [typeArgument, factoryArgument] :=
    .swap typeArgument factoryArgument []
  refine ⟨hspecifier, hdistinct, hperm, ?_, ?_, ?_⟩
  · obtain ⟨hsame, -, -⟩ := read_ofCall hspecifier hdistinct hperm "tags" none [] ⟨5, 4⟩
    have hread := Except.eq_ok_of_toOption (hsame.trans (by rfl))
    rw [readMember_assign_call rfl hspecifier, hread]
    rfl
  · obtain ⟨-, htwice, -⟩ := read_ofCall hspecifier (by decide)
      (.refl [factoryArgument, defaultArgument]) "tags" (some (.name "list")) [] ⟨5, 4⟩
    obtain ⟨e, he⟩ := htwice (by decide) (by decide)
    refine ⟨e, ?_⟩
    rw [readMember_annAssign_call, he]
    rfl
  · have hfield : (jobPlace .dataclasses).isSpecifier dataclassField := by decide
    obtain ⟨-, -, hnone⟩ := read_ofCall hfield (by decide) (.refl []) "tags" (some (.name "list"))
      [] ⟨5, 4⟩
    obtain ⟨field, hread⟩ : ∃ field, readEntry (jobPlace .dataclasses) ⟨5, 4⟩ (.tuple
      [.constant (.str "tags"), .name "list", .call dataclassField [] []]) = .ok (some field) :=
      ⟨_, rfl⟩
    rw [readEntry_call] at hread ⊢
    exact ⟨field, hread, hnone (by decide) field hread⟩

end RecordForms.Scan
