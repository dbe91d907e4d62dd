import RecordForms.Proofs.TypeExpr.Taken
import RecordForms.TypeExpr.Walk

/-!
# Places in a type expression

A reader of types keeps the text that is left, a walk the number of bytes behind it.  The two tell
the same place as long as what is left is an end of the text, and then a walk does what a reader
does: every slice that it takes begins and ends at such a place.

## Main definitions

* `place s left`: the number of bytes of `s` before what is left of it
* `Walk.Follows s cs w outcome`: from the place where `cs` is left of `s`, the walk `w` comes to
  what a reader comes to

## Main results

* `isBoundary_place`: a text can be cut at every place where an end of it is left
* `slice?_place`: what stands between two places is what is left at the first, up to the second
* `Walk.Follows.bind`: one walk after another does what one reader after another does
* `Walk.follows_eat`, `Walk.follows_another`, `Walk.follows_close`: the walks over delimiters
-/

namespace RecordForms.TypeExpr

open RecordForms.Text

/-! ### Places -/

/-- The number of bytes of `s` before what is left of it. -/
def place (s : String) (left : List Char) : Nat :=
  byteLength s.toList - byteLength left

section Places

variable {s : String} {cs run rest : List Char}

theorem place_eq {front : List Char} (h : front ++ cs = s.toList) :
    place s cs = byteLength front := by
  rw [place, ← h, byteLength_append, Nat.add_sub_cancel]

@[simp] theorem place_toList (s : String) : place s s.toList = 0 :=
  Nat.sub_self _

theorem place_nil (s : String) : place s [] = s.utf8ByteSize :=
  (utf8ByteSize_eq_byteLength s).symm

/-- A text can be cut wherever an end of it is left. -/
theorem isBoundary_place (h : cs <:+ s.toList) : IsBoundary s (place s cs) := by
  obtain ⟨front, hfront⟩ := h
  rw [place_eq hfront]
  exact isBoundary_of_append hfront.symm

theorem place_append (h : run ++ rest <:+ s.toList) :
    place s rest = place s (run ++ rest) + byteLength run := by
  obtain ⟨front, hfront⟩ := h
  rw [place_eq hfront, ← byteLength_append]
  exact place_eq (by rw [List.append_assoc, hfront])

theorem place_cons {c : Char} (h : c :: rest <:+ s.toList) :
    place s rest = place s (c :: rest) + c.utf8Size := by
  have happend : place s rest = place s ([c] ++ rest) + byteLength [c] := place_append h
  rwa [byteLength_cons, byteLength_nil, Nat.add_zero, List.singleton_append] at happend

/-- What is left at one place, up to another. -/
theorem slice?_place (h : run ++ rest <:+ s.toList) :
    slice? s (place s (run ++ rest)) (place s rest) = some (String.ofList run) := by
  obtain ⟨front, hfront⟩ := h
  rw [place_append ⟨front, hfront⟩, place_eq hfront]
  exact slice?_of_append (by rw [List.append_assoc, hfront])

theorem slice?_ahead (h : cs <:+ s.toList) :
    slice? s (place s cs) s.utf8ByteSize = some (String.ofList cs) := by
  have hslice : slice? s (place s (cs ++ [])) (place s []) = some (String.ofList cs) :=
    slice?_place (by rwa [List.append_nil])
  rwa [List.append_nil, place_nil] at hslice

/-- Something is ahead of every place but the end. -/
theorem place_lt_iff (h : cs <:+ s.toList) : place s cs < s.utf8ByteSize ↔ cs ≠ [] := by
  constructor
  · rintro hlt rfl
    rw [place_nil] at hlt
    exact Nat.lt_irrefl _ hlt
  · intro hne
    have hend : place s [] = place s (cs ++ []) + byteLength cs :=
      place_append (by rwa [List.append_nil])
    rw [place_nil, List.append_nil] at hend
    have hpos := byteLength_pos hne
    omega

end Places

namespace Walk

/-! ### Runs -/

section Runs

variable {α β : Type}

@[simp] theorem run_pure (a : α) (n : Nat) : (pure a : Walk α).run n = some (.ok (a, n)) := rfl

@[simp] theorem run_get (n : Nat) : (get : Walk Nat).run n = some (.ok (n, n)) := rfl

@[simp] theorem run_set (m n : Nat) : (set m : Walk PUnit).run n = some (.ok (⟨⟩, m)) := rfl

@[simp] theorem run_modify (f : Nat → Nat) (n : Nat) :
    (modify f : Walk PUnit).run n = some (.ok (⟨⟩, f n)) := rfl

theorem run_slice {t piece : String} {start stop : Nat} (h : slice? t start stop = some piece)
    (n : Nat) : (slice t start stop).run n = some (.ok (piece, n)) := by
  rw [slice, h]
  rfl

theorem run_bind (w : Walk α) (f : α → Walk β) (n : Nat) : (w >>= f).run n =
    w.run n >>= ExceptT.bindCont fun p => StateT.run (f p.1) p.2 := rfl

theorem run_bind_of_ok {w : Walk α} {f : α → Walk β} {a : α} {m n : Nat}
    (h : w.run n = some (.ok (a, m))) : (w >>= f).run n = (f a).run m := by
  rw [run_bind, h]
  rfl

theorem run_bind_of_error {w : Walk α} {f : α → Walk β} {e : Halt} {n : Nat}
    (h : w.run n = some (.error e)) : (w >>= f).run n = some (.error e) := by
  rw [run_bind, h]
  rfl

end Runs

/-! ### Walks beside readers -/

section Follows

variable {α β : Type}

/-- The text that a reader leaves, whether it reads something or not. -/
def left : Except Stop (α × List Char) → List Char
  | .ok (_, rest) => rest
  | .error stop => stop.rest

/-- What a reader comes to, told by places in `s`. -/
def located (s : String) : Except Stop (α × List Char) → Except Halt (α × Nat)
  | .ok (a, rest) => .ok (a, place s rest)
  | .error stop => .error (.malformed ⟨place s stop.rest, stop.fault⟩)

/-- From the place where `cs` is left of `s`, the walk `w` comes to `outcome`, which is what a
reader comes to that begins with `cs`; so the walk ends, and takes no slice that is not there. -/
def Follows (s : String) (cs : List Char) (w : Walk α) (outcome : Except Stop (α × List Char)) :
    Prop :=
  cs <:+ s.toList → w.run (place s cs) = some (located s outcome) ∧ left outcome <:+ cs

variable {s : String} {cs rest : List Char}

namespace Follows

theorem pure (a : α) : Follows s cs (pure a) (.ok (a, cs)) :=
  fun _ => ⟨rfl, List.suffix_rfl⟩

theorem fail (fault : Fault) : Follows s cs (fail fault : Walk α) (.error ⟨fault, cs⟩) :=
  fun _ => ⟨rfl, List.suffix_rfl⟩

/-- One walk after another comes to what one reader after another does. -/
theorem bind {w : Walk α} {outcome : Except Stop (α × List Char)} {f : α → Walk β}
    {g : α × List Char → Except Stop (β × List Char)} (h : Follows s cs w outcome)
    (hf : ∀ a rest, outcome = .ok (a, rest) → rest <:+ cs → Follows s rest (f a) (g (a, rest))) :
    Follows s cs (w >>= f) (outcome >>= g) := by
  intro hcs
  obtain ⟨hrun, hleft⟩ := h hcs
  cases outcome with
  | error stop => exact ⟨run_bind_of_error hrun, hleft⟩
  | ok read =>
    obtain ⟨a, rest⟩ := read
    obtain ⟨hnext, hsuffix⟩ := hf a rest rfl hleft (hleft.trans hcs)
    rw [run_bind_of_ok hrun]
    exact ⟨hnext, hsuffix.trans hleft⟩

theorem bind_ok {w : Walk α} {a : α} {f : α → Walk β} {outcome : Except Stop (β × List Char)}
    (h : Follows s cs w (.ok (a, rest))) (hf : Follows s rest (f a) outcome) :
    Follows s cs (w >>= f) outcome :=
  bind (g := fun _ => outcome) h fun a' rest' heq _ => by
    obtain ⟨rfl, rfl⟩ := Prod.mk.inj (Except.ok.inj heq)
    exact hf

theorem bind_error {w : Walk α} {stop : Stop} (h : Follows s cs w (.error stop))
    (f : α → Walk β) : Follows s cs (w >>= f) (.error stop) :=
  bind (g := fun _ => .error stop) h nofun

end Follows

theorem follows_get : Follows s cs (get : Walk Nat) (.ok (place s cs, cs)) :=
  fun _ => ⟨rfl, List.suffix_rfl⟩

/-- A walk may be set to any place that is ahead. -/
theorem follows_set {n : Nat} (hn : cs <:+ s.toList → n = place s rest) (h : rest <:+ cs) :
    Follows s cs (set n : Walk PUnit) (.ok (⟨⟩, rest)) := by
  intro hcs
  rw [run_set, hn hcs]
  exact ⟨rfl, h⟩

theorem follows_modify {n : Nat} (hn : cs <:+ s.toList → place s cs + n = place s rest)
    (h : rest <:+ cs) : Follows s cs (modify (· + n) : Walk PUnit) (.ok (⟨⟩, rest)) := by
  intro hcs
  rw [run_modify, hn hcs]
  exact ⟨rfl, h⟩

theorem follows_slice {t piece : String} {start stop : Nat}
    (h : cs <:+ s.toList → slice? t start stop = some piece) :
    Follows s cs (slice t start stop) (.ok (piece, cs)) :=
  fun hcs => ⟨run_slice (h hcs) _, List.suffix_rfl⟩

/-! ### Tokens -/

theorem follows_ahead : Follows s cs (ahead s) (.ok (String.ofList cs, cs)) :=
  follows_get.bind_ok (follows_slice slice?_ahead)

theorem follows_sees (c : Char) : Follows s cs (sees s c) (.ok (cs.head? == some c, cs)) := by
  refine follows_ahead.bind_ok ?_
  rw [String.toList_ofList]
  exact .pure _

theorem trimStart_suffix (cs : List Char) : trimStart cs <:+ cs :=
  List.dropWhile_suffix _

theorem follows_skipBlanks : Follows s cs (skipBlanks s) (.ok ((), trimStart cs)) := by
  refine follows_ahead.bind_ok (follows_set (fun _ => ?_) (trimStart_suffix cs))
  rw [String.toList_ofList, utf8ByteSize_eq_byteLength, place]

/-- A character that is eaten is no longer left. -/
theorem length_lt_of_eat? {c : Char} (h : eat? c cs = some rest) : rest.length < cs.length := by
  have hle := (trimStart_suffix cs).length_le
  rw [trimStart_eq_of_eat? h, List.length_cons] at hle
  exact hle

theorem follows_eat {c : Char} (h : eat? c cs = some rest) :
    Follows s cs (eat s c) (.ok (true, rest)) := by
  have htrim := trimStart_eq_of_eat? h
  refine follows_skipBlanks.bind_ok ?_
  refine (follows_sees c).bind_ok ?_
  rw [htrim, List.head?_cons, beq_self_eq_true, if_pos rfl]
  have hover : Follows s (c :: rest) (modify (· + c.utf8Size) : Walk PUnit) (.ok (⟨⟩, rest)) :=
    follows_modify (fun hcs => (place_cons hcs).symm) (List.suffix_cons c rest)
  exact hover.bind_ok (.pure true)

theorem follows_eat_none {c : Char} (h : eat? c cs = none) :
    Follows s cs (eat s c) (.ok (false, trimStart cs)) := by
  refine follows_skipBlanks.bind_ok ?_
  refine (follows_sees c).bind_ok ?_
  rw [beq_false_of_ne (head?_ne_of_eat? h), if_neg Bool.false_ne_true]
  exact .pure _

theorem eat?_trimStart (c : Char) (cs : List Char) : eat? c (trimStart cs) = eat? c cs := by
  rw [eat?, eat?, trimStart_trimStart]

theorem follows_atClose :
    Follows s cs (Walk.atClose s) (.ok (TypeExpr.atClose cs, trimStart cs)) := by
  have hclose : TypeExpr.atClose cs = ((trimStart cs).head? == some ']') := by
    rw [TypeExpr.atClose]
    cases h : eat? ']' cs with
    | none => rw [beq_false_of_ne (head?_ne_of_eat? h), Option.isSome_none]
    | some rest =>
      rw [trimStart_eq_of_eat? h, List.head?_cons, beq_self_eq_true, Option.isSome_some]
  rw [hclose]
  exact follows_skipBlanks.bind_ok (follows_sees ']')

/-- The closing bracket ends what has been read. -/
theorem follows_close (a : α) :
    Follows s cs
      (do
        Walk.expectClose s
        return a)
      (do
        let rest ← TypeExpr.expectClose cs
        .ok (a, rest)) := by
  rw [TypeExpr.expectClose]
  cases h : eat? ']' cs with
  | some rest =>
    have hclose : Follows s cs (Walk.expectClose s) (.ok ((), rest)) :=
      (follows_eat h).bind_ok (.pure ())
    exact hclose.bind_ok (.pure a)
  | none =>
    have hclose : Follows s cs (Walk.expectClose s) (.error ⟨.closing, trimStart cs⟩) :=
      (follows_eat_none h).bind_ok (.fail .closing)
    exact hclose.bind_error _

theorem expectClose_trimStart (cs : List Char) :
    TypeExpr.expectClose (trimStart cs) = TypeExpr.expectClose cs := by
  rw [TypeExpr.expectClose, TypeExpr.expectClose, eat?_trimStart, trimStart_trimStart]

theorem follows_another (h : eat? ',' cs = some rest) :
    Follows s cs (another s) (.ok (!TypeExpr.atClose rest, trimStart rest)) :=
  (follows_eat h).bind_ok (follows_atClose.bind_ok (.pure _))

theorem follows_another_none (h : eat? ',' cs = none) :
    Follows s cs (another s) (.ok (false, trimStart cs)) :=
  (follows_eat_none h).bind_ok (.pure _)

end Follows

end Walk

end RecordForms.TypeExpr
