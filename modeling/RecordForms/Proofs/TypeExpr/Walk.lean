import RecordForms.Proofs.TypeExpr.Places

/-!
# Walks end within their texts

A walk through a type expression may go down as many levels as it is given, and a slice that it
takes could end anywhere.  Yet it ends for every text, three levels for a character and some more
being enough, and all its slices are there.  It goes round a loop only over a delimiter that is then
behind it, and takes at most three calls, one in another, to come to the next character; where a
name is given up, it goes back to where it was.

## Main definitions

* `Walk.ReadersFollow s levels fuel`: the walks over types with these levels do what the readers do
  with this fuel, if both are enough for the text that is left

## Main results

* `Walk.follows_dotted`, `Walk.follows_literalItem`: the walks over names and literal arguments
* `Walk.readersFollow`: so they do, for any levels and any fuel
* `walk_eq_parse`: a walk ends within its text, with what the reader reads
-/

namespace RecordForms.TypeExpr

open RecordForms.Text

namespace Walk

section Follows

variable {α : Type} {s : String} {cs rest : List Char}

/-! ### Names and literal arguments -/

/-- The characters of a name are read one by one, each from the place after the one before. -/
theorem follows_scanName {start i : Nat} {first segment : Bool} (hfirst : first = decide (i = 0))
    (hplace : place s cs = start + i) :
    Follows s cs (scanName start i segment cs) (.ok ((), (dottedRun first segment cs).2)) := by
  induction cs generalizing i first segment with
  | nil => exact .pure ()
  | cons c cs ih =>
    intro hcs
    have hzero : (!first) = decide (0 < i) := by
      rw [hfirst, ← decide_not]
      exact decide_eq_decide.mpr Nat.pos_iff_ne_zero.symm
    have hnext : place s cs = start + (i + c.utf8Size) := by
      rw [place_cons hcs, hplace, Nat.add_assoc]
    simp only [scanName, dottedRun, hzero]
    -- both ask the same of the next character
    generalize (ite (segment = true) (isAlphabetic c || _ || _) _) = fits
    cases fits with
    | false => exact Follows.pure () hcs
    | true =>
      have hover : Follows s (c :: cs) (set (start + i + c.utf8Size) : Walk PUnit) (.ok (⟨⟩, cs)) :=
        follows_set (fun _ => by rw [hnext, Nat.add_assoc]) (List.suffix_cons c cs)
      have hpos : false = decide (i + c.utf8Size = 0) :=
        (decide_eq_false (Nat.ne_of_gt (Nat.add_pos_right i c.utf8Size_pos))).symm
      exact hover.bind_ok (ih hpos hnext) hcs

theorem isEmpty_ofList (cs : List Char) : (String.ofList cs).isEmpty = cs.isEmpty := by
  rw [Bool.eq_iff_iff, String.isEmpty_iff, String.ofList_eq_empty_iff, List.isEmpty_iff]

/-- A name is read as far as it goes; where there is none, the walk is back at its beginning. -/
theorem follows_dotted : Follows s cs (Walk.dotted s)
    ((TypeExpr.dotted cs).map fun (run, rest) => (String.ofList run, rest)) := by
  intro hcs
  obtain ⟨run, rest, hread⟩ : ∃ run rest, dottedRun true true cs = (run, rest) := ⟨_, _, rfl⟩
  have hcut : run ++ rest = cs := by
    have hjoin := dottedRun_append_rest true true cs
    rwa [hread] at hjoin
  have hscan : Follows s cs (scanName (place s cs) 0 true cs) (.ok ((), rest)) := by
    have hrest : rest = (dottedRun true true cs).2 := by rw [hread]
    rw [hrest]
    exact follows_scanName rfl rfl
  have hslice : slice? s (place s cs) (place s rest) = some (String.ofList run) := by
    subst hcut
    exact slice?_place hcs
  rw [Walk.dotted, run_bind_of_ok (run_get _), run_bind_of_ok (follows_ahead hcs).1,
    String.toList_ofList, run_bind_of_ok (hscan hcs).1, run_bind_of_ok (run_get _),
    run_bind_of_ok (run_slice hslice _), String.toList_ofList]
  -- the walk is after the run that it has read, or goes back before it
  cases hend : run.isEmpty || run.getLast? == some '.' with
  | true =>
    have hdotted : TypeExpr.dotted cs = .error ⟨.name, cs⟩ := by
      rw [TypeExpr.dotted, hread]
      exact if_pos hend
    rw [isEmpty_ofList, hend, Bool.true_or, if_pos rfl, run_bind_of_ok (run_set _ _), hdotted]
    exact ⟨rfl, List.suffix_rfl⟩
  | false =>
    have hdotted : TypeExpr.dotted cs = .ok (run, rest) := by
      rw [TypeExpr.dotted, hread]
      exact if_neg (Bool.eq_false_iff.mp hend)
    have hname : isReadName (String.ofList run).toList := by
      rw [String.toList_ofList]
      exact (isReadName_of_dotted hdotted).1
    have hdots : (String.ofList run).contains ".." = false :=
      String.contains_string_eq_false_iff.mpr (not_infix_of_isReadName hname)
    rw [isEmpty_ofList, hend, hdots, Bool.or_self, if_neg Bool.false_ne_true, hdotted]
    exact ⟨rfl, ⟨run, hcut⟩⟩

/-- What stands after a quote, which takes one byte. -/
theorem slice?_body {quote : Char} (hquote : quote.utf8Size = 1) (body : List Char) :
    slice? (String.ofList (quote :: body)) 1 (String.ofList (quote :: body)).utf8ByteSize =
      some (String.ofList body) := by
  have hstart : byteLength [quote] = 1 := by
    rw [byteLength_cons, hquote, byteLength_nil]
  have hstop : byteLength [quote] + byteLength body =
      (String.ofList (quote :: body)).utf8ByteSize := by
    rw [utf8ByteSize_eq_byteLength, String.toList_ofList, ← byteLength_append,
      List.singleton_append]
  have htext : (String.ofList (quote :: body)).toList = [quote] ++ body ++ [] := by
    rw [String.toList_ofList, List.append_nil, List.singleton_append]
  have hslice := slice?_of_append htext
  rwa [hstop, hstart] at hslice

/-- A text in quotes is read up to the next quote of its kind. -/
theorem follows_quoted {quote : Char} (hquote : quote.utf8Size = 1) (body : List Char) :
    Follows s (quote :: body) (quoted quote (String.ofList (quote :: body)))
      (match cut quote body with
        | some (piece, rest) => .ok (.str (String.ofList piece), rest)
        | none => .error ⟨.string, quote :: body⟩) := by
  refine (follows_slice fun _ => slice?_body hquote body).bind_ok ?_
  rw [String.toList_ofList, bytesBefore?_of_cut]
  cases hcut : cut quote body with
  | none => exact .fail .string
  | some read =>
    obtain ⟨piece, rest⟩ := read
    have hbody : body = piece ++ quote :: rest := cut_eq_some hcut
    have hsplit : quote :: body = (quote :: (piece ++ [quote])) ++ rest := by
      rw [hbody, List.cons_append, List.append_assoc, List.singleton_append]
    -- both quotes are behind the walk then
    have hlength : byteLength (quote :: (piece ++ [quote])) = byteLength piece + 2 := by
      rw [byteLength_cons, byteLength_append, byteLength_cons, byteLength_nil, hquote]
      omega
    have hover : Follows s (quote :: body) (modify (· + (byteLength piece + 2)) : Walk PUnit)
        (.ok (⟨⟩, rest)) := by
      refine follows_modify (fun hcs => ?_) ⟨_, hsplit.symm⟩
      rw [hsplit] at hcs ⊢
      rw [place_append hcs, hlength]
    have hpiece : slice? (String.ofList body) 0 (byteLength piece) = some (String.ofList piece) :=
      slice?_zero (by rw [String.toList_ofList, hbody])
    exact hover.bind_ok ((follows_slice fun _ => hpiece).bind_ok (.pure _))

/-- A word is read as far as it goes. -/
theorem follows_word : Follows s cs (word (String.ofList cs))
    (if (cs.takeWhile isLiteralChar).isEmpty then .error ⟨.literal, cs⟩
      else .ok (literalWord (cs.takeWhile isLiteralChar), cs.dropWhile isLiteralChar)) := by
  have hsplit : cs.takeWhile isLiteralChar ++ cs.dropWhile isLiteralChar = cs :=
    List.takeWhile_append_dropWhile
  have hlength : (bytesBefore? (fun c => !isLiteralChar c) (String.ofList cs).toList).getD
      (String.ofList cs).utf8ByteSize = byteLength (cs.takeWhile isLiteralChar) := by
    rw [utf8ByteSize_eq_byteLength, String.toList_ofList, getD_bytesBefore?]
  have hword : slice? (String.ofList cs) 0 (byteLength (cs.takeWhile isLiteralChar)) =
      some (String.ofList (cs.takeWhile isLiteralChar)) :=
    slice?_zero (by rw [String.toList_ofList, hsplit])
  rw [word, hlength]
  refine (follows_slice fun _ => hword).bind_ok ?_
  rw [isEmpty_ofList, String.toList_ofList]
  split
  · exact .fail .literal
  · have hover : Follows s cs
        (modify (· + byteLength (cs.takeWhile isLiteralChar)) : Walk PUnit)
        (.ok (⟨⟩, cs.dropWhile isLiteralChar)) := by
      refine follows_modify (fun hcs => ?_) (List.dropWhile_suffix _)
      rw [← hsplit] at hcs
      rw [place_append hcs, hsplit]
    exact hover.bind_ok (.pure _)

theorem follows_literalItem : Follows s cs (Walk.literalItem s) (TypeExpr.literalItem cs) := by
  rw [TypeExpr.literalItem]
  refine follows_skipBlanks.bind_ok (follows_ahead.bind_ok ?_)
  rw [String.toList_ofList]
  cases htrim : trimStart cs with
  | nil => exact follows_word
  | cons c body =>
    have hdecide : (c == '\x27' || c == '"') = (decide (c = '\x27') || decide (c = '"')) := rfl
    rw [List.head?_cons, Option.filter_some, hdecide]
    cases hquote : decide (c = '\x27') || decide (c = '"') with
    | true =>
      have hsize : c.utf8Size = 1 := by
        rw [Bool.or_eq_true, decide_eq_true_eq, decide_eq_true_eq] at hquote
        rcases hquote with rfl | rfl
        · rfl
        · rfl
      simp only [hquote, if_true]
      exact follows_quoted hsize body
    | false =>
      simp only [hquote, Bool.false_eq_true, if_false]
      exact follows_word

/-- One round of a loop over arguments, and its end. -/
theorem follows_items {item : Walk α} {items : List α → Walk (List α)} {acc : List α}
    {read : List Char → Except Stop (α × List Char)}
    {readMore : List α → List Char → Except Stop (List α × List Char)}
    (hitem : ∀ rest, rest.length < cs.length → Follows s (trimStart rest) item (read rest))
    (hmore : ∀ a rest, rest.length < cs.length →
      Follows s rest (items (acc.reverse ++ [a])) (readMore (a :: acc) rest)) :
    Follows s cs
      (do
        if ← another s then
          items (acc.reverse ++ [← item])
        else
          Walk.expectClose s
          return acc.reverse)
      (match eat? ',' cs with
        | some rest =>
          if TypeExpr.atClose rest then do
            let rest ← TypeExpr.expectClose rest
            .ok (acc.reverse, rest)
          else do
            let (a, rest) ← read rest
            readMore (a :: acc) rest
        | none => do
          let rest ← TypeExpr.expectClose cs
          .ok (acc.reverse, rest)) := by
  cases hcomma : eat? ',' cs with
  | none =>
    refine (follows_another_none hcomma).bind_ok ?_
    rw [if_neg Bool.false_ne_true, ← expectClose_trimStart]
    exact follows_close _
  | some rest =>
    have hless : rest.length < cs.length := length_lt_of_eat? hcomma
    refine (follows_another hcomma).bind_ok ?_
    simp only
    cases TypeExpr.atClose rest with
    | true =>
      -- a comma before the closing bracket
      rw [Bool.not_true, if_neg Bool.false_ne_true, if_pos rfl, ← expectClose_trimStart]
      exact follows_close _
    | false =>
      rw [Bool.not_false, if_pos rfl, if_neg Bool.false_ne_true]
      refine (hitem rest hless).bind fun a rest' _ hrest' => hmore a rest' ?_
      have hle := (hrest'.trans (trimStart_suffix rest)).length_le
      exact Nat.lt_of_le_of_lt hle hless

theorem literalItem_trimStart (cs : List Char) :
    TypeExpr.literalItem (trimStart cs) = TypeExpr.literalItem cs := by
  rw [TypeExpr.literalItem, TypeExpr.literalItem, trimStart_trimStart]

/-- Every round of the loop takes a comma, so one level more than there are characters is enough. -/
theorem follows_literalItems {levels fuel : Nat} (h : cs.length < min levels fuel)
    (acc : List Value) :
    Follows s cs (Walk.literalItems s levels acc.reverse) (TypeExpr.literalItems fuel acc cs) := by
  induction levels generalizing cs acc fuel with
  | zero => omega
  | succ levels ih =>
    obtain ⟨fuel, rfl⟩ : ∃ n, fuel = n + 1 := ⟨fuel - 1, by omega⟩
    rw [Walk.literalItems, TypeExpr.literalItems]
    refine follows_items (fun rest _ => ?_) fun v rest hless => ?_
    · rw [← literalItem_trimStart]
      exact follows_literalItem
    · rw [← List.reverse_cons]
      exact ih (by omega) (v :: acc)

end Follows

/-! ### Types -/

/-- The walks over types come to what the readers of types do, if both may go down three levels for
every character that is left and some more. -/
structure ReadersFollow (s : String) (levels fuel : Nat) : Prop where
  alternatives : ∀ {cs}, 3 * cs.length + 3 ≤ min levels fuel →
    Follows s cs (Walk.alternatives s levels) (TypeExpr.alternatives fuel cs)
  moreAlternatives : ∀ {cs} acc, 3 * cs.length + 1 ≤ min levels fuel →
    Follows s cs (Walk.moreAlternatives s levels acc.reverse)
      (TypeExpr.moreAlternatives fuel acc cs)
  primary : ∀ {cs}, 3 * cs.length + 2 ≤ min levels fuel →
    Follows s cs (Walk.primary s levels) (TypeExpr.primary fuel cs)
  moreArguments : ∀ {cs} acc, 3 * cs.length + 1 ≤ min levels fuel →
    Follows s cs (Walk.moreArguments s levels acc.reverse) (TypeExpr.moreArguments fuel acc cs)

theorem alternatives_trimStart (fuel : Nat) (cs : List Char) :
    TypeExpr.alternatives (fuel + 2) (trimStart cs) = TypeExpr.alternatives (fuel + 2) cs := by
  simp only [TypeExpr.alternatives, TypeExpr.primary, trimStart_trimStart]

namespace ReadersFollow

variable {s : String} {levels fuel : Nat} {cs : List Char}

theorem alternatives_succ (h : ReadersFollow s levels fuel)
    (hbound : 3 * cs.length + 3 ≤ min (levels + 1) (fuel + 1)) :
    Follows s cs (Walk.alternatives s (levels + 1)) (TypeExpr.alternatives (fuel + 1) cs) := by
  rw [Walk.alternatives, TypeExpr.alternatives]
  refine (h.primary (by omega)).bind fun t rest _ hrest => ?_
  have hle := hrest.length_le
  refine (h.moreAlternatives [t] (by omega)).bind fun ts rest' _ _ => ?_
  exact .pure _

theorem moreAlternatives_succ (h : ReadersFollow s levels fuel) (acc : List TypeExpr)
    (hbound : 3 * cs.length + 1 ≤ min (levels + 1) (fuel + 1)) :
    Follows s cs (Walk.moreAlternatives s (levels + 1) acc.reverse)
      (TypeExpr.moreAlternatives (fuel + 1) acc cs) := by
  rw [Walk.moreAlternatives, TypeExpr.moreAlternatives]
  cases hbar : eat? '|' cs with
  | none =>
    refine (follows_eat_none hbar).bind_ok ?_
    exact .pure _
  | some rest =>
    have hless := length_lt_of_eat? hbar
    refine (follows_eat hbar).bind_ok ?_
    refine (h.primary (by omega)).bind fun t rest' _ hrest => ?_
    have hle := hrest.length_le
    rw [← List.reverse_cons]
    exact h.moreAlternatives (t :: acc) (by omega)

theorem moreArguments_succ (h : ReadersFollow s levels fuel) (acc : List TypeExpr)
    (hbound : 3 * cs.length + 1 ≤ min (levels + 1) (fuel + 1)) :
    Follows s cs (Walk.moreArguments s (levels + 1) acc.reverse)
      (TypeExpr.moreArguments (fuel + 1) acc cs) := by
  rw [Walk.moreArguments, TypeExpr.moreArguments]
  refine follows_items (fun rest hless => ?_) fun t rest hless => ?_
  · obtain ⟨n, rfl⟩ : ∃ n, fuel = n + 2 := ⟨fuel - 2, by omega⟩
    rw [← alternatives_trimStart]
    have hle := (trimStart_suffix rest).length_le
    exact h.alternatives (by omega)
  · rw [← List.reverse_cons]
    exact h.moreArguments (t :: acc) (by omega)

theorem primary_succ (h : ReadersFollow s levels fuel)
    (hbound : 3 * cs.length + 2 ≤ min (levels + 1) (fuel + 1)) :
    Follows s cs (Walk.primary s (levels + 1)) (TypeExpr.primary (fuel + 1) cs) := by
  rw [Walk.primary, TypeExpr.primary]
  refine follows_skipBlanks.bind_ok ?_
  have hname : Follows s (trimStart cs) (Walk.dotted s)
      ((TypeExpr.dotted (trimStart cs)).map fun (run, rest) => (String.ofList run, rest)) :=
    follows_dotted
  cases hread : TypeExpr.dotted (trimStart cs) with
  | error stop =>
    rw [hread] at hname
    exact hname.bind_error _
  | ok read =>
    obtain ⟨run, rest⟩ := read
    rw [hread] at hname
    have hsuffix : rest <:+ trimStart cs := ⟨run, (isReadName_of_dotted hread).2.symm⟩
    have hrest := (hsuffix.trans (trimStart_suffix cs)).length_le
    refine hname.bind_ok ?_
    simp only [Except.ok_bind]
    by_cases hnone : run = "None".toList
    · rw [if_pos hnone, if_pos (by rw [hnone, String.ofList_toList])]
      exact .pure _
    · have hpath : String.ofList run ≠ "None" := by
        rintro heq
        exact hnone (by rw [← heq, String.toList_ofList])
      rw [if_neg hnone, if_neg hpath]
      cases hbracket : eat? '[' rest with
      | none =>
        refine (follows_eat_none hbracket).bind_ok ?_
        exact .pure _
      | some tail =>
        have hless := length_lt_of_eat? hbracket
        refine (follows_eat hbracket).bind_ok ?_
        rw [if_pos rfl]
        simp only
        split
        · refine follows_literalItem.bind fun v rest' _ hrest' => ?_
          have hle := hrest'.length_le
          refine (follows_literalItems (by omega) [v]).bind fun vs rest'' _ _ => ?_
          exact .pure _
        · refine (h.alternatives (by omega)).bind fun t rest' _ hrest' => ?_
          have hle := hrest'.length_le
          refine (h.moreArguments [t] (by omega)).bind fun ts rest'' _ _ => ?_
          exact .pure _

end ReadersFollow

/-- Neither the walks nor the readers run out of levels when they have enough for the text that is
left, so it does not matter how many more they have. -/
theorem readersFollow (s : String) (levels fuel : Nat) : ReadersFollow s levels fuel := by
  -- All four at once: each call is to one of them with one level less.  Three calls may come one in
  -- another before a character is taken, which is why the bounds differ by one.
  induction levels generalizing fuel with
  | zero => exact ⟨by omega, by omega, by omega, by omega⟩
  | succ levels ih =>
    cases fuel with
    | zero => exact ⟨by omega, by omega, by omega, by omega⟩
    | succ fuel =>
      have hless := ih fuel
      exact ⟨hless.alternatives_succ, hless.moreAlternatives_succ, hless.primary_succ,
        hless.moreArguments_succ⟩

/-- What a whole text is read as, with nothing left of it. -/
theorem follows_whole {s : String} {levels : Nat} (hlevels : 3 * s.length + 3 ≤ levels) :
    Follows s s.toList (whole s levels) ((parseChars s.toList).map fun t => (t, [])) := by
  rw [parseChars, whole]
  have hread : Follows s s.toList (Walk.alternatives s levels)
      (TypeExpr.alternatives (3 * s.toList.length + 3) s.toList) := by
    rw [← String.length_toList] at hlevels
    exact (readersFollow s _ _).alternatives (Nat.le_min.mpr ⟨hlevels, Nat.le_refl _⟩)
  cases hcs : TypeExpr.alternatives (3 * s.toList.length + 3) s.toList with
  | error stop =>
    rw [hcs] at hread
    exact hread.bind_error _
  | ok read =>
    obtain ⟨t, rest⟩ := read
    rw [hcs] at hread
    refine hread.bind_ok (follows_skipBlanks.bind_ok (follows_get.bind_ok ?_))
    simp only [Except.ok_bind]
    intro hrest
    cases htrim : trimStart rest with
    | nil =>
      rw [htrim] at hrest
      rw [if_neg (by rw [place_lt_iff hrest]; exact fun h => h rfl)]
      exact Follows.pure t hrest
    | cons c tail =>
      rw [htrim] at hrest
      rw [if_pos (by rw [place_lt_iff hrest]; exact List.cons_ne_nil c tail)]
      exact Follows.fail .trailing hrest

end Walk

/-- What stops a reader is told by its place in the text. -/
theorem parse_eq_error {s : String} {m : Malformed} (h : parse s = .error m) :
    ∃ stop, parseChars s.toList = .error stop ∧ m = ⟨place s stop.rest, stop.fault⟩ := by
  rw [parse] at h
  split at h
  · cases h
  · rename_i stop hread
    exact ⟨stop, hread, (Except.error.inj h).symm⟩

/-- **A walk ends within its text.**  Whatever the text is, a walk through it ends, three levels for
every character and three more being enough; it takes no slice that begins or ends inside a
character or past the end; and it comes to what the text is read as.  A text that spells no type is
refused at a place where it can be cut. -/
theorem walk_eq_parse (s : String) :
    (∀ levels, 3 * s.length + 3 ≤ levels →
        walk levels s = some ((parse s).mapError Halt.malformed)) ∧
      ∀ m, parse s = .error m → m.offset ≤ s.utf8ByteSize ∧ IsBoundary s m.offset := by
  constructor
  · intro levels hlevels
    obtain ⟨hrun, -⟩ := Walk.follows_whole hlevels List.suffix_rfl
    rw [place_toList] at hrun
    rw [walk, hrun, parse]
    cases parseChars s.toList with
    | ok t => rfl
    | error stop => rfl
  · intro m hm
    obtain ⟨stop, hread, rfl⟩ := parse_eq_error hm
    obtain ⟨-, hleft⟩ := Walk.follows_whole (Nat.le_refl _) (List.suffix_rfl (l := s.toList))
    rw [hread] at hleft
    have hboundary : IsBoundary s (place s stop.rest) := isBoundary_place hleft
    exact ⟨hboundary.le_utf8ByteSize, hboundary⟩

/-- The place of the quote that is left open, with letters of two bytes before it and after it. -/
theorem walk_eq_parse_openQuote :
    parse "dict[str, Größe | Literal['ä" = .error ⟨28, .string⟩ ∧
      walk 90 "dict[str, Größe | Literal['ä" = some (.error (.malformed ⟨28, .string⟩)) ∧
      28 ≤ "dict[str, Größe | Literal['ä".utf8ByteSize ∧
      IsBoundary "dict[str, Größe | Literal['ä" 28 := by
  have hread : parse "dict[str, Größe | Literal['ä" = .error ⟨28, .string⟩ := by decide +kernel
  have hlevels : 3 * "dict[str, Größe | Literal['ä".length + 3 ≤ 90 := by decide +kernel
  obtain ⟨hwalk, hplace⟩ := walk_eq_parse "dict[str, Größe | Literal['ä"
  have hend := hwalk 90 hlevels
  rw [hread] at hend
  exact ⟨hread, hend, hplace _ hread⟩

end RecordForms.TypeExpr
