import Mathlib.Algebra.GroupWithZero.Nat
import RecordForms.Proofs.Except
import RecordForms.Proofs.TypeExpr.Regular
import RecordForms.Proofs.TypeExpr.Tokens

/-!
# What the reader of types takes

Whatever text the reader of types is given, what it takes of it can be told from what it reads: the
names that it reads are identifiers with segments after them, the arguments of literal types are
texts and words, and every backslash that it takes stands in such a text.  Nothing is escaped for
this reader, so it keeps each of them.

## Main definitions

* `TypeExpr.values`: the arguments of the literal types in a type
* `IsReadValue`: the arguments that are read
* `Value.slashes`: the number of backslashes in a text
* `Took cs rest names values`: a reader that leaves `rest` of `cs` has taken these names and values
* `ReadersTake fuel`: what the readers take when they are called with this fuel

## Main results

* `readersTake`: they take nothing else, with whatever fuel
* `took_of_parse`: what is taken of a text that spells a type
-/

namespace RecordForms

open RecordForms.Text

/-- The number of backslashes in a text; other values have none. -/
def Value.slashes : Value → Nat
  | str s => s.toList.count '\\'
  | _ => 0

namespace TypeExpr

mutual

/-- The arguments of the literal types in a type, in the order of its text. -/
def values : TypeExpr → List Value
  | name _ | noneType => []
  | generic _ args => itemValues args
  | union members => itemValues members
  | literal _ values => values

/-- The arguments of the literal types in the types of a list. -/
def itemValues : List TypeExpr → List Value
  | [] => []
  | t :: ts => values t ++ itemValues ts

end

theorem itemValues_eq_flatMap (ts : List TypeExpr) : itemValues ts = ts.flatMap values := by
  induction ts with
  | nil => rfl
  | cons t ts ih => rw [itemValues, ih, List.flatMap_cons]

/-- Arguments of literal types as they are read: texts, and what words stand for. -/
inductive IsReadValue : Value → Prop
  | text (s : String) : IsReadValue (.str s)
  | word {word : List Char} (hne : word ≠ []) (hword : ∀ c ∈ word, isLiteralChar c) :
      IsReadValue (literalWord word)

/-- A reader that leaves `rest` of `cs` has taken these names and values: each of them is one that
can be read, and the backslashes are those of the values. -/
structure Took (cs rest : List Char) (names : List String) (values : List Value) : Prop where
  isReadName : ∀ path ∈ names, IsReadName path
  isReadValue : ∀ v ∈ values, IsReadValue v
  slashes : cs.count '\\' = (values.map Value.slashes).sum + rest.count '\\'

theorem Took.refl (cs : List Char) : Took cs cs [] [] where
  isReadName := by simp
  isReadValue := by simp
  slashes := by simp

/-- A name is taken as soon as it is not the one that is read as `None`. -/
theorem Took.name {cs rest : List Char} {path : String} (h : Took cs rest [] [])
    (hpath : IsReadName path) : Took cs rest [path] [] where
  isReadName := by simpa using hpath
  isReadValue := h.isReadValue
  slashes := h.slashes

/-- One reader after another takes what both take. -/
theorem Took.trans {cs mid rest : List Char} {names names' : List String}
    {values values' : List Value} (h : Took cs mid names values)
    (h' : Took mid rest names' values') :
    Took cs rest (names ++ names') (values ++ values') where
  isReadName := List.forall_mem_append.mpr ⟨h.isReadName, h'.isReadName⟩
  isReadValue := List.forall_mem_append.mpr ⟨h.isReadValue, h'.isReadValue⟩
  slashes := by
    rw [h.slashes, h'.slashes, List.map_append, List.sum_append, Nat.add_assoc]

/-! ### Tokens -/

theorem took_trimStart (cs : List Char) : Took cs (trimStart cs) [] [] := by
  induction cs with
  | nil => exact .refl []
  | cons c cs ih =>
    cases hc : isBlank c with
    | false =>
      rw [trimStart_cons hc]
      exact .refl (c :: cs)
    | true =>
      rw [trimStart_cons_of_isBlank hc]
      have hne : c ≠ '\\' := by
        rintro rfl
        exact absurd hc (by decide)
      exact ⟨ih.isReadName, ih.isReadValue, by rw [List.count_cons_of_ne hne, ih.slashes]⟩

theorem took_eat {c : Char} {cs rest : List Char} (hc : c ≠ '\\') (h : eat? c cs = some rest) :
    Took cs rest [] [] := by
  have hblanks := took_trimStart cs
  rw [trimStart_eq_of_eat? h] at hblanks
  refine hblanks.trans ⟨by simp, by simp, ?_⟩
  rw [List.count_cons_of_ne hc, List.map_nil, List.sum_nil, Nat.zero_add]

theorem took_expectClose {cs rest : List Char} (h : expectClose cs = .ok rest) :
    Took cs rest [] [] := by
  rw [expectClose] at h
  cases hclose : eat? ']' cs with
  | none =>
    rw [hclose] at h
    cases h
  | some tail =>
    rw [hclose] at h
    obtain rfl : tail = rest := Except.ok.inj h
    exact took_eat (by decide) hclose

/-- The closing bracket ends what has been read. -/
theorem took_of_close {α : Type} {acc items : List α} {cs rest : List Char}
    (h : (do
      let rest ← expectClose cs
      Except.ok (acc.reverse, rest)) = Except.ok (items, rest)) :
    items = acc.reverse ∧ Took cs rest [] [] := by
  obtain ⟨tail, hread, heq⟩ := Except.bind_eq_ok_iff.mp h
  obtain ⟨rfl, rfl⟩ := Prod.mk.inj (Except.ok.inj heq)
  exact ⟨rfl, took_expectClose hread⟩

theorem dottedRun_append_rest (first segment : Bool) (cs : List Char) :
    (dottedRun first segment cs).1 ++ (dottedRun first segment cs).2 = cs := by
  induction cs generalizing first segment with
  | nil => rfl
  | cons c cs ih =>
    have hread : c :: (dottedRun false (c == '.') cs).1 ++ (dottedRun false (c == '.') cs).2 =
        c :: cs := by
      rw [List.cons_append, ih]
    simp only [dottedRun]
    -- a character is read or not, at the beginning of a segment as within it
    split <;> split
    · exact hread
    · rfl
    · exact hread
    · rfl

/-- The last of some characters is the last of them with one more before, if there are any. -/
theorem getLast?_ne_of_cons {c d : Char} {cs : List Char} (h : (c :: cs).getLast? ≠ some d) :
    cs.getLast? ≠ some d := by
  cases cs with
  | nil => simp
  | cons e cs => rwa [List.getLast?_cons_cons] at h

/-- What is read of a name after its first character is segments, if it does not end with a dot. -/
theorem dottedRun_spec (cs : List Char) :
    ((dottedRun false false cs).1.getLast? ≠ some '.' → isReadTail (dottedRun false false cs).1) ∧
      ((dottedRun false true cs).1.getLast? ≠ some '.' → (dottedRun false true cs).1 = [] ∨
        areSegments (dottedRun false true cs).1) := by
  -- Both at once: a dot leads from the first statement to the second, any other character back.
  induction cs with
  | nil => exact ⟨fun _ => rfl, fun _ => Or.inl rfl⟩
  | cons c cs ih =>
    obtain ⟨ihtail, ihsegments⟩ := ih
    constructor
    · intro hlast
      simp only [dottedRun, Bool.false_eq_true, if_false] at hlast ⊢
      split at hlast
      · rename_i hfits
        rw [if_pos hfits, isReadTail_cons]
        split
        · -- a segment comes after a dot, since the dot is not the last character
          rename_i hc
          subst hc
          rcases ihsegments (getLast?_ne_of_cons hlast) with hnil | hsegments
          · simp [hnil] at hlast
          · exact hsegments
        · rename_i hc
          rw [beq_false_of_ne hc] at hlast ⊢
          simp only [Bool.or_eq_true, beq_iff_eq, hc, or_false] at hfits
          rw [Bool.and_eq_true]
          exact ⟨by simpa [isNamePart] using hfits, ihtail (getLast?_ne_of_cons hlast)⟩
      · rename_i hfits
        rw [if_neg hfits]
        rfl
    · intro hlast
      simp only [dottedRun, if_true] at hlast ⊢
      split at hlast
      · rename_i hfits
        have hpart : isNamePart c := by
          simp only [Bool.not_false, Bool.true_and, Bool.or_eq_true] at hfits
          simp only [isNamePart, Bool.or_eq_true]
          rcases hfits with (hletter | hunderscore) | halphanumeric
          · exact Or.inl (by rw [isAlphanumeric, hletter, Bool.true_or])
          · exact Or.inr hunderscore
          · exact Or.inl halphanumeric
        rw [beq_false_of_ne (isNamePart_ne_dot hpart)] at hlast ⊢
        rw [if_pos hfits, areSegments_cons, Bool.and_eq_true]
        exact Or.inr ⟨hpart, ihtail (getLast?_ne_of_cons hlast)⟩
      · rename_i hfits
        rw [if_neg hfits]
        exact Or.inl rfl

/-- What is read as a dotted name is an identifier with segments after it. -/
theorem isReadName_of_dotted {cs run rest : List Char} (h : dotted cs = .ok (run, rest)) :
    isReadName run ∧ cs = run ++ rest := by
  have hjoin := dottedRun_append_rest true true cs
  rw [dotted] at h
  simp only at h
  split at h
  · cases h
  · rename_i hend
    obtain ⟨hrun, hrest⟩ := Prod.mk.inj (Except.ok.inj h)
    rw [hrun, hrest] at hjoin
    refine ⟨?_, hjoin.symm⟩
    rw [Bool.or_eq_true, not_or, beq_iff_eq, List.isEmpty_iff, hrun] at hend
    cases cs with
    | nil => exact absurd hrun.symm hend.1
    | cons c cs =>
      simp only [dottedRun, if_true] at hrun
      split at hrun
      · rename_i hfits
        have hstart : isNameStart c := by simpa [isNameStart] using hfits
        rw [beq_false_of_ne (isNameStart_ne_dot hstart)] at hrun
        rw [← hrun] at hend ⊢
        rw [isReadName_cons, Bool.and_eq_true]
        exact ⟨hstart, (dottedRun_spec cs).1 (getLast?_ne_of_cons hend.2)⟩
      · exact absurd hrun.symm hend.1

theorem not_mem_of_isReadName {cs : List Char} (h : isReadName cs) : '\\' ∉ cs := by
  intro hmem
  rcases forall_mem_of_isReadTail (isReadTail_of_isReadName h) '\\' hmem with hpart | hdot
  · exact absurd hpart (by decide)
  · exact absurd hdot (by decide)

theorem took_dotted {cs run rest : List Char} (h : dotted cs = .ok (run, rest)) :
    Took cs rest [] [] := by
  obtain ⟨hrun, rfl⟩ := isReadName_of_dotted h
  refine ⟨by simp, by simp, ?_⟩
  rw [List.count_append, List.count_eq_zero_of_not_mem (not_mem_of_isReadName hrun)]
  rfl

theorem cut_eq_some {sep : Char} {cs s rest : List Char} (h : cut sep cs = some (s, rest)) :
    cs = s ++ sep :: rest := by
  induction cs generalizing s with
  | nil => cases h
  | cons c cs ih =>
    rw [cut] at h
    split at h
    · rename_i hc
      obtain ⟨rfl, rfl⟩ := Prod.mk.inj (Option.some.inj h)
      rw [hc, List.nil_append]
    · obtain ⟨⟨a, b⟩, hcut, hpair⟩ := Option.map_eq_some_iff.mp h
      obtain ⟨rfl, rfl⟩ := Prod.mk.inj hpair
      rw [ih hcut, List.cons_append]

theorem slashes_literalWord (word : List Char) : (literalWord word).slashes = 0 := by
  rw [literalWord]
  split
  · rfl
  · split
    · rfl
    · split
      · rfl
      · split
        · rfl
        · rfl

theorem took_literalItem {cs rest : List Char} {v : Value} (h : literalItem cs = .ok (v, rest)) :
    Took cs rest [] [v] := by
  refine (took_trimStart cs).trans ?_
  rw [literalItem] at h
  split at h
  · cases h
  · rename_i c body htrim
    rw [htrim]
    split at h
    · -- what stands between the quotes is the value, backslashes included
      rename_i hquote
      cases hcut : cut c body with
      | none =>
        rw [hcut] at h
        cases h
      | some piece =>
        rw [hcut] at h
        obtain ⟨rfl, rfl⟩ := Prod.mk.inj (Except.ok.inj h)
        have hc : c ≠ '\\' := by
          rintro rfl
          exact absurd hquote (by decide)
        have hslashes : (Value.str (String.ofList piece.1)).slashes = piece.1.count '\\' := by
          rw [Value.slashes, String.toList_ofList]
        refine ⟨by simp, by simpa using .text _, ?_⟩
        rw [cut_eq_some hcut, List.map_singleton, List.sum_singleton, hslashes,
          List.count_cons_of_ne hc, List.count_append, List.count_cons_of_ne hc]
    · -- a word has none
      rw [← htrim]
      simp only at h
      split at h
      · cases h
      · rename_i hne
        obtain ⟨rfl, rfl⟩ := Prod.mk.inj (Except.ok.inj h)
        have hchars : ∀ c ∈ (trimStart cs).takeWhile isLiteralChar, isLiteralChar c :=
          List.all_eq_true.mp List.all_takeWhile
        have hword : '\\' ∉ (trimStart cs).takeWhile isLiteralChar := fun hmem =>
          absurd (hchars _ hmem) (by decide)
        have hcount : (trimStart cs).count '\\' =
            ((trimStart cs).dropWhile isLiteralChar).count '\\' := by
          conv_lhs =>
            rw [← List.takeWhile_append_dropWhile (p := isLiteralChar) (l := trimStart cs)]
          rw [List.count_append, List.count_eq_zero_of_not_mem hword, Nat.zero_add]
        refine ⟨by simp, by simpa using .word (by simpa using hne) hchars, ?_⟩
        rw [List.map_singleton, List.sum_singleton, slashes_literalWord, Nat.zero_add, hcount]

/-- The values that are read are added to those that have been read, and what they take is taken. -/
theorem took_literalItems {fuel : Nat} {acc vs : List Value} {cs rest : List Char}
    (h : literalItems fuel acc cs = .ok (vs, rest)) :
    ∃ new, vs = acc.reverse ++ new ∧ Took cs rest [] new := by
  induction fuel generalizing acc cs with
  | zero => cases h
  | succ fuel ih =>
    rw [literalItems] at h
    split at h
    · rename_i tail hcomma
      have htail : Took cs tail [] [] := took_eat (by decide) hcomma
      split at h
      · -- a comma before the closing bracket
        obtain ⟨rfl, hclose⟩ := took_of_close h
        exact ⟨[], (List.append_nil _).symm, htail.trans hclose⟩
      · obtain ⟨⟨v, tail'⟩, hread, hmore⟩ := Except.bind_eq_ok_iff.mp h
        obtain ⟨new, rfl, hnew⟩ := ih hmore
        refine ⟨v :: new, ?_, htail.trans ((took_literalItem hread).trans hnew)⟩
        rw [List.reverse_cons, List.append_assoc, List.singleton_append]
    · obtain ⟨rfl, hclose⟩ := took_of_close h
      exact ⟨[], (List.append_nil _).symm, hclose⟩

/-! ### Types -/

/-- What the four readers of types take when they are called with this fuel. -/
structure ReadersTake (fuel : Nat) : Prop where
  alternatives : ∀ {cs t rest}, alternatives fuel cs = .ok (t, rest) →
    Took cs rest t.names t.values
  moreAlternatives : ∀ {acc cs ts rest}, moreAlternatives fuel acc cs = .ok (ts, rest) →
    ∃ new, ts = acc.reverse ++ new ∧ Took cs rest (itemNames new) (itemValues new)
  primary : ∀ {cs t rest}, primary fuel cs = .ok (t, rest) → Took cs rest t.names t.values
  moreArguments : ∀ {acc cs ts rest}, moreArguments fuel acc cs = .ok (ts, rest) →
    ∃ new, ts = acc.reverse ++ new ∧ Took cs rest (itemNames new) (itemValues new)

theorem names_ofMembers (ts : List TypeExpr) : (ofMembers ts).names = itemNames ts := by
  match ts with
  | [] => rfl
  | [t] => rw [ofMembers, itemNames, itemNames, List.append_nil]
  | _ :: _ :: _ => rw [ofMembers, names]; simp

theorem values_ofMembers (ts : List TypeExpr) : (ofMembers ts).values = itemValues ts := by
  match ts with
  | [] => rfl
  | [t] => rw [ofMembers, itemValues, itemValues, List.append_nil]
  | _ :: _ :: _ => rw [ofMembers, values]; simp

namespace ReadersTake

variable {fuel : Nat} {cs rest : List Char}

theorem alternatives_succ (h : ReadersTake fuel) {t : TypeExpr}
    (hread : TypeExpr.alternatives (fuel + 1) cs = .ok (t, rest)) :
    Took cs rest t.names t.values := by
  rw [TypeExpr.alternatives] at hread
  obtain ⟨⟨first, mid⟩, hfirst, hread⟩ := Except.bind_eq_ok_iff.mp hread
  obtain ⟨⟨ts, tail⟩, hmore, heq⟩ := Except.bind_eq_ok_iff.mp hread
  obtain ⟨rfl, rfl⟩ := Prod.mk.inj (Except.ok.inj heq)
  obtain ⟨new, rfl, hnew⟩ := h.moreAlternatives hmore
  rw [names_ofMembers, values_ofMembers]
  exact (h.primary hfirst).trans hnew

theorem moreAlternatives_succ (h : ReadersTake fuel) {acc ts : List TypeExpr}
    (hread : TypeExpr.moreAlternatives (fuel + 1) acc cs = .ok (ts, rest)) :
    ∃ new, ts = acc.reverse ++ new ∧ Took cs rest (itemNames new) (itemValues new) := by
  rw [TypeExpr.moreAlternatives] at hread
  split at hread
  · rename_i tail hbar
    obtain ⟨⟨t, mid⟩, hfirst, hmore⟩ := Except.bind_eq_ok_iff.mp hread
    obtain ⟨new, rfl, hnew⟩ := h.moreAlternatives hmore
    refine ⟨t :: new, ?_, (took_eat (by decide) hbar).trans ((h.primary hfirst).trans hnew)⟩
    rw [List.reverse_cons, List.append_assoc, List.singleton_append]
  · obtain ⟨rfl, rfl⟩ := Prod.mk.inj (Except.ok.inj hread)
    exact ⟨[], (List.append_nil _).symm, took_trimStart cs⟩

theorem moreArguments_succ (h : ReadersTake fuel) {acc ts : List TypeExpr}
    (hread : TypeExpr.moreArguments (fuel + 1) acc cs = .ok (ts, rest)) :
    ∃ new, ts = acc.reverse ++ new ∧ Took cs rest (itemNames new) (itemValues new) := by
  rw [TypeExpr.moreArguments] at hread
  split at hread
  · rename_i tail hcomma
    have htail : Took cs tail [] [] := took_eat (by decide) hcomma
    split at hread
    · obtain ⟨rfl, hclose⟩ := took_of_close hread
      exact ⟨[], (List.append_nil _).symm, htail.trans hclose⟩
    · obtain ⟨⟨t, mid⟩, hfirst, hmore⟩ := Except.bind_eq_ok_iff.mp hread
      obtain ⟨new, rfl, hnew⟩ := h.moreArguments hmore
      refine ⟨t :: new, ?_, htail.trans ((h.alternatives hfirst).trans hnew)⟩
      rw [List.reverse_cons, List.append_assoc, List.singleton_append]
  · obtain ⟨rfl, hclose⟩ := took_of_close hread
    exact ⟨[], (List.append_nil _).symm, hclose⟩

theorem primary_succ (h : ReadersTake fuel) {t : TypeExpr}
    (hread : TypeExpr.primary (fuel + 1) cs = .ok (t, rest)) :
    Took cs rest t.names t.values := by
  -- What is read is built from a name and what follows it in brackets, each taken by a reader of
  -- its own; the brackets and the blanks before them take nothing.
  rw [TypeExpr.primary] at hread
  obtain ⟨⟨path, mid⟩, hpath, hread⟩ := Except.bind_eq_ok_iff.mp hread
  have hpart : Took cs mid [] [] := (took_trimStart cs).trans (took_dotted hpath)
  simp only at hread
  split at hread
  · -- `None` is a name that is read and dropped
    obtain ⟨rfl, rfl⟩ := Prod.mk.inj (Except.ok.inj hread)
    exact hpart
  · rename_i hnone
    have hname : Took cs mid [String.ofList path] [] := by
      refine hpart.name ⟨?_, ?_⟩
      · rw [String.toList_ofList]
        exact (isReadName_of_dotted hpath).1
      · exact fun h => hnone (by rw [← h, String.toList_ofList])
    split at hread
    · obtain ⟨rfl, rfl⟩ := Prod.mk.inj (Except.ok.inj hread)
      exact hname.trans (took_trimStart mid)
    · rename_i tail hbracket
      have htail : Took cs tail [String.ofList path] [] := by
        exact hname.trans (took_eat (by decide) hbracket)
      split at hread
      · obtain ⟨⟨v, tail'⟩, hfirst, hread⟩ := Except.bind_eq_ok_iff.mp hread
        obtain ⟨⟨vs, tail''⟩, hmore, heq⟩ := Except.bind_eq_ok_iff.mp hread
        obtain ⟨rfl, rfl⟩ := Prod.mk.inj (Except.ok.inj heq)
        obtain ⟨new, rfl, hnew⟩ := took_literalItems hmore
        exact htail.trans ((took_literalItem hfirst).trans hnew)
      · obtain ⟨⟨arg, tail'⟩, hfirst, hread⟩ := Except.bind_eq_ok_iff.mp hread
        obtain ⟨⟨ts, tail''⟩, hmore, heq⟩ := Except.bind_eq_ok_iff.mp hread
        obtain ⟨rfl, rfl⟩ := Prod.mk.inj (Except.ok.inj heq)
        obtain ⟨new, rfl, hnew⟩ := h.moreArguments hmore
        exact htail.trans ((h.alternatives hfirst).trans hnew)

end ReadersTake

/-- The readers of types take names and the arguments of literal types, with whatever fuel. -/
theorem readersTake (fuel : Nat) : ReadersTake fuel := by
  -- All four at once: each call is to one of them with less fuel.
  induction fuel with
  | zero =>
    refine ⟨fun h => ?_, fun h => ?_, fun h => ?_, fun h => ?_⟩
    · cases h
    · cases h
    · cases h
    · cases h
  | succ fuel ih =>
    exact ⟨ih.alternatives_succ, ih.moreAlternatives_succ, ih.primary_succ, ih.moreArguments_succ⟩

/-- A text that spells a type is alternatives with nothing but blanks after them. -/
theorem exists_alternatives_of_parse {s : String} {t : TypeExpr} (h : parse s = .ok t) :
    ∃ rest, alternatives (3 * s.toList.length + 3) s.toList = .ok (t, rest) ∧
      trimStart rest = [] := by
  have hchars : parseChars s.toList = .ok t := by
    rw [parse] at h
    split at h
    · rename_i t' hread
      obtain rfl : t' = t := Except.ok.inj h
      exact hread
    · cases h
  rw [parseChars] at hchars
  obtain ⟨⟨t', rest⟩, hread, hchars⟩ := Except.bind_eq_ok_iff.mp hchars
  simp only at hchars
  split at hchars
  · rename_i hnil
    obtain rfl : t' = t := Except.ok.inj hchars
    exact ⟨rest, hread, hnil⟩
  · cases hchars

/-- What is taken of a text that spells a type is the whole text. -/
theorem took_of_parse {s : String} {t : TypeExpr} (h : parse s = .ok t) :
    Took s.toList [] t.names t.values := by
  obtain ⟨rest, hread, hnil⟩ := exists_alternatives_of_parse h
  have hrest := took_trimStart rest
  rw [hnil] at hrest
  have htook := ((readersTake _).alternatives hread).trans hrest
  rwa [List.append_nil, List.append_nil] at htook

end TypeExpr

end RecordForms
