import RecordForms.Text.Pieces

/-!
# Slices of a text

A text can be cut after a number of bytes only where a character begins or the text ends.  A slice
stands between two such places; between any other two numbers there is none.

## Main definitions

* `IsBoundary s i`: a character of `s` begins after `i` bytes, or `s` ends there
* `slice? s start stop`: what stands between two numbers of bytes
* `bytesBefore? p cs`: the number of bytes before the first character that satisfies `p`
-/

namespace RecordForms.Text

/-- Whether a character of `s` begins after `i` bytes, or `s` ends there. -/
def IsBoundary (s : String) (i : Nat) : Prop :=
  (⟨i⟩ : String.Pos.Raw).IsValid s

instance (s : String) (i : Nat) : Decidable (IsBoundary s i) :=
  inferInstanceAs (Decidable (String.Pos.Raw.IsValid s ⟨i⟩))

/-- What stands between two numbers of bytes.  There is no slice if one of them is inside a
character or past the end, or if the second is less than the first. -/
def slice? (s : String) (start stop : Nat) : Option String :=
  if h : start ≤ stop ∧ IsBoundary s start ∧ IsBoundary s stop then
    some (s.extract ⟨⟨start⟩, h.2.1⟩ ⟨⟨stop⟩, h.2.2⟩)
  else none

/-- The number of bytes before the first character that satisfies `p`, if there is one. -/
def bytesBefore? (p : Char → Bool) : List Char → Option Nat
  | [] => none
  | c :: cs => if p c then some 0 else (bytesBefore? p cs).map (c.utf8Size + ·)

theorem size_utf8Encode (cs : List Char) : cs.utf8Encode.size = byteLength cs := by
  induction cs with
  | nil => rfl
  | cons c cs ih =>
    have hc : [c].utf8Encode.size = c.utf8Size := by
      rw [List.utf8Encode_singleton, List.size_toByteArray, String.length_utf8EncodeChar]
    rw [List.utf8Encode_cons, ByteArray.size_append, ih, hc, byteLength_cons]

theorem utf8ByteSize_eq_byteLength (s : String) : s.utf8ByteSize = byteLength s.toList := by
  rw [← size_utf8Encode, ← String.toByteArray_ofList, String.ofList_toList,
    String.size_toByteArray]

theorem byteLength_pos {cs : List Char} (h : cs ≠ []) : 0 < byteLength cs := by
  obtain ⟨c, cs, rfl⟩ := List.exists_cons_of_ne_nil h
  rw [byteLength_cons]
  exact Nat.add_pos_left c.utf8Size_pos _

variable {s : String}

/-- The places where a text can be cut are the ends of what it begins with. -/
theorem isBoundary_of_append {front back : List Char} (h : s.toList = front ++ back) :
    IsBoundary s (byteLength front) := by
  refine String.Pos.Raw.isValid_iff_exists_append.mpr
    ⟨String.ofList front, String.ofList back, ?_, ?_⟩
  · rw [← String.ofList_append, ← h, String.ofList_toList]
  · rw [String.Pos.Raw.ext_iff, String.byteIdx_rawEndPos, utf8ByteSize_eq_byteLength,
      String.toList_ofList]

theorem IsBoundary.le_utf8ByteSize {i : Nat} (h : IsBoundary s i) : i ≤ s.utf8ByteSize :=
  String.Pos.Raw.IsValid.le_utf8ByteSize h

/-- The slice between the ends of two parts of a text is what stands between them. -/
theorem slice?_of_append {front mid back : List Char} (h : s.toList = front ++ mid ++ back) :
    slice? s (byteLength front) (byteLength front + byteLength mid) =
      some (String.ofList mid) := by
  have hstart : IsBoundary s (byteLength front) :=
    isBoundary_of_append (by rw [h, List.append_assoc])
  have hstop : IsBoundary s (byteLength front + byteLength mid) := by
    rw [← byteLength_append]
    exact isBoundary_of_append h
  have hbytes : s.toByteArray = front.utf8Encode ++ (mid.utf8Encode ++ back.utf8Encode) := by
    rw [← String.ofList_toList (s := s), h, String.toByteArray_ofList, List.append_assoc,
      List.utf8Encode_append, List.utf8Encode_append]
  have hrest := ByteArray.extract_append_size_add' (i := 0) (j := byteLength mid)
    (a := front.utf8Encode) (b := mid.utf8Encode ++ back.utf8Encode) (size_utf8Encode front).symm
  have hmid : (mid.utf8Encode ++ back.utf8Encode).extract 0 (byteLength mid) = mid.utf8Encode :=
    ByteArray.extract_append_eq_left (size_utf8Encode mid).symm
  rw [Nat.add_zero, hmid, ← hbytes] at hrest
  rw [slice?, dif_pos ⟨Nat.le_add_right _ _, hstart, hstop⟩, Option.some.injEq,
    ← String.toByteArray_inj, String.toByteArray_ofList]
  exact hrest

theorem slice?_zero {front back : List Char} (h : s.toList = front ++ back) :
    slice? s 0 (byteLength front) = some (String.ofList front) := by
  have hslice : slice? s (byteLength []) (byteLength [] + byteLength front) =
      some (String.ofList front) := slice?_of_append h
  rwa [byteLength_nil, Nat.zero_add] at hslice

/-! ### The first character of a kind -/

theorem bytesBefore?_of_cut {quote : Char} (cs : List Char) :
    bytesBefore? (· == quote) cs = (cut quote cs).map fun (body, _) => byteLength body := by
  induction cs with
  | nil => rfl
  | cons c cs ih =>
    simp only [bytesBefore?, cut, beq_iff_eq]
    split
    · rfl
    · cases hcut : cut quote cs with
      | none => simp [ih, hcut]
      | some piece => simp [ih, hcut]

theorem getD_bytesBefore? (p : Char → Bool) (cs : List Char) :
    (bytesBefore? (fun c => !p c) cs).getD (byteLength cs) = byteLength (cs.takeWhile p) := by
  induction cs with
  | nil => rfl
  | cons c cs ih =>
    rw [bytesBefore?, List.takeWhile_cons]
    cases hc : p c with
    | false => rfl
    | true =>
      rw [Bool.not_true, if_neg Bool.false_ne_true, if_pos rfl, byteLength_cons, byteLength_cons,
        ← ih]
      cases bytesBefore? (fun c => !p c) cs <;> rfl

end RecordForms.Text
