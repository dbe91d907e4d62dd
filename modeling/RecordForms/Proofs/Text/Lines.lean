import Mathlib.Data.List.Basic
import RecordForms.Text.Pieces

/-!
# Texts on one line

A text breaks its line where it holds a line feed or a carriage return.  Texts that hold neither can
be put together in any way and still stand on one line, and cutting a file at its line feeds finds
such texts again.

## Main definitions

* `isBreak`: the characters that break a line
* `IsOneLine cs`, `IsLine text`: `cs`, and the characters of `text`, are none of them

## Main results

* `isOneLine_append`, `isOneLine_flatMap`, `isOneLine_intercalate`: putting texts together
* `isLine_append`, `isLine_intercalate`: the same for strings
* `splitAt_flatMap`: the lines of a file that ends all of them
-/

namespace RecordForms.Text

/-- The characters that break a line. -/
def isBreak (c : Char) : Bool :=
  c == '\n' || c == '\r'

/-- Texts that hold no character that breaks a line. -/
def IsOneLine (cs : List Char) : Prop :=
  ∀ c ∈ cs, isBreak c = false

instance (cs : List Char) : Decidable (IsOneLine cs) :=
  List.decidableBAll (isBreak · = false) cs

variable {cs ds : List Char} {c : Char}

/-! ### Putting texts together -/

@[simp] theorem isOneLine_nil : IsOneLine [] := by
  simp [IsOneLine]

@[simp] theorem isOneLine_cons : IsOneLine (c :: cs) ↔ isBreak c = false ∧ IsOneLine cs :=
  List.forall_mem_cons

@[simp] theorem isOneLine_append : IsOneLine (cs ++ ds) ↔ IsOneLine cs ∧ IsOneLine ds :=
  List.forall_mem_append

theorem isOneLine_flatMap {α : Type} {as : List α} {f : α → List Char} :
    IsOneLine (as.flatMap f) ↔ ∀ a ∈ as, IsOneLine (f a) :=
  List.forall_mem_flatMap

theorem isOneLine_intercalate {sep : List Char} {items : List (List Char)} (hsep : IsOneLine sep)
    (hitems : ∀ cs ∈ items, IsOneLine cs) : IsOneLine (List.intercalate sep items) := by
  induction items with
  | nil => exact isOneLine_nil
  | cons cs items ih =>
    obtain ⟨hcs, hitems⟩ := List.forall_mem_cons.mp hitems
    -- a separator stands only where another item follows
    cases items with
    | nil => simpa [List.intercalate] using hcs
    | cons ds items =>
      rw [List.intercalate_cons_cons, isOneLine_append, isOneLine_append]
      exact ⟨⟨hcs, hsep⟩, ih hitems⟩

/-- Strings on one line. -/
def IsLine (text : String) : Prop :=
  IsOneLine text.toList

instance (text : String) : Decidable (IsLine text) :=
  inferInstanceAs (Decidable (IsOneLine text.toList))

@[simp] theorem isLine_append {s t : String} : IsLine (s ++ t) ↔ IsLine s ∧ IsLine t := by
  rw [IsLine, String.toList_append, isOneLine_append, IsLine, IsLine]

@[simp] theorem isLine_ofList : IsLine (String.ofList cs) ↔ IsOneLine cs := by
  rw [IsLine, String.toList_ofList]

theorem isLine_intercalate {sep : String} {items : List String} (hsep : IsLine sep)
    (hitems : ∀ s ∈ items, IsLine s) : IsLine (String.intercalate sep items) := by
  rw [IsLine, String.toList_intercalate]
  exact isOneLine_intercalate hsep (List.forall_mem_map.mpr hitems)

/-! ### Cutting a file -/

theorem IsOneLine.notMem (h : IsOneLine cs) (hc : isBreak c) : c ∉ cs := by
  intro hmem
  rw [h c hmem] at hc
  cases hc

theorem splitAt_append {sep : Char} (h : sep ∉ cs) (rest : List Char) :
    splitAt sep (cs ++ sep :: rest) = cs :: splitAt sep rest := by
  induction cs with
  | nil => rw [List.nil_append, splitAt, if_pos rfl]
  | cons c cs ih =>
    rw [List.mem_cons, not_or] at h
    rw [List.cons_append, splitAt, if_neg (Ne.symm h.1), ih h.2]

/-- A file that ends each of its lines is cut into them, with nothing after the last end. -/
theorem splitAt_flatMap {lines : List (List Char)} (h : ∀ line ∈ lines, IsOneLine line) :
    splitAt '\n' (lines.flatMap (· ++ ['\n'])) = lines ++ [[]] := by
  induction lines with
  | nil => rfl
  | cons line lines ih =>
    obtain ⟨hline, hlines⟩ := List.forall_mem_cons.mp h
    rw [List.flatMap_cons, List.append_assoc, List.singleton_append,
      splitAt_append (hline.notMem rfl), ih hlines, List.cons_append]

end RecordForms.Text
