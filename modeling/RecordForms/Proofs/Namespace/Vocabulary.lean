import RecordForms.Proofs.Namespace
import RecordForms.Proofs.TypeExpr.Taken

/-!
# Which names a text can spell

The names and the symbols that are read from a text, in some namespace that resolves it.  Names are
dotted names, but for segments after the first, which may begin with a digit.  Symbols are the
arguments of literal types that are nothing else: words of letters, digits, dashes, dots and
underscores, in any order.

## Main definitions

* `TypeExpr.IsSymbolWord`: the words that stand for no constant and no integer
* `Namespace.Understands ns reference t`: `reference` spells `t`, and denotes a type in `ns`

## Main results

* `TypeExpr.parse_of_isReadName`, `TypeExpr.parse_of_isSymbolWord`: every name, and every such word
  as the argument of a literal type, is read
* `Namespace.exists_understands_iff`: nothing else is
* `Namespace.understands_dotted_iff`: when the names and the symbols that are read are dotted names
-/

namespace RecordForms

open RecordForms.Text

namespace TypeExpr

variable {path origin word : String}

/-- Words that stand for no constant and no integer. -/
structure IsSymbolWord (word : String) : Prop where
  nonempty : word.toList ≠ []
  chars : ∀ c ∈ word.toList, isLiteralChar c
  constant : Value.isConstantName word = false
  integer : Number.int64OfDecimal? word.toList = none

theorem isSymbolWord_of_isReadValue (h : IsReadValue (.symbol word)) : IsSymbolWord word := by
  generalize hv : Value.symbol word = v at h
  cases h with
  | text s => cases hv
  | word hne hchars =>
    obtain ⟨rfl, hconstant, hinteger⟩ := literalWord_eq_symbol_iff.mp hv.symm
    exact ⟨hne, hchars, hconstant, hinteger⟩

theorem IsReadName.isDotted_iff (h : IsReadName path) :
    isDotted path.toList ↔ startsSegments path.toList := by
  have hchars := forall_mem_of_isReadTail (isReadTail_of_isReadName h.1)
  rw [Text.isDotted_iff, and_iff_left hchars]

theorem IsSymbolWord.isDotted_iff (h : IsSymbolWord word) :
    isDotted word.toList ↔ startsSegments word.toList ∧ '-' ∉ word.toList := by
  rw [Text.isDotted_iff]
  refine and_congr_right fun _ => ⟨fun hchars hdash => ?_, fun hdash c hc => ?_⟩
  · rcases hchars '-' hdash with hpart | hdot
    · exact absurd hpart (by decide)
    · exact absurd hdot (by decide)
  · have hne : c ≠ '-' := fun heq => hdash (heq ▸ hc)
    have hchar := h.chars c hc
    simp only [isLiteralChar, Bool.or_eq_true, beq_iff_eq] at hchar
    simp only [isNamePart, Bool.or_eq_true, beq_iff_eq]
    tauto

theorem trimStart_append_of_isReadName (h : IsReadName path) (rest : List Char) :
    trimStart (path.toList ++ rest) = path.toList ++ rest := by
  have hread := h.1
  cases hpath : path.toList with
  | nil => simp [hpath] at hread
  | cons c cs =>
    rw [hpath, isReadName_cons, Bool.and_eq_true] at hread
    exact trimStart_cons (isBlank_eq_false_of_isNamePart (isNamePart_of_isNameStart hread.1)) _

/-- A name is read as the name that it is. -/
theorem parse_of_isReadName (h : IsReadName path) : parse path = .ok (name path) := by
  have hreads := (readsPrimary_name h).reads (length_pos_of_isReadName h)
  have hparse := parse_of_reads hreads (by simpa [chars] using trimStart_append_of_isReadName h [])
  rwa [text, chars, String.ofList_toList] at hparse

theorem chars_literal_symbol (origin word : String) : (literal origin [.symbol word]).chars =
    origin.toList ++ '[' :: (word.toList ++ [']']) := by
  rw [chars_literal, Value.chars_symbol]
  rfl

/-- A word that is no constant and no integer is read as a symbol. -/
theorem readsPrimary_of_isSymbolWord (horigin : IsReadName origin)
    (hliteral : isLiteralOrigin origin) (h : IsSymbolWord word) :
    ReadsPrimary (literal origin [.symbol word]) := by
  intro fuel cs rest hcs hrest hfuel
  simp only [chars_literal_symbol, List.append_assoc, List.cons_append, List.nil_append,
    List.length_append, List.length_cons] at hcs hfuel
  obtain ⟨fuel, rfl⟩ : ∃ n, fuel = n + 2 := ⟨fuel - 2, by omega⟩
  -- the word goes up to the bracket, and the bracket ends the arguments
  have hword : trimStart (word.toList ++ ']' :: rest) = word.toList ++ ']' :: rest := by
    obtain ⟨c, tail, hc⟩ := List.exists_cons_of_ne_nil h.nonempty
    have hchar := h.chars c (hc ▸ List.mem_cons_self)
    rw [hc, List.cons_append, trimStart_cons (isBlank_eq_false_of_isLiteralChar hchar)]
  have hfirst := literalItem_of_word hword h.nonempty h.chars (Or.inr rfl)
  rw [literalWord_eq_symbol_iff.mpr ⟨rfl, h.constant, h.integer⟩] at hfirst
  have hnone : PlainArgs [] := nofun
  have hmore : literalItems (fuel + 1) [.symbol word] (']' :: rest) = .ok ([.symbol word], rest) :=
    literalItems_commaBefore hnone (trimStart_cons (by decide) rest) (by simp)
  refine ⟨rest, ?_, rfl⟩
  simp only [primary, hcs, dotted_bracket horigin, Except.ok_bind, toList_ne_none horigin,
    if_false, eat?_bracket, String.ofList_toList, hliteral, if_true, hfirst, hmore]

theorem parse_of_isSymbolWord (horigin : IsReadName origin) (hliteral : isLiteralOrigin origin)
    (h : IsSymbolWord word) :
    parse (literal origin [.symbol word]).text = .ok (literal origin [.symbol word]) := by
  have hpos : 0 < (literal origin [.symbol word]).chars.length := by
    rw [chars_literal_symbol]
    exact List.length_pos_of_ne_nil (by simp)
  refine parse_of_reads ((readsPrimary_of_isSymbolWord horigin hliteral h).reads hpos) ?_
  rw [chars_literal_symbol]
  exact trimStart_append_of_isReadName horigin _

end TypeExpr

namespace Namespace

/-- Whether a text spells the type `t` and denotes a type in the namespace. -/
def Understands (ns : Namespace) (reference : String) (t : TypeExpr) : Prop :=
  TypeExpr.parse reference = .ok t ∧ ∃ t', ns.resolve reference = .ok t'

/-- Every name denotes itself somewhere. -/
theorem exists_knows (path : String) : ∃ ns : Namespace, ns.Knows path := by
  cases hmodule : moduleOf? path with
  | none =>
    refine ⟨(ofName "").define path, ?_⟩
    rw [Knows, hmodule]
    exact (NameMap.get?_insert ..).trans (if_pos rfl)
  | some head =>
    refine ⟨(ofName "").addImport head, ?_⟩
    rw [Knows, hmodule]
    exact Or.inl (List.elem_eq_true_of_mem ((NameSet.mem_insert ..).mpr (Or.inl rfl)))

theorem understands_name {path : String} (h : TypeExpr.IsReadName path) :
    ∃ ns, Understands ns path (.name path) := by
  obtain ⟨ns, hns⟩ := exists_knows path
  have hparse := TypeExpr.parse_of_isReadName h
  exact ⟨ns, hparse, .name path, by rw [resolve, hparse]; exact hns.resolvePath⟩

theorem understands_symbol {word : String} (h : TypeExpr.IsSymbolWord word) :
    ∃ ns reference, Understands ns reference (.literal "Literal" [.symbol word]) := by
  obtain ⟨ns, hns⟩ := exists_knows "Literal"
  have horigin : TypeExpr.IsTypeName "Literal" := by decide +kernel
  have hparse := TypeExpr.parse_of_isSymbolWord horigin.isReadName (by decide +kernel) h
  refine ⟨ns, _, hparse, .literal "Literal" [.symbol word], ?_⟩
  rw [resolve, hparse]
  simp only [substitute, hns.resolveOrigin, Except.ok_bind]

section

variable {ns : Namespace} {reference path word : String} {t : TypeExpr}

theorem Understands.isReadName (h : ns.Understands reference t) (hpath : path ∈ t.names) :
    TypeExpr.IsReadName path :=
  (TypeExpr.took_of_parse h.1).isReadName path hpath

theorem Understands.isSymbolWord (h : ns.Understands reference t)
    (hword : .symbol word ∈ t.values) : TypeExpr.IsSymbolWord word :=
  TypeExpr.isSymbolWord_of_isReadValue ((TypeExpr.took_of_parse h.1).isReadValue _ hword)

end

/-- What can be read as a name, and as a symbol, from a text that denotes a type somewhere. -/
theorem exists_understands_iff :
    (∀ path, (∃ ns reference t, Understands ns reference t ∧ path ∈ t.names) ↔
      TypeExpr.IsReadName path) ∧
    ∀ word, (∃ ns reference t, Understands ns reference t ∧ .symbol word ∈ t.values) ↔
      TypeExpr.IsSymbolWord word := by
  refine ⟨fun path => ⟨?_, fun h => ?_⟩, fun word => ⟨?_, fun h => ?_⟩⟩
  · rintro ⟨ns, reference, t, h, hpath⟩
    exact h.isReadName hpath
  · obtain ⟨ns, hns⟩ := understands_name h
    exact ⟨ns, path, .name path, hns, List.mem_singleton_self path⟩
  · rintro ⟨ns, reference, t, h, hword⟩
    exact h.isSymbolWord hword
  · obtain ⟨ns, reference, hns⟩ := understands_symbol h
    exact ⟨ns, reference, _, hns, List.mem_singleton_self _⟩

/-- **The names and the symbols that are read are dotted names** just if a letter or an underscore
stands at the beginning of every segment of them, and no dash in a symbol. -/
theorem understands_dotted_iff {ns : Namespace} {reference : String} {t : TypeExpr}
    (h : ns.Understands reference t) :
    ((∀ path ∈ t.names, isDotted path.toList) ∧
      ∀ word, .symbol word ∈ t.values → isDotted word.toList) ↔
    (∀ path ∈ t.names, startsSegments path.toList) ∧
      ∀ word, .symbol word ∈ t.values → startsSegments word.toList ∧ '-' ∉ word.toList := by
  refine and_congr ?_ ?_
  · exact forall₂_congr fun path hpath => (h.isReadName hpath).isDotted_iff
  · exact forall₂_congr fun word hword => (h.isSymbolWord hword).isDotted_iff

theorem understands_dotted_iff_red :
    typingNamespace.Understands "typing.Literal[Color.RED]"
      (.literal "typing.Literal" [.symbol "Color.RED"]) ∧
    isDotted "typing.Literal".toList ∧ isDotted "Color.RED".toList := by
  have hread : typingNamespace.Understands "typing.Literal[Color.RED]"
      (.literal "typing.Literal" [.symbol "Color.RED"]) := by
    refine ⟨?_, .literal "typing.Literal" [.symbol "Color.RED"], ?_⟩
    all_goals decide +kernel
  obtain ⟨hname, hsymbol⟩ := (understands_dotted_iff hread).mpr (by
    simp only [TypeExpr.names, TypeExpr.values, List.mem_singleton, forall_eq,
      Value.symbol.injEq]
    decide +kernel)
  exact ⟨hread, hname _ List.mem_cons_self, hsymbol _ List.mem_cons_self⟩

/-- A segment that begins with a digit is read, and a number with a point is read as a symbol. -/
theorem understands_digits :
    typingNamespace.Understands "typing.3d" (.name "typing.3d") ∧
    isDotted "typing.3d".toList = false ∧
    typingNamespace.Understands "typing.Literal[1.5]" (.literal "typing.Literal" [.symbol "1.5"]) ∧
    isDotted "1.5".toList = false := by
  refine ⟨⟨?_, .name "typing.3d", ?_⟩, ?_,
    ⟨?_, .literal "typing.Literal" [.symbol "1.5"], ?_⟩, ?_⟩
  all_goals decide +kernel

end Namespace

end RecordForms
