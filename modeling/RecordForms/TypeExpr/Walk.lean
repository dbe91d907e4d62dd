import RecordForms.Text.Slice
import RecordForms.TypeExpr.Parser

/-!
# Walking through a type expression

The reader of types as a walk through the bytes of the text.  A walk keeps one number, the bytes
that are behind it, and looks at the text through slices alone.  It goes down a level for every call
of the reader and every round of a loop; a walk that has no level left has not ended, which is not a
way to end.

## Main definitions

* `Halt`: what stops a walk before there is a type
* `Walk`: a computation on the number of bytes behind it, which may stop, or not end
* `Walk.slice`, `Walk.ahead`: the slices of the text that a walk takes
* `Walk.skipBlanks`, `Walk.eat`, `Walk.dotted`, `Walk.literalItem`: what moves a walk on
* `Walk.alternatives`: the alternatives at a place
* `walk`: the type that a whole text spells
-/

namespace RecordForms.TypeExpr

open RecordForms.Text

/-- What stops a walk before there is a type. -/
inductive Halt where
  /-- The text spells no type. -/
  | malformed (place : Malformed)
  /-- There is no slice between two numbers of bytes. -/
  | outside (start stop : Nat)
  deriving DecidableEq, Repr

/-- A computation that keeps the number of bytes behind it.  It gives nothing if it does not end in
the levels that it has. -/
abbrev Walk :=
  StateT Nat (ExceptT Halt Option)

namespace Walk

/-- What a walk comes to from a place, and the place where it ends. -/
def run {α : Type} (w : Walk α) (start : Nat) : Option (Except Halt (α × Nat)) :=
  ExceptT.run (StateT.run w start)

/-- A walk that has no level left. -/
def unended {α : Type} : Walk α :=
  fun _ => ExceptT.mk none

/-- Stops where the walk is. -/
def fail {α : Type} (fault : Fault) : Walk α := do
  throw (.malformed ⟨← get, fault⟩)

/-- What stands between two numbers of bytes of `s`. -/
def slice (s : String) (start stop : Nat) : Walk String :=
  match slice? s start stop with
  | some piece => return piece
  | none => throw (.outside start stop)

variable (s : String)

/-- The text that is ahead. -/
def ahead : Walk String := do
  slice s (← get) s.utf8ByteSize

/-- Goes on to what stands after blanks. -/
def skipBlanks : Walk Unit := do
  let text ← ahead s
  set (s.utf8ByteSize - byteLength (trimStart text.toList))

/-- Whether `c` comes next. -/
def sees (c : Char) : Walk Bool := do
  return (← ahead s).toList.head? == some c

/-- Goes on to what stands after blanks, and over the character `c` if it comes next. -/
def eat (c : Char) : Walk Bool := do
  skipBlanks s
  if ← sees s c then
    modify (· + c.utf8Size)
    return true
  else
    return false

/-- Whether `]` comes next after blanks. -/
def atClose : Walk Bool := do
  skipBlanks s
  sees s ']'

/-- Goes on over `]`, which has to come next after blanks. -/
def expectClose : Walk Unit := do
  if ← eat s ']' then
    return ()
  else
    fail .closing

/-- Whether another argument comes next: there is a comma, and no `]` after it. -/
def another : Walk Bool := do
  if ← eat s ',' then
    return !(← atClose s)
  else
    return false

/-- Goes on over the longest run of characters of a dotted name, which began at `start`.  `i` bytes
of it have been read. -/
def scanName (start : Nat) : Nat → Bool → List Char → Walk Unit
  | _, _, [] => return ()
  | i, segment, c :: cs =>
    let fits :=
      if segment then isAlphabetic c || c == '_' || (decide (0 < i) && isAlphanumeric c)
      else isAlphanumeric c || c == '_' || c == '.'
    if fits then do
      set (start + i + c.utf8Size)
      scanName start (i + c.utf8Size) (c == '.') cs
    else return ()

/-- Goes on over a dotted name, or back to where it should have begun. -/
def dotted : Walk String := do
  let start ← get
  scanName start 0 true (← ahead s).toList
  let path ← slice s start (← get)
  if path.isEmpty || path.toList.getLast? == some '.' || path.contains ".." then
    set start
    fail .name
  else
    return path

/-- Goes on over a text in quotes, where nothing is escaped.  It begins with `quote` at the
beginning of `text`, which is what is ahead. -/
def quoted (quote : Char) (text : String) : Walk Value := do
  let body ← slice text 1 text.utf8ByteSize
  match bytesBefore? (· == quote) body.toList with
  | some length =>
    -- a quote takes one byte
    modify (· + (length + 2))
    return .str (← slice body 0 length)
  | none => fail .string

/-- Goes on over a word at the beginning of `text`, which is what is ahead. -/
def word (text : String) : Walk Value := do
  let length := (bytesBefore? (fun c => !isLiteralChar c) text.toList).getD text.utf8ByteSize
  let word ← slice text 0 length
  if word.isEmpty then
    fail .literal
  else
    modify (· + length)
    return literalWord word.toList

/-- Goes on over a literal argument, in quotes or without. -/
def literalItem : Walk Value := do
  skipBlanks s
  let text ← ahead s
  match text.toList.head?.filter fun c => c == '\x27' || c == '"' with
  | some quote => quoted quote text
  | none => word text

/-- Goes on over the literal arguments after those that have been read, and over `]`. -/
def literalItems : Nat → List Value → Walk (List Value)
  | 0, _ => unended
  | levels + 1, values => do
    if ← another s then
      literalItems levels (values ++ [← literalItem s])
    else
      expectClose s
      return values

mutual

/-- Goes on over alternatives. -/
def alternatives : Nat → Walk TypeExpr
  | 0 => unended
  | levels + 1 => do
    let t ← primary levels
    return ofMembers (← moreAlternatives levels [t])

/-- Goes on over the alternatives after those that have been read. -/
def moreAlternatives : Nat → List TypeExpr → Walk (List TypeExpr)
  | 0, _ => unended
  | levels + 1, members => do
    if ← eat s '|' then
      moreAlternatives levels (members ++ [← primary levels])
    else
      return members

/-- Goes on over a name, subscripted or not, or `None`. -/
def primary : Nat → Walk TypeExpr
  | 0 => unended
  | levels + 1 => do
    skipBlanks s
    let path ← dotted s
    if path = "None" then
      return noneType
    else if ← eat s '[' then
      if isLiteralOrigin path then
        let v ← literalItem s
        return literal path (← literalItems s levels [v])
      else
        let t ← alternatives levels
        return generic path (← moreArguments levels [t])
    else
      return name path

/-- Goes on over the arguments after those that have been read, and over `]`. -/
def moreArguments : Nat → List TypeExpr → Walk (List TypeExpr)
  | 0, _ => unended
  | levels + 1, args => do
    if ← another s then
      moreArguments levels (args ++ [← alternatives levels])
    else
      expectClose s
      return args

end

/-- Goes through the whole text, which has to spell a type. -/
def whole (levels : Nat) : Walk TypeExpr := do
  let t ← alternatives s levels
  skipBlanks s
  if (← get) < s.utf8ByteSize then
    fail .trailing
  else
    return t

end Walk

/-- The type that a text spells, as a walk from its beginning finds it; nothing, if the walk does
not end in these levels. -/
def walk (levels : Nat) (s : String) : Option (Except Halt TypeExpr) :=
  ((Walk.whole s levels).run 0).map fun r => r.map Prod.fst

end RecordForms.TypeExpr
