import RecordForms.Tree.Basic

/-!
# Places in a source file

A source file is read from a cursor: the text that is left, where it begins, and the block that it
is in.  What stands between two tokens is a gap.  Whether a gap ends a line or a block depends on
what may come next, so gaps are looked at only when the next token is asked for.

## Main definitions

* `Cursor`: the cursors; `Cursor.step`, `Cursor.drop` move them
* `Gap`, `Cursor.gap`: the blanks and comments between two tokens
* `Join`, `Cursor.joins`: the backslashes that join lines in a gap
* `Cursor.seek?`: the next token where a line cannot end
* `Follow`, `Cursor.proceed?`: the next token after something that may be complete
* `Cursor.lineEnd?`: the end of a line
* `Cursor.nextLine`: the next statement of a block, or the end of the block
-/

namespace RecordForms.Reader

/-- A place in a source file. -/
structure Cursor where
  /-- The text that is left. -/
  rest : List Char
  /-- The number of characters before the place. -/
  offset : Nat
  /-- The line, counted from one. -/
  line : Nat
  /-- The bytes before the place on its line. -/
  column : Nat
  /-- The indentation of the block. -/
  indent : Nat
  /-- Whether the place is inside a formatted literal. -/
  isFormatted : Bool
  deriving Repr, Inhabited

namespace Cursor

/-- The beginning of a source file. -/
def ofString (source : String) : Cursor :=
  ⟨source.toList, 0, 1, 0, 0, false⟩

/-- The place after the next character. -/
def step (c : Cursor) : Cursor :=
  match c.rest with
  | [] => c
  | '\n' :: rest =>
    { c with rest := rest, offset := c.offset + 1, line := c.line + 1, column := 0 }
  | d :: rest =>
    { c with rest := rest, offset := c.offset + 1, column := c.column + d.utf8Size }

/-- The place after the next `n` characters. -/
def drop (c : Cursor) : Nat → Cursor
  | 0 => c
  | n + 1 => c.step.drop n

/-- The place after the characters at the beginning that satisfy `p`. -/
def dropWhile (c : Cursor) (p : Char → Bool) : Cursor :=
  c.drop (c.rest.takeWhile p).length

/-- The text between two places. -/
def charsTo (c d : Cursor) : List Char :=
  c.rest.take (d.offset - c.offset)

/-- The text between two places. -/
def textTo (c d : Cursor) : String :=
  String.ofList (c.charsTo d)

/-- The place as a span. -/
def span (c : Cursor) : Span :=
  ⟨c.line, c.column⟩

/-- Whether the text that is left begins with `lead`. -/
def sees (c : Cursor) (lead : String) : Bool :=
  lead.toList.isPrefixOf c.rest

/-- Whether nothing is left. -/
def isAtEnd (c : Cursor) : Bool :=
  c.rest.isEmpty

end Cursor

/-! ### Gaps -/

/-- The blanks of which indentation is made, and what counts as such. -/
def isIndentation (c : Char) : Bool :=
  c = ' ' || c = '\t' || c = '\r' || c = '\x0c'

/-- The blanks between tokens; some of them have no width. -/
def isBlank (c : Char) : Bool :=
  isIndentation c || c = '\n' || c = '\x0b' || c = '\ufeff' || c = '\u2060' || c = '\u200b'

/-- The indentation of a line after one more blank: a tab counts for eight, and a carriage return or
a form feed begins the line anew. -/
def indentAfter (indent : Nat) (c : Char) : Nat :=
  if c = ' ' then indent + 1
  else if c = '\t' then indent + 8
  else if c = '\r' || c = '\x0c' then 0
  else indent

/-- The number of characters of a backslash that joins two lines, if one comes next. -/
def joinLength? : List Char → Option Nat
  | '\\' :: '\n' :: _ => some 2
  | '\\' :: '\r' :: '\n' :: _ => some 3
  | _ => none

/-- What stands between two tokens. -/
structure Gap where
  /-- The place where the gap ends. -/
  next : Cursor
  /-- Whether the line ends in the gap. -/
  isBroken : Bool
  /-- The indentation of the line on which the gap ends. -/
  indent : Nat
  /-- The indentation of the first comment on a line of its own. -/
  comment : Option Nat
  deriving Repr

namespace Cursor

/-- The gap at a place, continued.  With `comments` it goes on over comments on their own lines;
else it ends before any comment.  The end of the text ends the line. -/
def gapFrom (comments : Bool) : List Char → Gap → Gap
  | [], g => { g with isBroken := true, indent := 0 }
  | _ :: fuel, g =>
    match g.next.rest with
    | [] => { g with isBroken := true, indent := 0 }
    | '\n' :: _ =>
      gapFrom comments fuel { g with next := g.next.step, isBroken := true, indent := 0 }
    | '#' :: _ =>
      if comments && g.isBroken then
        gapFrom comments fuel
          { g with
            next := (g.next.dropWhile (· ≠ '\n')).step
            indent := 0
            comment := some (g.comment.getD g.indent) }
      else g
    | d :: _ =>
      if isIndentation d then
        gapFrom comments fuel { g with next := g.next.step, indent := indentAfter g.indent d }
      else match joinLength? g.next.rest with
        | some n => gapFrom comments fuel { g with next := g.next.drop n }
        | none => g

/-- The gap at a place. -/
def gap (comments : Bool) (c : Cursor) : Gap :=
  gapFrom comments c.rest ⟨c, false, 0, none⟩

/-- The place after the blanks, and the backslashes between lines, that come next. -/
def skipBlanksFrom : List Char → Cursor → Cursor
  | [], c => c
  | _ :: fuel, c =>
    let d := c.dropWhile isBlank
    match joinLength? d.rest with
    | some n => skipBlanksFrom fuel (d.drop n)
    | none => d

/-- The place after the blanks, and the backslashes between lines, that come next. -/
def skipBlanks (c : Cursor) : Cursor :=
  skipBlanksFrom c.rest c

/-- The place after a comment. -/
def skipComment (c : Cursor) : Cursor :=
  c.dropWhile (· ≠ '\n')

end Cursor

/-- A backslash that joins two lines.  Unlike a comment, it counts as something that was written. -/
structure Join where
  /-- The place of the backslash. -/
  start : Cursor
  /-- The backslash and the end of its line. -/
  text : String
  deriving Repr

namespace Join

/-- What a joint between lines is called. -/
def kind : String := "line_continuation"

/-- A joint between lines in the place of an expression. -/
def expr (j : Join) : Expr :=
  .other kind j.text

/-- A joint between lines in the place of a statement. -/
def stmt (j : Join) : Stmt :=
  .other kind j.text j.start.span

end Join

namespace Cursor

/-- The joints between lines on the way to the next token. -/
def joinsFrom : List Char → Cursor → List Join
  | [], _ => []
  | _ :: fuel, c =>
    let d := c.dropWhile isBlank
    match joinLength? d.rest with
    | some n => ⟨d, d.textTo (d.drop n)⟩ :: (d.drop n).joinsFrom fuel
    | none => if d.sees "#" then d.skipComment.joinsFrom fuel else []

/-- The joints between lines on the way to the next token. -/
def joins (c : Cursor) : List Join :=
  c.joinsFrom c.rest

/-- The joints between lines on the way to the next token and before another place. -/
def joinsTo (c d : Cursor) : List Join :=
  c.joins.filter (·.start.offset < d.offset)

/-- Whether a literal of a text may begin here. -/
def isAtQuote (c : Cursor) : Bool :=
  c.sees "\"" || c.sees "'" || c.sees "`"

/-- Whether the gap leaves the block, which only a literal in quotes may do. -/
def leavesBlock (c : Cursor) (g : Gap) : Bool :=
  g.isBroken && g.indent < c.indent && !c.isFormatted && !g.next.isAtQuote

/-- The next token where a line cannot end.  Unless `isEnclosed`, no line on the way may be indented
less than the block. -/
def seekFrom (isEnclosed : Bool) : List Char → Cursor → Option Cursor
  | [], _ => none
  | _ :: fuel, c =>
    if !isEnclosed && c.leavesBlock (c.gap false) then none
    else
      let d := c.skipBlanks
      match d.rest with
      | [] => none
      | '#' :: _ => seekFrom isEnclosed fuel d.skipComment
      | _ => some d

/-- The next token where a line cannot end, between brackets that may close here or not. -/
def seek? (isEnclosed : Bool) (c : Cursor) : Option Cursor :=
  seekFrom isEnclosed c.rest c

end Cursor

/-- What may come after something that can be complete. -/
inductive Follow where
  /-- The end of the line. -/
  | line
  /-- A closing bracket. -/
  | closer
  /-- Some other token. -/
  | token
  deriving DecidableEq, Repr

namespace Cursor

/-- The next token after something that can be complete, if there is one before the line ends. -/
def proceed? (f : Follow) (c : Cursor) : Option Cursor :=
  match f with
  | .closer => c.seek? true
  | .token => c.seek? false
  | .line =>
    let g := c.gap true
    if g.isBroken || g.next.sees "#" then none else g.next.seek? true

/-- The place at which a line ends, if nothing but a comment is left on it. -/
def lineEnd? (c : Cursor) : Option Cursor :=
  let g := c.gap true
  if g.isBroken then some c
  else if g.next.sees "#" then some g.next.skipComment
  else none

/-- Whether a simple statement may end here. -/
def endsStatement (c : Cursor) : Bool :=
  let g := c.gap true
  g.isBroken || g.next.sees "#" || g.next.sees ";"

end Cursor

/-- What comes next in a block. -/
inductive NextLine where
  /-- The block ends here. -/
  | ends (c : Cursor)
  /-- A statement begins here. -/
  | starts (c : Cursor)

/-- What comes next in a block.  A comment belongs to the block if the first one on the way is not
indented less than the block. -/
def Cursor.nextLineFrom : List Char → Cursor → NextLine
  | [], c => .ends c
  | _ :: fuel, c =>
    let g := c.gap true
    let isOutside := g.isBroken && g.indent < c.indent && g.comment.all (· < c.indent)
    let next := c.skipBlanks
    if isOutside then .ends c
    else if next.sees "#" then next.skipComment.nextLineFrom fuel
    else if next.isAtEnd then .ends next
    else .starts next

/-- What comes next in a block. -/
def Cursor.nextLine (c : Cursor) : NextLine :=
  c.nextLineFrom c.rest

end RecordForms.Reader
