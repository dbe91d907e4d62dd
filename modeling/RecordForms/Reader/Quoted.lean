import RecordForms.Reader.Number

/-!
# Texts and byte strings in a source file

A literal in quotes ends where its quotes come again outside an escape.  In a formatted literal,
expressions stand in braces, and a brace of the text is doubled.

## Main definitions

* `Quoting`: the quotes of a literal and the letters before them
* `Parse.interpolationWith`: an expression inside a formatted literal
* `Parse.quoted`: a single literal
* `Parse.strings`: one literal, or several that are joined
-/

namespace RecordForms.Reader

/-- The quotes of a literal and the letters before them. -/
structure Quoting where
  quote : Char
  /-- Whether there are three quotes on each side. -/
  isTriple : Bool
  isRaw : Bool
  isBytes : Bool
  isFormatted : Bool
  deriving Repr

namespace Quoting

/-- Whether a character is one of the letters before the quotes. -/
def isLetter (c : Char) : Bool :=
  ['f', 'F', 't', 'T', 'r', 'R', 'b', 'B', 'u', 'U'].contains c

/-- The quoting of a literal that begins here, and the number of characters of its opening. -/
def opening? (cs : List Char) : Option (Quoting × Nat) :=
  let letters := cs.takeWhile isLetter
  match cs.drop letters.length with
  | q :: rest =>
    if q = '\x27' || q = '"' || q = '`' then
      let isTriple := q ≠ '`' && [q, q].isPrefixOf rest
      some (⟨q, isTriple, letters.any (['r', 'R'].contains ·), letters.any (['b', 'B'].contains ·),
          letters.any (['f', 'F', 't', 'T'].contains ·)⟩,
        letters.length + if isTriple then 3 else 1)
    else none
  | [] => none

/-- The quotes that end a literal. -/
def closing (q : Quoting) : List Char :=
  List.replicate (if q.isTriple then 3 else 1) q.quote

end Quoting

/-- The number of digits after a letter that names an escape by number. -/
def escapeDigits? : Char → Option Nat
  | 'x' => some 2
  | 'u' => some 4
  | 'U' => some 8
  | _ => none

/-- The number of characters of an escape after its backslash: none if the backslash stands for
itself. -/
def escapeLength : List Char → Nat
  | '\r' :: '\n' :: _ => 2
  | 'N' :: '\x7b' :: rest =>
    let name := rest.takeWhile (· ≠ '\x7d')
    if !name.isEmpty && name.length < rest.length then name.length + 3 else 0
  | c :: rest =>
    if ['\n', '\x27', '"', 'a', 'b', 'f', 'r', 'n', 't', 'v', '\\'].contains c then 1
    else if c.isDigit then ((c :: rest).take 3).takeWhile Char.isDigit |>.length
    else match escapeDigits? c with
      | some n => if ((rest.take n).takeWhile Text.isHex).length = n then n + 1 else 0
      | none => 0
  | [] => 0

/-- The number of characters that a backslash takes with it in a raw literal. -/
def rawLength (quote : Char) (cs : List Char) : Nat :=
  let n := match cs with
    | c :: _ => if c = quote || c = '\\' then 1 else 0
    | [] => 0
  match cs.drop n with
  | '\r' :: '\n' :: _ => n + 2
  | '\r' :: _ => n + 1
  | '\n' :: _ => n + 1
  | _ => n

/-- A place in a literal, and whether a piece of text has been begun there; the end of a line may
stand only where none has, unless there are three quotes. -/
structure Inside where
  hasBegun : Bool
  isClosed : Bool

namespace Parse

/-- Takes one character, if there is one. -/
def anyChar : Parse Char := fun c =>
  match c.rest with
  | d :: _ => some (d, c.step)
  | [] => none

/-- Takes `n` characters. -/
def skip (n : Nat) : Parse Unit := fun c =>
  some ((), c.drop n)

/-- A brace in a formatted literal: two that stand for one, or an expression. -/
def formattedBrace (interpolation : Parse Unit) : Parse Inside := do
  if ← sees "\x7b\x7b" then
    eat "\x7b\x7b"
    pure ⟨false, false⟩
  else if ← sees "\x7d\x7d" then
    eat "\x7d\x7d"
    pure ⟨false, false⟩
  else
    eat "\x7b"
    interpolation
    pure ⟨false, false⟩

/-- A backslash and what it takes with it. -/
def backslash (q : Quoting) (hasBegun : Bool) : Parse Inside := do
  eat "\\"
  let rest := (← here).rest
  if q.isRaw then
    skip (rawLength q.quote rest)
    pure ⟨hasBegun, false⟩
  else if q.isBytes && (rest.head?.any (['N', 'u', 'U'].contains ·)) then
    ensure (2 ≤ rest.length)
    skip 2
    pure ⟨true, false⟩
  else
    skip (escapeLength rest)
    pure ⟨false, false⟩

/-- A quote in a literal, which may close it. -/
def quoteMark (q : Quoting) : Parse Inside := do
  let c ← here
  if q.closing.isPrefixOf c.rest then
    skip q.closing.length
    pure ⟨false, true⟩
  else
    skip (c.rest.takeWhile (· == q.quote)).length
    pure ⟨false, false⟩

/-- The next part of a literal. -/
def inside (q : Quoting) (interpolation : Parse Unit) (i : Inside) : Parse Inside := do
  ensure (!i.isClosed)
  let d ← ahead anyChar
  if q.isFormatted && (d = '\x7b' || d = '\x7d') then formattedBrace interpolation
  else if d = '\\' then backslash q i.hasBegun
  else if d = q.quote then quoteMark q
  else
    ensure (d ≠ '\x00' && !(d = '\n' && i.hasBegun && !q.isTriple))
    let _ ← anyChar
    pure ⟨true, false⟩

/-- A single literal. -/
def quoted (interpolation : Parse Unit) : Parse Unit := do
  let c ← here
  match Quoting.opening? c.rest with
  | some (q, n) =>
    skip n
    let i ← repeated (inside q interpolation) ⟨false, false⟩
    ensure i.isClosed
  | none => failure

/-- The part of a format after its colon that is not an expression. -/
def formatText : Parse Unit := fun c =>
  some ((), c.dropWhile fun d => d ≠ '\x7b' && d ≠ '\x7d')

/-- A format: text and expressions. -/
def format (interpolation : Parse Unit) : Parse Unit := do
  formatText
  repeated (fun () => do
    eat "\x7b"
    interpolation
    formatText) ()

/-- Reads inside a formatted literal. -/
def formatted {α : Type} (p : Parse α) : Parse α := do
  let before := (← here).isFormatted
  modify fun c => { c with isFormatted := true }
  let a ← p
  modify fun c => { c with isFormatted := before }
  pure a

/-- An expression inside a formatted literal after its brace: perhaps its own text, a conversion and
a format. -/
def interpolationWith (r : Rules) (items : Parse Piece) : Parse Unit :=
  formatted do
    seek false
    let _ ← items
    let _ ← takes .closer "="
    if ← takes .closer "!" then
      let c ← anyChar
      ensure ('a' ≤ c && c ≤ 'z')
    if ← takes .closer ":" then format r.interpolation
    close .closer "\x7d"

/-- One more literal after those that have been read.  A joint between lines is a part of its
own. -/
def nextQuoted (interpolation : Parse Unit) (f : Follow) (parts : List (List Char)) :
    Parse (List (List Char)) := do
  let joins := (← here).joins.map (·.text.toList)
  proceed f
  let start ← here
  quoted interpolation
  let c ← here
  pure (parts ++ joins ++ [start.charsTo c])

/-- One literal, or several that are joined. -/
def strings (interpolation : Parse Unit) (f : Follow) : Parse Piece := do
  let start ← here
  quoted interpolation
  let c ← here
  match ← repeated (nextQuoted interpolation f) [start.charsTo c] with
  | [_] => literal "string" start Value.readString?
  | parts => literal "concatenated_string" start fun _ =>
    (parts.mapM Value.readString?).bind Value.join?

end Parse

end RecordForms.Reader
