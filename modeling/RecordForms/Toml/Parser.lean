import RecordForms.Number.Rounding
import RecordForms.Toml.Basic

/-!
# Reading TOML

Each function takes the text that is left and gives back what it read and the text after it.  A
document is read line by line into the tables that its headers open.

## Main definitions

* `Toml.string?`: texts in all four kinds of quotes
* `Toml.isDate`, `Toml.isNumber`: the scalars
* `Toml.value?`: any value
* `Toml.read`: the entries of a document
-/

namespace RecordForms.Toml

/-! ### Blanks and lines -/

/-- The blanks inside a line. -/
def isBlank (c : Char) : Bool :=
  c = ' ' || c = '\t'

/-- The text without the blanks at its beginning. -/
def skipBlanks (cs : List Char) : List Char :=
  cs.dropWhile isBlank

/-- The text after the end of the line, if the line ends here. -/
def newline? : List Char → Option (List Char)
  | '\n' :: rest => some rest
  | '\r' :: '\n' :: rest => some rest
  | _ => none

/-- Whether a character may stand inside a line of a comment or a text. -/
def isVisible (c : Char) : Bool :=
  c = '\t' || (' ' ≤ c && c ≠ '\x7f')

/-- The text after a comment, if there is one here. -/
def skipComment : List Char → List Char
  | '#' :: rest => rest.dropWhile isVisible
  | rest => rest

/-- The text after the rest of a line with nothing more on it than a comment. -/
def lineEnd? (cs : List Char) : Option (List Char) :=
  match skipComment (skipBlanks cs) with
  | [] => some []
  | rest => newline? rest

/-- The text without the blanks, comments and ends of lines at its beginning. -/
def skipLines : Nat → List Char → List Char
  | 0, cs => cs
  | fuel + 1, cs =>
    let rest := skipComment (skipBlanks cs)
    match newline? rest with
    | some rest => skipLines fuel rest
    | none => rest

/-- The text without the blanks, comments and ends of lines at its beginning. -/
def skipAll (cs : List Char) : List Char :=
  skipLines (cs.length + 1) cs

/-! ### Texts -/

/-- The character with this number, if there is one. -/
def charOfCode? (code : Nat) : Option Char :=
  if code.isValidChar then some (Char.ofNat code) else none

/-- The character that an escape denotes, after its backslash. -/
def escape? : List Char → Option (Char × List Char)
  | 'b' :: rest => some ('\x08', rest)
  | 't' :: rest => some ('\t', rest)
  | 'n' :: rest => some ('\n', rest)
  | 'f' :: rest => some ('\x0c', rest)
  | 'r' :: rest => some ('\r', rest)
  | '"' :: rest => some ('"', rest)
  | '\\' :: rest => some ('\\', rest)
  | 'u' :: rest => ofDigits 4 rest
  | 'U' :: rest => ofDigits 8 rest
  | _ => none
where
  ofDigits (n : Nat) (cs : List Char) : Option (Char × List Char) := do
    if cs.length < n then none
    else
      let code ← Number.ofDigits? 16 (cs.take n)
      let c ← charOfCode? code
      some (c, cs.drop n)

/-- The text up to the quote that ends it, where escapes are read. -/
def basic? : Nat → List Char → Option (List Char × List Char)
  | 0, _ => none
  | fuel + 1, cs =>
    match cs with
    | '"' :: rest => some ([], rest)
    | '\\' :: rest => do
      let (c, rest) ← escape? rest
      let (text, rest) ← basic? fuel rest
      some (c :: text, rest)
    | c :: rest =>
      if isVisible c then (basic? fuel rest).map fun (text, rest) => (c :: text, rest) else none
    | [] => none

/-- The text up to the quote that ends it, as it stands. -/
def literal? : List Char → Option (List Char × List Char)
  | [] => none
  | c :: rest =>
    if c = '\x27' then some ([], rest)
    else if isVisible c then (literal? rest).map fun (text, rest) => (c :: text, rest)
    else none

/-- The end of a text in three quotes, before which two of them may stand as part of it. -/
def closing? (quote : Char) (cs : List Char) : Option (List Char × List Char) :=
  let n := (cs.takeWhile (· == quote)).length
  if n < 3 then none
  else
    let kept := min (n - 3) 2
    some (List.replicate kept quote, cs.drop (kept + 3))

/-- The text after the blanks and ends of lines that a backslash at the end of a line removes. -/
def skipFolded : Nat → List Char → List Char
  | 0, cs => cs
  | fuel + 1, cs =>
    let rest := skipBlanks cs
    match newline? rest with
    | some rest => skipFolded fuel rest
    | none => rest

/-- The text up to the three quotes that end it, over several lines.  Ends of lines are single
characters, and escapes are read in texts with double quotes. -/
def lines? (quote : Char) : Nat → List Char → Option (List Char × List Char)
  | 0, _ => none
  | fuel + 1, cs =>
    match closing? quote cs with
    | some r => some r
    | none =>
      match newline? cs with
      | some rest => (lines? quote fuel rest).map fun (text, rest) => ('\n' :: text, rest)
      | none =>
        match cs with
        | [] => none
        | c :: rest =>
          if c = '\\' && quote = '"' then
            match newline? (skipBlanks rest) with
            | some rest => lines? quote fuel (skipFolded rest.length rest)
            | none => do
              let (c, rest) ← escape? rest
              let (text, rest) ← lines? quote fuel rest
              some (c :: text, rest)
          else if isVisible c then
            (lines? quote fuel rest).map fun (text, rest) => (c :: text, rest)
          else none

/-- The text in quotes that comes next, on one line. -/
def line? : List Char → Option (List Char × List Char)
  | '"' :: rest => basic? (rest.length + 1) rest
  | '\x27' :: rest => literal? rest
  | _ => none

/-- The text over several lines after its three quotes; the end of a line right after them is not
part of it. -/
def block? (quote : Char) (rest : List Char) : Option (List Char × List Char) :=
  lines? quote (rest.length + 1) ((newline? rest).getD rest)

/-- The text in quotes that comes next. -/
def string? : List Char → Option (List Char × List Char)
  | '"' :: '"' :: '"' :: rest => block? '"' rest
  | '\x27' :: '\x27' :: '\x27' :: rest => block? '\x27' rest
  | cs => line? cs

/-! ### Scalars -/

/-- The digits of a base that come next, single underscores between them allowed, and the text after
them.  There has to be one. -/
def digits? (isDigit : Char → Bool) (cs : List Char) : Option (List Char × List Char) :=
  match cs with
  | c :: rest => if isDigit c then some (more c rest) else none
  | [] => none
where
  more (c : Char) : List Char → List Char × List Char
    | '_' :: d :: rest =>
      if isDigit d then
        let (ds, rest) := more d rest
        (c :: ds, rest)
      else ([c], '_' :: d :: rest)
    | d :: rest =>
      if isDigit d then
        let (ds, rest) := more d rest
        (c :: ds, rest)
      else ([c], d :: rest)
    | [] => ([c], [])

/-- Whether a character is a digit in a base. -/
def isDigitOf (base : Nat) (c : Char) : Bool :=
  (Number.digitValue? c).any (· < base)

/-- The text without a sign at its beginning, and whether the sign is a minus. -/
def unsigned : List Char → Bool × List Char
  | '+' :: rest => (false, rest)
  | '-' :: rest => (true, rest)
  | rest => (false, rest)

/-- The whole number in base ten that comes next after a sign: no zero stands before other
digits. -/
def whole? (cs : List Char) : Option (List Char × List Char) :=
  match digits? Char.isDigit cs with
  | some ('0' :: _, _) => match cs with
    | _ :: rest => some (['0'], rest)
    | [] => none
  | r => r

/-- The digits after a point, if there is one. -/
def fraction? : List Char → Option (List Char × List Char)
  | '.' :: rest => digits? Char.isDigit rest
  | _ => none

/-- The exponent that comes next, if there is one. -/
def exponent? : List Char → Option (Int × List Char)
  | c :: rest =>
    if c = 'e' || c = 'E' then do
      let (negative, rest) := unsigned rest
      let (ds, rest) ← digits? Char.isDigit rest
      let n ← Number.ofDigits? 10 ds
      some (if negative then -(n : Int) else n, rest)
    else none
  | [] => none

/-- The text after a number with a point or an exponent.  Beyond the greatest number there is no
positive one. -/
def float? (cs : List Char) : Option (List Char) := do
  let (negative, rest) := unsigned cs
  match rest with
  | 'i' :: 'n' :: 'f' :: rest => some rest
  | 'n' :: 'a' :: 'n' :: rest => some rest
  | rest =>
    let (ds, rest) ← whole? rest
    let (fs, rest) ← match fraction? rest, exponent? rest with
      | some (fs, rest), _ => some (fs, rest)
      | none, some _ => some ([], rest)
      | none, none => none
    let (e, rest) := (exponent? rest).getD (0, rest)
    let digits ← Number.ofDigits? 10 (ds ++ fs)
    if !negative && (Double.ofDecimal false digits (e - fs.length)).isInfinite then none
    else some rest

/-- The text after a whole number that fits in 64 bits. -/
def integer? : List Char → Option (List Char)
  | '0' :: 'x' :: rest => inBase 16 rest
  | '0' :: 'o' :: rest => inBase 8 rest
  | '0' :: 'b' :: rest => inBase 2 rest
  | cs => do
    let (negative, rest) := unsigned cs
    let (ds, rest) ← whole? rest
    let n ← Number.ofDigits? 10 ds
    let _ ← Number.int64? (if negative then -(n : Int) else n)
    some rest
where
  inBase (base : Nat) (cs : List Char) : Option (List Char) := do
    let (ds, rest) ← digits? (isDigitOf base) cs
    let n ← Number.ofDigits? base ds
    let _ ← Number.int64? n
    some rest

/-- The number that exactly `n` digits spell. -/
def fixed? (n : Nat) (cs : List Char) : Option (Nat × List Char) :=
  if cs.length < n then none
  else if (cs.take n).all Char.isDigit then
    (Number.ofDigits? 10 (cs.take n)).map fun k => (k, cs.drop n)
  else none

/-- The text after the character `c`, if it comes next. -/
def eat? (c : Char) : List Char → Option (List Char)
  | d :: rest => if d = c then some rest else none
  | [] => none

/-- The number of days of a month. -/
def daysIn (year month : Nat) : Nat :=
  if month = 2 then
    if year % 4 = 0 && (year % 100 ≠ 0 || year % 400 = 0) then 29 else 28
  else if month = 4 || month = 6 || month = 9 || month = 11 then 30
  else 31

/-- The text after a date. -/
def date? (cs : List Char) : Option (List Char) := do
  let (year, cs) ← fixed? 4 cs
  let (month, cs) ← fixed? 2 (← eat? '-' cs)
  let (day, cs) ← fixed? 2 (← eat? '-' cs)
  if 1 ≤ month && month ≤ 12 && 1 ≤ day && day ≤ daysIn year month then some cs else none

/-- The text after a time of day. -/
def time? (cs : List Char) : Option (List Char) := do
  let (hour, cs) ← fixed? 2 cs
  let (minute, cs) ← fixed? 2 (← eat? ':' cs)
  let (second, cs) ← fixed? 2 (← eat? ':' cs)
  if hour ≤ 23 && minute ≤ 59 && second ≤ 60 then
    match cs with
    | '.' :: d :: rest => if d.isDigit then some (rest.dropWhile Char.isDigit) else some cs
    | cs => some cs
  else none

/-- The text after a distance from universal time, if there is one. -/
def offset : List Char → Option (List Char)
  | 'Z' :: rest => some rest
  | 'z' :: rest => some rest
  | '+' :: rest => hours rest
  | '-' :: rest => hours rest
  | rest => some rest
where
  hours (cs : List Char) : Option (List Char) := do
    let (hour, cs) ← fixed? 2 cs
    let (minute, cs) ← fixed? 2 (← eat? ':' cs)
    if hour ≤ 23 && minute ≤ 59 then some cs else none

/-- The text after the time that may follow a date. -/
def dayTime? : List Char → Option (List Char)
  | c :: rest => if c = 'T' || c = 't' || c = ' ' then time? rest else none
  | [] => none

/-- The text after a date, a time of day, or both. -/
def moment? (cs : List Char) : Option (List Char) :=
  match date? cs with
  | some rest =>
    match dayTime? rest with
    | some rest => offset rest
    | none => some rest
  | none => time? cs

/-- The text after a scalar. -/
def scalar? : List Char → Option (List Char)
  | 't' :: 'r' :: 'u' :: 'e' :: rest => some rest
  | 'f' :: 'a' :: 'l' :: 's' :: 'e' :: rest => some rest
  | cs => moment? cs <|> float? cs <|> integer? cs

/-! ### Keys and values -/

/-- The characters of a key without quotes. -/
def isBare (c : Char) : Bool :=
  c.isAlphanum || c = '_' || c = '-'

/-- The component of a key that comes next. -/
def component? (cs : List Char) : Option (String × List Char) :=
  match line? cs with
  | some (text, rest) => some (String.ofList text, rest)
  | none =>
    let name := cs.takeWhile isBare
    if name.isEmpty then none else some (String.ofList name, cs.dropWhile isBare)

/-- The components of a key that come next: all but the last, and the last. -/
def key? : Nat → List Char → Option ((List String × String) × List Char)
  | 0, _ => none
  | fuel + 1, cs => do
    let (name, rest) ← component? (skipBlanks cs)
    match skipBlanks rest with
    | '.' :: rest =>
      let ((path, key), rest) ← key? fuel rest
      some ((name :: path, key), rest)
    | rest => some (([], name), rest)

/-- How deep arrays and tables may be nested as values, and how many components a key may have. -/
def nestingLimit : Nat :=
  79

mutual

/-- The value that comes next, where `room` more arrays and tables may be entered. -/
def valueWith? (room : Nat) : Nat → List Char → Option (Toml × List Char)
  | 0, _ => none
  | fuel + 1, cs =>
    match cs with
    | '[' :: rest =>
      if room = 0 then none
      else (itemsWith? (room - 1) fuel rest).map fun (items, rest) => (array items, rest)
    | '\x7b' :: rest =>
      if room = 0 then none
      else match skipBlanks rest with
        | '\x7d' :: rest => some (table .inline [], rest)
        | rest => do
          let (pairs, rest) ← pairsWith? (room - 1) fuel rest
          let entries ← ofPairs? pairs
          some (table .inline entries, rest)
    | cs =>
      match string? cs with
      | some (s, rest) => some (str (String.ofList s), rest)
      | none => (scalar? cs).map fun rest => (scalar, rest)

/-- The items of an array up to its bracket; a comma may stand after the last. -/
def itemsWith? (room : Nat) : Nat → List Char → Option (List Toml × List Char)
  | 0, _ => none
  | fuel + 1, cs =>
    match skipAll cs with
    | ']' :: rest => some ([], rest)
    | cs => do
      let (v, rest) ← valueWith? room fuel cs
      match skipAll rest with
      | ']' :: rest => some ([v], rest)
      | ',' :: rest =>
        let (vs, rest) ← itemsWith? room fuel rest
        some (v :: vs, rest)
      | _ => none

/-- The entries of a table on one line up to its brace. -/
def pairsWith? (room : Nat) :
    Nat → List Char → Option (List (List String × String × Toml) × List Char)
  | 0, _ => none
  | fuel + 1, cs => do
    let ((path, key), rest) ← key? nestingLimit cs
    match rest with
    | '=' :: rest =>
      let (v, rest) ← valueWith? room fuel (skipBlanks rest)
      match skipBlanks rest with
      | '\x7d' :: rest => some ([(path, key, v)], rest)
      | ',' :: rest =>
        let (pairs, rest) ← pairsWith? room fuel rest
        some ((path, key, v) :: pairs, rest)
      | _ => none
    | _ => none

end

/-- The value that comes next. -/
def value? (cs : List Char) : Option (Toml × List Char) :=
  valueWith? nestingLimit (2 * cs.length + 1) cs

/-! ### Documents -/

/-- The document after a header that opens a table by `start`, and the path of that table. -/
def header (start : String → List (String × Toml) → Option (List (String × Toml)))
    (doc : List (String × Toml)) (path : List String) (key : String) :
    Option (List (String × Toml) × List String) :=
  (within (start key) path doc).map fun doc => (doc, path ++ [key])

/-- The document after the statement that comes next, the path of the table that is open, and the
text after the line. -/
def statement? (doc : List (String × Toml)) (current : List String) (cs : List Char) :
    Option ((List (String × Toml) × List String) × List Char) :=
  match cs with
  | '[' :: '[' :: rest => do
    let ((path, key), rest) ← key? nestingLimit rest
    match rest with
    | ']' :: ']' :: rest => some (← header openElement doc path key, ← lineEnd? rest)
    | _ => none
  | '[' :: rest => do
    let ((path, key), rest) ← key? nestingLimit rest
    match rest with
    | ']' :: rest => some (← header openTable doc path key, ← lineEnd? rest)
    | _ => none
  | cs => do
    let ((path, key), rest) ← key? nestingLimit cs
    match rest with
    | '=' :: rest =>
      let (v, rest) ← value? (skipBlanks rest)
      let doc ← within (put v key true path) current doc
      some ((doc, current), ← lineEnd? rest)
    | _ => none

/-- The document after the rest of its text. -/
def statements? : Nat → List (String × Toml) → List String → List Char →
    Option (List (String × Toml))
  | 0, _, _, _ => none
  | fuel + 1, doc, current, cs =>
    match skipAll cs with
    | [] => some doc
    | cs => do
      let ((doc, current), rest) ← statement? doc current cs
      statements? fuel doc current rest

/-- The entries of the document that a text spells; a mark of the byte order may stand first. -/
def read (source : String) : Option (List (String × Toml)) :=
  let cs := match source.toList with
    | '\ufeff' :: cs => cs
    | cs => cs
  statements? (cs.length + 1) [] [] cs

end RecordForms.Toml
