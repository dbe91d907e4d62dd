/-!
# TOML values

The tables of a TOML document, and the rules by which its lines fill them.  A table remembers how it
came about, because that decides what may still be added to it.

## Main definitions

* `Toml`: the values; numbers, dates and truth values are not told apart
* `Toml.put`: a key, perhaps a dotted one, added to a table
* `Toml.within`: a change to the table that a path leads to
* `Toml.openTable`, `Toml.openElement`: the headers of tables and of elements of arrays of tables
-/

namespace RecordForms

/-- How a table came about. -/
inductive TableOrigin where
  /-- By its own header. -/
  | header
  /-- By the header of a table in it. -/
  | implied
  /-- By a dotted key. -/
  | dotted
  /-- As a value. -/
  | inline
  deriving DecidableEq, Repr

/-- A TOML value. -/
inductive Toml where
  | str (s : String)
  /-- A number, a date, a time or a truth value. -/
  | scalar
  | array (items : List Toml)
  | table (origin : TableOrigin) (entries : List (String × Toml))
  /-- An array of tables: the entries of each. -/
  | tables (elements : List (List (String × Toml)))
  deriving Repr, Inhabited

namespace Toml

/-- Entries in which the value under a key has been replaced by what `f` makes of it. -/
def alter (key : String) (f : Option Toml → Option Toml) :
    List (String × Toml) → Option (List (String × Toml))
  | [] => (f none).map fun v => [(key, v)]
  | (k, v) :: rest =>
    if k = key then (f (some v)).map fun v => (k, v) :: rest
    else (alter key f rest).map fun rest => (k, v) :: rest

/-- An array of tables with its last element changed. -/
def alterLast (f : List (String × Toml) → Option (List (String × Toml)))
    (elements : List (List (String × Toml))) : Option Toml :=
  match elements.getLast? with
  | some last => (f last).map fun last => tables (elements.dropLast ++ [last])
  | none => none

/-- Entries with a value added under a key that may be dotted.  What the key leads through has to
have come about by dotted keys, or to be new; only the table that it ends in counts if headers of
other tables have made the ones before. -/
def put (v : Toml) (key : String) (isOpen : Bool) :
    List String → List (String × Toml) → Option (List (String × Toml))
  | [], entries =>
    if isOpen then
      alter key (fun
        | none => some v
        | some _ => none) entries
    else none
  | k :: path, entries =>
    alter k (fun
      | none => (put v key true path []).map (table .dotted)
      | some (table .dotted es) => (put v key true path es).map (table .dotted)
      | some (table .implied es) => (put v key false path es).map (table .implied)
      | some (tables elements) => alterLast (put v key false path) elements
      | some _ => none) entries

/-- Entries with a change to the table that a path of headers leads to; tables on the way that are
new are implied. -/
def within (f : List (String × Toml) → Option (List (String × Toml))) :
    List String → List (String × Toml) → Option (List (String × Toml))
  | [], entries => f entries
  | k :: path, entries =>
    alter k (fun
      | none => (within f path []).map (table .implied)
      | some (table .inline _) => none
      | some (table origin es) => (within f path es).map (table origin)
      | some (tables elements) => alterLast (within f path) elements
      | some _ => none) entries

/-- A table with a header of its own: it has to be new or implied. -/
def openTable (key : String) : List (String × Toml) → Option (List (String × Toml)) :=
  alter key fun
    | none => some (table .header [])
    | some (table .implied es) => some (table .header es)
    | some _ => none

/-- One more element of an array of tables. -/
def openElement (key : String) : List (String × Toml) → Option (List (String × Toml)) :=
  alter key fun
    | none => some (tables [[]])
    | some (tables elements) => some (tables (elements ++ [[]]))
    | some _ => none

/-- The table whose entries, perhaps under dotted keys, are these. -/
def ofPairs? (pairs : List (List String × String × Toml)) : Option (List (String × Toml)) :=
  pairs.foldlM (fun entries (path, key, v) => put v key true path entries) []

/-- Whether this is an array or a table without anything in it. -/
def isEmpty : Toml → Bool
  | array [] | table _ [] | tables [] => true
  | _ => false

end Toml

end RecordForms
