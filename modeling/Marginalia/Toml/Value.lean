/-!
Values of TOML documents. A table remembers how it was written, because that decides what may still
be added to it. Floats and dates are left out: no setting holds one.
-/

namespace Marginalia.Toml

/-- How a table was written. -/
inductive Origin where
  /-- Under a header of its own. -/
  | header
  /-- As part of the path of a header. -/
  | implied
  /-- As part of a dotted key. -/
  | dotted
  /-- Between braces. -/
  | inline
  deriving DecidableEq, Repr

/-- A value. -/
inductive Value where
  | string (s : String)
  | integer (n : Int)
  | boolean (b : Bool)
  /-- A list between brackets. -/
  | array (items : List Value)
  /-- A list of tables, each under a header of its own. -/
  | tables (items : List (List (String × Value)))
  | table (origin : Origin) (entries : List (String × Value))

/-- Keys with their values, in the order in which they came. -/
abbrev Entries := List (String × Value)

namespace Entries

/-- Changes the value of a key that is there. -/
def set (entries : Entries) (key : String) (value : Value) : Entries :=
  entries.map fun (k, v) => if k = key then (k, value) else (k, v)

/-- Adds a key that is not there. -/
def add (entries : Entries) (key : String) (value : Value) : Entries :=
  entries ++ [(key, value)]

/-- Changes the entries that a path of header keys leads to, making tables on the way. A list of
tables stands for its last one. -/
def alongHeader (f : Entries → Option Entries) : List String → Entries → Option Entries
  | [], entries => f entries
  | key :: path, entries =>
    match entries.lookup key with
    | none => do
      let inner ← alongHeader f path []
      return entries.add key (.table .implied inner)
    | some (.table origin inner) =>
      if origin = .inline then none
      else do
        let inner ← alongHeader f path inner
        return entries.set key (.table origin inner)
    | some (.tables items) => do
      let last ← items.getLast?
      let inner ← alongHeader f path last
      return entries.set key (.tables (items.dropLast ++ [inner]))
    | some _ => none

/-- Adds a value under a dotted key. Its tables may be shared only with other dotted keys, and no
key comes twice. `dotted` says whether these entries belong to such a table, `first` whether the
path has not begun. -/
def addDotted (value : Value) (dotted first : Bool) : List String → Entries → Option Entries
  | [], _ => none
  | [key], entries =>
    if dotted == first then none
    else if (entries.lookup key).isSome then none
    else some (entries.add key value)
  | key :: path, entries =>
    match entries.lookup key with
    | none => do
      let inner ← addDotted value true false path []
      return entries.add key (.table .dotted inner)
    | some (.table origin inner) =>
      if origin = .dotted || origin = .implied then do
        let inner ← addDotted value (origin = .dotted) false path inner
        return entries.set key (.table origin inner)
      else none
    | some (.tables items) => do
      let last ← items.getLast?
      let inner ← addDotted value false false path last
      return entries.set key (.tables (items.dropLast ++ [inner]))
    | some _ => none

/-- Adds a value under a key of a table that is no part of a dotted key. -/
def insert (entries : Entries) (path : List String) (value : Value) : Option Entries :=
  addDotted value false true path entries

/-- Starts a table under a header. It may have come up in the path of another header, but not have
been written. -/
def startTable (key : String) (entries : Entries) : Option Entries :=
  match entries.lookup key with
  | none => some (entries.add key (.table .header []))
  | some (.table .implied inner) => some (entries.set key (.table .header inner))
  | some _ => none

/-- Starts another table of a list. -/
def startItem (key : String) (entries : Entries) : Option Entries :=
  match entries.lookup key with
  | none => some (entries.add key (.tables [[]]))
  | some (.tables items) => some (entries.set key (.tables (items ++ [[]])))
  | some _ => none

end Entries

end Marginalia.Toml
