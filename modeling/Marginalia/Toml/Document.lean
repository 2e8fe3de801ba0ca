import Marginalia.Toml.Quoted

/-!
TOML documents: lines that hold headers and keys with values. A document that breaks a rule has no
meaning at all.
-/

namespace Marginalia.Toml

/-! ## Keys and numbers -/

/-- May the character stand in a key without quotes? -/
def isBareChar (c : Char) : Bool :=
  c.isAlphanum || c = '_' || c = '-'

/-- Reads one part of a key. -/
def keyPart (cs : List Char) : Option (String × List Char) :=
  match cs with
  | '"' :: _ => shortQuoted cs
  | '\'' :: _ => shortQuoted cs
  | _ =>
    match cs.takeWhile isBareChar with
    | [] => none
    | bare => some (String.ofList bare, cs.dropWhile isBareChar)

/-- Reads a key, whose parts have dots between them. -/
def key : Nat → List Char → Option (List String × List Char)
  | 0, _ => none
  | fuel + 1, cs => do
    let (part, rest) ← keyPart (skipBlanks cs)
    match skipBlanks rest with
    | '.' :: rest =>
      let (parts, rest) ← key fuel rest
      return (part :: parts, rest)
    | rest => return ([part], rest)

/-- The digits of a number, of which underscores may separate two. -/
def digits (isDigit : Char → Bool) : List Char → Option (List Char)
  | [] => none
  | [c] => if isDigit c then some [c] else none
  | c :: '_' :: cs => if isDigit c then (digits isDigit cs).map (c :: ·) else none
  | c :: cs => if isDigit c then (digits isDigit cs).map (c :: ·) else none

/-- The value of digits in a base. -/
def ofDigits (base : Nat) (ds : List Char) : Nat :=
  ds.foldl (fun n c => base * n + (Url.hexValue? c).getD 0) 0

/-- Can the integer be held in 64 bits? -/
def fits (n : Int) : Bool :=
  -0x8000000000000000 ≤ n && n < 0x8000000000000000

/-- The number that digits in a base stand for. -/
def based (base : Nat) (isDigit : Char → Bool) (cs : List Char) : Option Nat :=
  (digits isDigit cs).map (ofDigits base)

/-- The number that decimal digits stand for; none of several starts with zero. -/
def decimal (cs : List Char) : Option Nat :=
  match cs with
  | '0' :: _ :: _ => none
  | _ => based 10 Char.isDigit cs

/-- The integer that a word stands for. -/
def integer? (word : List Char) : Option Int := do
  let n : Int ← match word with
    | '0' :: 'x' :: cs => (based 16 (fun c => (Url.hexValue? c).isSome) cs).map Int.ofNat
    | '0' :: 'o' :: cs => (based 8 (fun c => '0' ≤ c && c ≤ '7') cs).map Int.ofNat
    | '0' :: 'b' :: cs => (based 2 (fun c => c = '0' || c = '1') cs).map Int.ofNat
    | '+' :: cs => (decimal cs).map Int.ofNat
    | '-' :: cs => (decimal cs).map fun n => -(n : Int)
    | cs => (decimal cs).map Int.ofNat
  if fits n then return n else none

/-- May the character stand in a word such as a number? -/
def isWordChar (c : Char) : Bool :=
  c.isAlphanum || c = '_' || c = '+' || c = '-' || c = '.' || c = ':'

/-- The value that a word stands for. -/
def word? (word : List Char) : Option Value :=
  if word = "true".toList then some (.boolean true)
  else if word = "false".toList then some (.boolean false)
  else (integer? word).map .integer

/-! ## Values -/

/-- Drops a comment. What it holds is checked. -/
def skipComment (cs : List Char) : List Char :=
  match cs with
  | '#' :: rest => rest.dropWhile isPlain
  | _ => cs

/-- Drops blanks, line ends and comments. -/
def skipSpace : Nat → List Char → List Char
  | 0, cs => cs
  | fuel + 1, cs =>
    match skipLines cs with
    | '#' :: rest => skipSpace fuel (rest.dropWhile isPlain)
    | rest => rest

mutual

/-- Reads a value. -/
def value : Nat → List Char → Option (Value × List Char)
  | 0, _ => none
  | fuel + 1, cs =>
    match cs with
    | '[' :: rest => do
      let (items, rest) ← items fuel (skipSpace rest.length rest)
      return (.array items, rest)
    | '\x7b' :: rest =>
      match skipBlanks rest with
      | '\x7d' :: rest => some (.table .inline [], rest)
      | rest => do
        let (entries, rest) ← members fuel [] rest
        return (.table .inline entries, rest)
    | '"' :: _ => (quoted cs).map fun (s, rest) => (.string s, rest)
    | '\'' :: _ => (quoted cs).map fun (s, rest) => (.string s, rest)
    | _ => do
      let v ← word? (cs.takeWhile isWordChar)
      return (v, cs.dropWhile isWordChar)

/-- Reads the rest of a list, up to its closing bracket. -/
def items : Nat → List Char → Option (List Value × List Char)
  | 0, _ => none
  | fuel + 1, cs =>
    match cs with
    | ']' :: rest => some ([], rest)
    | _ => do
      let (v, rest) ← value fuel cs
      match skipSpace rest.length rest with
      | ',' :: rest =>
        let (vs, rest) ← items fuel (skipSpace rest.length rest)
        return (v :: vs, rest)
      | ']' :: rest => return ([v], rest)
      | _ => none

/-- Reads the rest of a table between braces, given its entries so far. -/
def members : Nat → Entries → List Char → Option (Entries × List Char)
  | 0, _, _ => none
  | fuel + 1, entries, cs => do
    let (path, rest) ← key cs.length cs
    match rest with
    | '=' :: rest =>
      let (v, rest) ← value fuel (skipBlanks rest)
      let entries ← entries.insert path v
      match skipBlanks rest with
      | ',' :: rest => members fuel entries rest
      | '\x7d' :: rest => return (entries, rest)
      | _ => none
    | _ => none

end

/-! ## Lines -/

/-- What a line says. -/
inductive Statement where
  | table (path : List String)
  | item (path : List String)
  | entry (path : List String) (value : Value)

/-- What follows a line, of which only blanks and a comment may be left. -/
def endLine (cs : List Char) : Option (List Char) :=
  match skipComment (skipBlanks cs) with
  | [] => some []
  | rest => lineEnd? rest

/-- Reads a statement, up to the end of its line. -/
def statement (cs : List Char) : Option (Statement × List Char) :=
  match cs with
  | '[' :: '[' :: rest => do
    let (path, rest) ← key rest.length rest
    match rest with
    | ']' :: ']' :: rest => return (.item path, ← endLine rest)
    | _ => none
  | '[' :: rest => do
    let (path, rest) ← key rest.length rest
    match rest with
    | ']' :: rest => return (.table path, ← endLine rest)
    | _ => none
  | _ => do
    let (path, rest) ← key cs.length cs
    match rest with
    | '=' :: rest =>
      let (v, rest) ← value (2 * rest.length + 2) (skipBlanks rest)
      return (.entry path v, ← endLine rest)
    | _ => none

/-- Reads statements up to the end of the document. -/
def statements : Nat → List Char → Option (List Statement)
  | 0, _ => none
  | fuel + 1, cs =>
    match skipBlanks cs with
    | [] => some []
    | '#' :: rest => do statements fuel (← endLine ('#' :: rest))
    | rest =>
      match lineEnd? rest with
      | some rest => statements fuel rest
      | none => do
        let (s, rest) ← statement rest
        return s :: (← statements fuel rest)

/-! ## Meaning -/

/-- A document so far, with the path of its last header. -/
structure Document where
  entries : Entries := []
  header : List String := []

/-- Changes what the last key of a path leads to. -/
def Document.start (d : Document) (f : String → Entries → Option Entries) (path : List String) :
    Option Document := do
  let last ← path.getLast?
  let entries ← Entries.alongHeader (f last) path.dropLast d.entries
  return { entries, header := path }

/-- Takes in one statement. -/
def Document.add (d : Document) : Statement → Option Document
  | .table path => d.start Entries.startTable path
  | .item path => d.start Entries.startItem path
  | .entry path v => do
    let entries ← Entries.alongHeader (fun entries => entries.insert path v) d.header d.entries
    return { d with entries }

/-- The entries of a document. A mark of byte order at its start is dropped. -/
def parse? (text : String) : Option Entries := do
  let cs := match text.toList with
    | '\ufeff' :: cs => cs
    | cs => cs
  let said ← statements (cs.length + 1) cs
  let d ← said.foldlM Document.add {}
  return d.entries

end Marginalia.Toml
