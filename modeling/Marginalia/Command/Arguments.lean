import Marginalia.Document.PageMap

/-!
The arguments of the command. Flags may be joined, values may be attached, and two dashes end the
options. A word in first place may name a subcommand; everything else that is no option is a path.
-/

namespace Marginalia.Command

/-- What a build is told. -/
structure BuildOptions where
  paths : List String := []
  output : Option String := none
  config : Option String := none
  strip : List String := []
  exclude : List String := []
  index : Option String := none
  name : Option String := none
  naming : Option PageNaming := none
  jobs : Option Nat := none
  deriving DecidableEq, Repr

/-- What the command is asked to do. -/
inductive Request where
  | build (options : BuildOptions)
  | languages (config : Option String)
  deriving DecidableEq, Repr

/-- Why the arguments ask for nothing to be done. -/
inductive Stop where
  | version
  | help
  /-- They make no sense. -/
  | misuse (reason : String)
  deriving DecidableEq, Repr

/-! ## Options -/

/-- What is looked at. -/
inductive Mode where
  /-- No subcommand is named. -/
  | plain
  | build
  | languages
  deriving DecidableEq, Repr

/-- An option without a value. -/
inductive Switch where
  | verbose
  | quiet
  | help
  | version
  deriving DecidableEq, Repr

/-- An option with a value. -/
inductive Setting where
  | output
  | config
  | strip
  | exclude
  | index
  | name
  | naming
  | jobs
  deriving DecidableEq, Repr

/-- An option. -/
inductive Flag where
  | switch (s : Switch)
  | setting (s : Setting)
  deriving DecidableEq, Repr

/-- The option of a long name. -/
def longFlag? : String → Option Flag
  | "verbose" => some (.switch .verbose)
  | "quiet" => some (.switch .quiet)
  | "help" => some (.switch .help)
  | "version" => some (.switch .version)
  | "output" => some (.setting .output)
  | "config" => some (.setting .config)
  | "strip" => some (.setting .strip)
  | "exclude" => some (.setting .exclude)
  | "index" => some (.setting .index)
  | "name" => some (.setting .name)
  | "naming" => some (.setting .naming)
  | "jobs" => some (.setting .jobs)
  | _ => none

/-- The option of a letter. -/
def shortFlag? : Char → Option Flag
  | 'v' => some (.switch .verbose)
  | 'q' => some (.switch .quiet)
  | 'h' => some (.switch .help)
  | 'V' => some (.switch .version)
  | 'o' => some (.setting .output)
  | 'j' => some (.setting .jobs)
  | _ => none

/-- Is there such an option? Only the command itself has a version, and a list of languages needs no
more than settings. -/
def Mode.knows : Mode → Flag → Bool
  | _, .switch .verbose => true
  | _, .switch .quiet => true
  | _, .switch .help => true
  | m, .switch .version => m = .plain
  | _, .setting .config => true
  | m, .setting _ => m ≠ .languages

/-- May the option be given several times? -/
def Setting.repeats : Setting → Bool
  | .strip => true
  | .exclude => true
  | _ => false

/-! ## Reading -/

/-- The arguments so far. -/
structure Draft where
  mode : Mode
  options : BuildOptions := {}
  /-- Options that have had a value. -/
  given : List Setting := []
  /-- The option that the next argument is the value of. -/
  pending : Option Setting := none
  /-- Is everything from here on a path? -/
  pathsOnly : Bool := false
  verbose : Bool := false
  quiet : Bool := false
  deriving DecidableEq, Repr

/-- The number that digits stand for, behind a plus sign if there is one. -/
def number? (text : String) : Option Nat :=
  let digits := match text.toList with
    | '+' :: cs => cs
    | cs => cs
  if digits.isEmpty || !digits.all Char.isDigit then none
  else some (digits.foldl (fun n c => 10 * n + (c.toNat - '0'.toNat)) 0)

/-- How many workers a text asks for: at least one. -/
def jobs? (text : String) : Option Nat :=
  (number? text).filter fun n => 1 ≤ n && n < 0x10000000000000000

/-- A path, which is never empty. -/
def path? (text : String) : Option String :=
  if text = "" then none else some text

namespace Draft

/-- The value of an option must make sense. -/
def demand {α : Type} : Option α → Except Stop α
  | some a => .ok a
  | none => .error (.misuse "invalid value")

/-- Stores the value of an option. -/
def store (o : BuildOptions) (s : Setting) (v : String) : Except Stop BuildOptions :=
  match s with
  | .output => do return { o with output := some (← demand (path? v)) }
  | .config => do return { o with config := some (← demand (path? v)) }
  | .strip => .ok { o with strip := o.strip ++ [v] }
  | .exclude => .ok { o with exclude := o.exclude ++ [v] }
  | .index => .ok { o with index := some v }
  | .name => .ok { o with name := some v }
  | .naming => do return { o with naming := some (← demand (PageNaming.ofName? v)) }
  | .jobs => do return { o with jobs := some (← demand (jobs? v)) }

/-- Gives an option its value. -/
def set (d : Draft) (s : Setting) (v : String) : Except Stop Draft :=
  if d.given.contains s && !s.repeats then .error (.misuse "option given twice")
  else do return { d with options := ← store d.options s v, given := s :: d.given, pending := none }

/-- Takes in an option without a value. -/
def switch (d : Draft) : Switch → Except Stop Draft
  | .verbose => .ok { d with verbose := true }
  | .quiet =>
    if d.quiet then .error (.misuse "option given twice") else .ok { d with quiet := true }
  | .help => .error .help
  | .version => .error .version

/-- Takes in an option that is written out, with the value that is attached to it. -/
def long (d : Draft) (name : String) (value : Option String) : Except Stop Draft :=
  match (longFlag? name).filter d.mode.knows, value with
  | some (.switch s), none => d.switch s
  | some (.setting s), some v => d.set s v
  | some (.setting s), none => .ok { d with pending := some s }
  | _, _ => .error (.misuse "unexpected argument")

/-- Takes in letters that stand for options. What follows an option with a value is its value. -/
def short (d : Draft) : List Char → Except Stop Draft
  | [] => .ok d
  | c :: cs =>
    match (shortFlag? c).filter d.mode.knows with
    | some (.switch s) => do (← d.switch s).short cs
    | some (.setting s) =>
      match cs with
      | [] => .ok { d with pending := some s }
      | '=' :: v => d.set s (String.ofList v)
      | v => d.set s (String.ofList v)
    | none => .error (.misuse "unexpected argument")

/-- Takes in a path. -/
def addPath (d : Draft) (v : String) : Except Stop Draft :=
  if d.mode = .languages then .error (.misuse "unexpected argument")
  else do
    let path ← demand (path? v)
    return { d with options := { d.options with paths := d.options.paths ++ [path] } }

/-- Does an argument look like an option? A single dash does not. -/
def isOption : List Char → Bool
  | '-' :: _ :: _ => true
  | _ => false

/-- Takes in one argument. -/
def step (d : Draft) (argument : String) : Except Stop Draft :=
  let cs := argument.toList
  if d.pathsOnly then d.addPath argument
  else match d.pending with
    | some s => if isOption cs then .error (.misuse "missing value") else d.set s argument
    | none =>
      match cs with
      | ['-', '-'] => .ok { d with pathsOnly := true }
      | '-' :: '-' :: name =>
        match Text.cutAt '=' name with
        | some (name, value) => d.long (String.ofList name) (some (String.ofList value))
        | none => d.long (String.ofList name) none
      | '-' :: c :: more => d.short (c :: more)
      | _ => d.addPath argument

/-- What all arguments together ask for, and whether only errors are to be printed. -/
def finish (d : Draft) : Except Stop (Request × Bool) :=
  if d.pending.isSome then .error (.misuse "missing value")
  else if d.quiet && d.verbose then .error (.misuse "conflicting options")
  else if d.mode = .languages then .ok (.languages d.options.config, d.quiet)
  else .ok (.build d.options, d.quiet)

end Draft

/-- What arguments ask for in a mode. -/
def readIn (mode : Mode) (arguments : List String) : Except Stop (Request × Bool) := do
  (← arguments.foldlM Draft.step { mode }).finish

/-- What arguments ask for. -/
def readArguments : List String → Except Stop (Request × Bool)
  | "build" :: rest => readIn .build rest
  | "languages" :: rest => readIn .languages rest
  | ["help"] => .error .help
  | ["help", topic] =>
    if ["build", "languages", "help"].contains topic then .error .help
    else .error (.misuse "unrecognized subcommand")
  | "help" :: _ => .error (.misuse "unrecognized subcommand")
  | arguments => readIn .plain arguments

end Marginalia.Command
