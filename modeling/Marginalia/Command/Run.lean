import Marginalia.Assembly
import Marginalia.Command.Arguments
import Marginalia.Command.Failure
import Marginalia.Discovery
import Marginalia.Files.Host
import Marginalia.Page.Output
import Marginalia.Path.Pattern
import Marginalia.Settings

/-!
The command: it builds a site from source files or lists the languages it knows. Options count
before the settings of a project.
-/

namespace Marginalia.Command
open Files

/-! ## The table of languages -/

/-- The text with blanks after it, so that it has at least the given width. -/
def padRight (width : Nat) (s : String) : String :=
  s ++ String.ofList (List.replicate (width - s.length) ' ')

/-- What a language claims. -/
def claims (l : Language) : List String :=
  l.extensions.map ("." ++ ·) ++ l.fileNames

/-- How a language marks prose. -/
def markers (l : Language) : String :=
  if l.proseOnly then "(prose)"
  else
    let all := l.lineComments ++ l.blockComments.map fun b => b.opening ++ " " ++ b.closing
    if all.isEmpty then "-" else Text.join "  " all

/-- A row of the table. -/
def languageRow (l : Language) : String :=
  padRight 14 l.name ++ " " ++ padRight 36 (Text.join " " (claims l)) ++ " " ++ markers l

/-- The table of the languages of a catalogue. -/
def languageTable (c : Catalogue) : String :=
  String.join (c.languages.map fun l => languageRow l ++ "\n")

/-! ## The command -/

/-- What the command leaves behind, files apart. -/
structure Outcome where
  code : Nat
  out : String := ""
  err : String := ""
  deriving DecidableEq, Repr

/-- The file that holds the settings of a project. -/
def settingsFile : String :=
  "folio.toml"

/-- The directory of a site unless something else is said. -/
def defaultOutput : String :=
  "doc"

/-- The name of a site that cannot be named after a directory. -/
def defaultName : String :=
  "Documentation"

variable {m : Type → Type} [Monad m]

/-- Fails with a message where an error caused it. -/
def expect {ε α : Type} (message : String) (causes : ε → List String) :
    Except ε α → ExceptT Failure m α
  | .ok a => return a
  | .error e => throw { message, causes := causes e }

/-- Fails with a message where a file error caused it. -/
def expectFile {α : Type} (message : String) : Except FileError α → ExceptT Failure m α :=
  expect message fun e => [e.message]

/-! ## Settings -/

/-- Why settings could not be used. An error behind another is named again. -/
def settingsCauses : SettingsError → List String
  | .malformed => [SettingsError.malformed.message, "TOML parse error"]
  | e => [e.message]

/-- Reads the settings in a file. -/
def readSettings (h : Host m) (path : String) : ExceptT Failure m Settings := do
  let message := "Failed to load config '" ++ path ++ "'"
  let causes (e : FileError) := ["failed to read config file: " ++ e.message, e.message]
  let text ← expect message causes (← h.read path)
  expect message settingsCauses (Settings.parse text)

/-- The settings in the named file, else those of the project, if it has any. -/
def loadSettings (h : Host m) (path : Option String) : ExceptT Failure m Settings := do
  match path with
  | some path => readSettings h path
  | none => if ← h.isFile settingsFile then readSettings h settingsFile else return {}

/-- The settings with options over them. -/
def overlay (o : BuildOptions) (s : Settings) : Settings :=
  { s with
    name := o.name.or s.name
    output := o.output.or s.output
    index := o.index.or s.index
    strip := if o.strip.isEmpty then s.strip else o.strip
    exclude := if o.exclude.isEmpty then s.exclude else o.exclude
    naming := o.naming.or s.naming
    jobs := o.jobs.or s.jobs }

/-- The name of a site after the first place that is documented. -/
def nameAfter (h : Host m) (path : String) : m String := do
  match ← h.realPath path with
  | .ok real => return real.getLastD defaultName
  | .error _ => return defaultName

/-! ## Sources -/

/-- The patterns of what is left out. -/
def readPatterns (texts : List String) : ExceptT Failure m (List Path.Pattern) :=
  texts.mapM fun text =>
    expect ("Invalid exclude pattern '" ++ text ++ "'") (fun e => [e.message])
      (Path.Pattern.parse text)

/-- The places that paths name. -/
def findPlaces (h : Host m) (paths : List String) :
    ExceptT Failure m (List (Discovery.Place Unit)) := do
  let reals ← paths.mapM fun path => do
    expectFile ("Path not found: " ++ path) (← h.realPath path)
  reals.mapM fun real => do
    let tree ← expectFile ("Failed to read directory '" ++ real.text ++ "'") (← h.tree real)
    return ⟨real, tree⟩

/-- The files below the places that paths name, without what is excluded and what lies in the
directory of the site. -/
def findSources (h : Host m) (excluded : String → Bool) (output : String) (paths : List String) :
    ExceptT Failure m (List Discovery.Found) := do
  let skipped := (← h.realPath output).toOption
  return Discovery.collect { excluded, skipped } (← findPlaces h paths)

/-- Reads a file that was found, or gives the reason why it is left out. Files that no language
claims are not read at all. -/
def readSource (h : Host m) (c : Catalogue) (f : Discovery.Found) :
    m (Except SkippedFile SourceFile) := do
  if (c.byPath? f.relative).isNone then return .error ⟨f.relative, .unrecognized⟩
  match ← h.read f.path.text with
  | .ok text => return .ok ⟨f.relative, text⟩
  | .error e => return .error ⟨f.relative, .unreadable e.message⟩

/-- The results of one kind. -/
def sources (read : List (Except SkippedFile SourceFile)) : List SourceFile :=
  read.filterMap fun
    | .ok f => some f
    | .error _ => none

/-- The results of the other kind. -/
def skippedFiles (read : List (Except SkippedFile SourceFile)) : List SkippedFile :=
  read.filterMap fun
    | .ok _ => none
    | .error s => some s

/-! ## Sites -/

/-- Writes a file of a site into a directory. -/
def writeFile (h : Host m) (output : String) (f : Page.OutputFile) : ExceptT Failure m Unit := do
  let dir := Path.directory f.path
  if dir ≠ "" then
    let dir := joinPath output dir
    expectFile ("Failed to create directory '" ++ dir ++ "'") (← h.makeDirectories dir)
  let path := joinPath output f.path
  expectFile ("Failed to write '" ++ path ++ "'") (← h.write path f.text)

/-- Writes a site into a directory. Gives the number of its pages. -/
def writeSite (h : Host m) (output : String) (s : Site) : ExceptT Failure m Nat := do
  expectFile ("Failed to create output directory '" ++ output ++ "'") (← h.makeDirectories output)
  let files ← expect "Failed to render" (fun e => [e.message])
    (Page.outputFiles Page.plainHighlighter s)
  files.forM (writeFile h output)
  return Page.pageCount s

/-- What is said of a finished build. -/
def summary (s : Site) (pages : Nat) (output : String) : String :=
  "Documented " ++ Nat.repr s.size ++ " file(s) in " ++ Nat.repr pages ++ " page(s) at " ++
    output ++ "\n"

/-- Builds a site. -/
def build (h : Host m) (o : BuildOptions) (quiet : Bool) : ExceptT Failure m Outcome := do
  let settings := overlay o (← loadSettings h o.config)
  let paths := if o.paths.isEmpty then ["."] else o.paths
  let name ← match settings.name with
    | some name => pure name
    | none => ExceptT.lift (nameAfter h (paths.headD "."))
  let output := settings.output.getD defaultOutput
  let patterns ← readPatterns settings.exclude
  let found ← findSources h (fun path => patterns.any (·.matchesPath path)) output paths
  let catalogue := settings.catalogue
  let read ← ExceptT.lift (found.mapM (readSource h catalogue))
  let (site, report) ← expect "Build failed" (fun (e : SiteError) => [e.message])
    (Assembly.run catalogue settings.pageMap name (sources read))
  let pages ← writeSite h output site
  let report := Report.append ⟨skippedFiles read, []⟩ report
  if quiet then return { code := 0 }
  return { code := 0, out := summary site pages output, err := report.text }

/-! ## Requests -/

/-- What is said of the way the command is used. -/
def usage : String :=
  Page.unlines [
    "Cross-linked documentation sites from commented source code",
    "",
    "Usage: folio [OPTIONS] [PATHS]...",
    "       folio build [OPTIONS] [PATHS]...",
    "       folio languages [--config <CONFIG>]",
    "",
    "Options:",
    "  -o, --output <OUTPUT>    Output directory for the generated site",
    "      --config <CONFIG>    Configuration file (defaults to ./folio.toml when present)",
    "      --strip <STRIP>      Leading directory to remove from output paths (repeatable)",
    "      --exclude <EXCLUDE>  Glob pattern of paths to leave out (repeatable)",
    "      --index <INDEX>      Source file rendered as the front page (default README.md)",
    "      --name <NAME>        Site title (defaults to the input directory name)",
    "      --naming <NAMING>    Page naming: append or replace",
    "  -j, --jobs <JOBS>        Worker threads (defaults to available parallelism)",
    "  -v, --verbose...         Log more (-v info, -vv debug, -vvv trace)",
    "  -q, --quiet              Print nothing but errors",
    "  -h, --help               Print help",
    "  -V, --version            Print version"]

/-- Does what is asked for. -/
def answer (h : Host m) (quiet : Bool) : Request → ExceptT Failure m Outcome
  | .build options => build h options quiet
  | .languages config => do
    return { code := 0, out := languageTable (← loadSettings h config).catalogue }

/-- Runs the command with the given arguments. -/
def run (h : Host m) (arguments : List String) : m Outcome := do
  match readArguments arguments with
  | .error .version => return { code := 0, out := "folio 0.4.0\n" }
  | .error .help => return { code := 0, out := usage }
  | .error (.misuse reason) => return { code := 2, err := "error: " ++ reason ++ "\n\n" ++ usage }
  | .ok (request, quiet) =>
    match ← (answer h quiet request).run with
    | .ok outcome => return outcome
    | .error failure => return { code := 1, err := failure.text }

end Marginalia.Command
