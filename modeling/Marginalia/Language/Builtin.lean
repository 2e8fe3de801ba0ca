import Marginalia.Language.Catalogue

/-!
The languages that are known without any settings.
-/

namespace Marginalia.Language

/-- Languages with braces. A comment that starts with a closing brace stays code. -/
def braces : Language where
  name := ""
  lineComments := ["//"]
  blockComments := [⟨"/*", "*/", some "*"⟩]
  ignoreMark := some "\x7d"
  foldMark := some "^"

/-- Languages whose comments start with a number sign. -/
def script : Language :=
  { braces with lineComments := ["#"], blockComments := [], ignoreMark := none }

/-- Languages of tagged text. -/
def markup : Language :=
  { braces with
    lineComments := [], blockComments := [⟨"<!--", "-->", none⟩], ignoreMark := none,
    foldMark := none }

/-- Languages without code. -/
def prose : Language :=
  { braces with
    lineComments := [], blockComments := [], ignoreMark := none, foldMark := none,
    proseOnly := true }

/-- The languages known without settings. -/
def builtins : List Language := [
  { braces with name := "C", highlighter := "c", extensions := ["c", "h"] },
  { braces with
    name := "C++", highlighter := "cpp",
    extensions := ["cpp", "cc", "cxx", "c++", "hpp", "hh", "hxx"], lineComments := ["///", "//"] },
  { braces with
    name := "C#", highlighter := "csharp", extensions := ["cs"], lineComments := ["///", "//"] },
  { script with
    name := "Clojure", highlighter := "clojure", extensions := ["clj", "cljs", "cljc", "edn"],
    lineComments := [";;;", ";;", ";"] },
  { script with
    name := "CoffeeScript", highlighter := "coffeescript", extensions := ["coffee"],
    fileNames := ["Cakefile"], blockComments := [⟨"###", "###", none⟩] },
  { braces with name := "CSS", highlighter := "css", extensions := ["css"], lineComments := [] },
  { braces with
    name := "Dart", highlighter := "dart", extensions := ["dart"], lineComments := ["///", "//"],
    nested := true },
  { script with name := "Dockerfile", highlighter := "dockerfile", fileNames := ["Dockerfile"] },
  { script with name := "Elixir", highlighter := "elixir", extensions := ["ex", "exs"] },
  { script with
    name := "Erlang", highlighter := "erlang", extensions := ["erl", "hrl"],
    lineComments := ["%%%", "%%", "%"] },
  { braces with name := "Go", highlighter := "go", extensions := ["go"] },
  { braces with
    name := "Haskell", highlighter := "haskell", extensions := ["hs"], lineComments := ["--"],
    blockComments := [⟨"\x7b-", "-\x7d", none⟩], nested := true, ignoreMark := none },
  { markup with name := "HTML", highlighter := "html", extensions := ["html", "htm"] },
  { braces with name := "Java", highlighter := "java", extensions := ["java"] },
  { braces with
    name := "JavaScript", highlighter := "javascript", extensions := ["js", "mjs", "cjs", "jsx"] },
  { braces with
    name := "JSON", highlighter := "json", extensions := ["json"], lineComments := [],
    blockComments := [], ignoreMark := none, foldMark := none },
  { braces with
    name := "Kotlin", highlighter := "kotlin", extensions := ["kt", "kts"], nested := true },
  { braces with name := "Less", highlighter := "less", extensions := ["less"] },
  { script with
    name := "Lisp", highlighter := "common-lisp", extensions := ["lisp", "el", "cl"],
    lineComments := [";;;;", ";;;", ";;", ";"], blockComments := [⟨"#|", "|#", none⟩],
    nested := true },
  { script with
    name := "Lua", highlighter := "lua", extensions := ["lua"], lineComments := ["--"],
    blockComments := [⟨"--[[", "]]", none⟩] },
  { script with
    name := "Makefile", highlighter := "make", extensions := ["mk", "mak"],
    fileNames := ["Makefile", "makefile", "GNUmakefile"] },
  { prose with
    name := "Markdown", highlighter := "markdown",
    extensions := ["md", "markdown", "mdown", "mkd"] },
  { script with
    name := "Nim", highlighter := "nim", extensions := ["nim", "nims"],
    lineComments := ["##", "#"], blockComments := [⟨"#[", "]#", none⟩], nested := true },
  { braces with name := "Objective-C", highlighter := "objective-c", extensions := ["m", "mm"] },
  { braces with
    name := "OCaml", highlighter := "ocaml", extensions := ["ml", "mli"], lineComments := [],
    blockComments := [⟨"(*", "*)", some "*"⟩], nested := true, ignoreMark := none },
  { script with name := "Perl", highlighter := "perl", extensions := ["pl", "pm"] },
  { braces with
    name := "PHP", highlighter := "php", extensions := ["php"], lineComments := ["//", "#"] },
  { script with name := "Python", highlighter := "python", extensions := ["py", "pyw", "pyi"] },
  { script with name := "R", highlighter := "r", extensions := ["r", "R"] },
  { script with
    name := "Ruby", highlighter := "ruby", extensions := ["rb", "rake", "gemspec"],
    fileNames := ["Rakefile", "Gemfile"], blockComments := [⟨"=begin", "=end", none⟩] },
  { braces with
    name := "Rust", highlighter := "rust", extensions := ["rs"],
    lineComments := ["//!", "///", "//"], nested := true },
  { braces with
    name := "Scala", highlighter := "scala", extensions := ["scala", "sc"], nested := true },
  { braces with name := "SCSS", highlighter := "scss", extensions := ["scss"] },
  { script with
    name := "Shell", highlighter := "bash", extensions := ["sh", "bash", "zsh", "ksh"] },
  { braces with
    name := "SQL", highlighter := "sql", extensions := ["sql"], lineComments := ["--"],
    ignoreMark := none },
  { braces with
    name := "Swift", highlighter := "swift", extensions := ["swift"],
    lineComments := ["///", "//"], nested := true },
  { prose with name := "Text", highlighter := "text", extensions := ["txt"] },
  { script with name := "TOML", highlighter := "toml", extensions := ["toml"] },
  { braces with
    name := "TypeScript", highlighter := "typescript", extensions := ["ts", "tsx", "mts", "cts"] },
  { markup with name := "XML", highlighter := "xml", extensions := ["xml", "svg", "xsd"] },
  { script with name := "YAML", highlighter := "yaml", extensions := ["yml", "yaml"] },
  { braces with
    name := "Zig", highlighter := "zig", extensions := ["zig"],
    lineComments := ["//!", "///", "//"], blockComments := [] }]

end Marginalia.Language

namespace Marginalia.Catalogue

/-- The catalogue of the languages known without settings. -/
def builtin : Catalogue :=
  Language.builtins.foldl Catalogue.layer {}

end Marginalia.Catalogue
