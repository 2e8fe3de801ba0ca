/-!
The style sheet of a site.
-/

namespace Marginalia.Page

/-- What a style sheet consists of. -/
inductive Rule where
  /-- Declarations for what the selectors select. -/
  | block (selectors : List String) (declarations : List (String × String))
  /-- Rules that count under a condition only. -/
  | media (condition : String) (rules : List Rule)

mutual

/-- A rule as text, each line of it indented. -/
def Rule.text (indent : String) : Rule → String
  | .block selectors declarations =>
    String.intercalate ",\n" (selectors.map (indent ++ ·)) ++ " \x7b\n" ++
      String.join (declarations.map fun (property, value) =>
        indent ++ "  " ++ property ++ ": " ++ value ++ ";\n") ++
      indent ++ "\x7d\n"
  | .media condition rules =>
    indent ++ "@media " ++ condition ++ " \x7b\n" ++ rulesText (indent ++ "  ") rules ++
      indent ++ "\x7d\n"

/-- Rules as text. -/
def rulesText (indent : String) : List Rule → String
  | [] => ""
  | r :: rs => r.text indent ++ rulesText indent rs

end

/-- Styles of pages. -/
def layoutRules : List Rule := [
  .block [":root"] [
    ("--bg-color", "#1a1a2e"),
    ("--text-color", "#eaeaea"),
    ("--accent-color", "#7b68ee"),
    ("--code-bg", "#16213e"),
    ("--sidebar-bg", "#0f0f23"),
    ("--border-color", "#333"),
    ("--broken-color", "#e06c75")],
  .block ["*"] [
    ("box-sizing", "border-box"),
    ("margin", "0"),
    ("padding", "0")],
  .block ["body"] [
    ("font-family",
      "-apple-system, BlinkMacSystemFont, 'Segoe UI', Roboto, Oxygen, Ubuntu, sans-serif"),
    ("background-color", "var(--bg-color)"),
    ("color", "var(--text-color)"),
    ("line-height", "1.6"),
    ("display", "flex")],
  .block [".sidebar"] [
    ("width", "280px"),
    ("background-color", "var(--sidebar-bg)"),
    ("height", "100vh"),
    ("position", "fixed"),
    ("overflow-y", "auto"),
    ("border-right", "1px solid var(--border-color)")],
  .block [".sidebar-header"] [
    ("padding", "1.5rem"),
    ("border-bottom", "1px solid var(--border-color)")],
  .block [".sidebar-header h2 a"] [
    ("color", "var(--accent-color)"),
    ("font-size", "1.25rem"),
    ("text-decoration", "none")],
  .block [".toc"] [
    ("list-style", "none"),
    ("padding-left", "1rem")],
  .block [".toc-dir > span"] [
    ("display", "block"),
    ("padding", "0.25rem 0"),
    ("color", "#888"),
    ("font-size", "0.9rem")],
  .block [".toc a"] [
    ("display", "block"),
    ("padding", "0.2rem 0"),
    ("color", "var(--text-color)"),
    ("text-decoration", "none"),
    ("font-size", "0.9rem")],
  .block [".toc a:hover", ".toc a.current"] [
    ("color", "var(--accent-color)")],
  .block [".content"] [
    ("margin-left", "280px"),
    ("padding", "2rem 3rem 4rem"),
    ("max-width", "1000px"),
    ("width", "100%")],
  .block [".breadcrumbs"] [
    ("font-size", "0.85rem"),
    ("color", "#888"),
    ("margin-bottom", "1rem")],
  .block [".breadcrumbs a"] [
    ("color", "var(--accent-color)"),
    ("text-decoration", "none")],
  .block ["header h1"] [
    ("font-size", "2.25rem"),
    ("color", "var(--accent-color)"),
    ("margin-bottom", "0.25rem")],
  .block [".source-path"] [
    ("color", "#888"),
    ("font-size", "0.85rem"),
    ("margin-bottom", "1.5rem")],
  .block [".segment"] [
    ("margin", "1rem 0")],
  .block [".prose h1, .prose h2, .prose h3, .prose h4"] [
    ("color", "var(--accent-color)"),
    ("margin", "1.25rem 0 0.5rem")],
  .block [".prose p, .prose ul, .prose ol, .prose table"] [
    ("margin", "0.5rem 0")],
  .block [".prose ul, .prose ol"] [
    ("padding-left", "1.5rem")],
  .block [".prose a"] [
    ("color", "var(--accent-color)")],
  .block [".prose a.broken-link"] [
    ("color", "var(--broken-color)"),
    ("text-decoration", "line-through")],
  .block [".listing"] [
    ("display", "flex"),
    ("background", "#0d1117"),
    ("border-radius", "4px"),
    ("border-left", "3px solid var(--accent-color)"),
    ("overflow-x", "auto")],
  .block [".listing pre"] [
    ("padding", "0.75rem 1rem"),
    ("font-family", "'Fira Code', 'Consolas', monospace"),
    ("font-size", "0.85rem"),
    ("line-height", "1.5")],
  .block [".listing pre code"] [
    ("background", "none"),
    ("padding", "0")],
  .block [".gutter"] [
    ("text-align", "right"),
    ("user-select", "none"),
    ("border-right", "1px solid var(--border-color)")],
  .block [".gutter a"] [
    ("color", "#555"),
    ("text-decoration", "none")],
  .block [".gutter a:target"] [
    ("color", "var(--accent-color)")],
  .block ["details.folded summary"] [
    ("cursor", "pointer"),
    ("color", "#888"),
    ("font-size", "0.85rem"),
    ("padding", "0.25rem 0")],
  .block [".pager"] [
    ("display", "flex"),
    ("justify-content", "space-between"),
    ("margin-top", "3rem"),
    ("padding-top", "1rem"),
    ("border-top", "1px solid var(--border-color)")],
  .block [".pager a"] [
    ("color", "var(--accent-color)"),
    ("text-decoration", "none")],
  .block [".pager .next"] [
    ("margin-left", "auto")],
  .block [".contents ul"] [
    ("list-style", "none")],
  .block [".contents li"] [
    ("margin", "0.25rem 0")],
  .block [".contents a"] [
    ("color", "var(--accent-color)"),
    ("text-decoration", "none")],
  .block ["code"] [
    ("background", "var(--code-bg)"),
    ("padding", "0.15rem 0.3rem"),
    ("border-radius", "3px"),
    ("font-family", "'Fira Code', 'Consolas', monospace"),
    ("font-size", "0.9em")],
  .block ["footer"] [
    ("position", "fixed"),
    ("bottom", "0"),
    ("right", "0"),
    ("padding", "0.5rem 1rem"),
    ("font-size", "0.75rem"),
    ("color", "#666")],
  .media "(max-width: 768px)" [
    .block [".sidebar"] [
      ("display", "none")],
    .block [".content"] [
      ("margin-left", "0"),
      ("padding", "1rem")]]]

/-- Styles of the search box and of the list below it. -/
def searchRules : List Rule := [
  .block [".finder"] [
    ("position", "relative"),
    ("padding", "0.75rem 1rem"),
    ("border-bottom", "1px solid var(--border-color)")],
  .block ["#search-input"] [
    ("width", "100%"),
    ("padding", "0.4rem 0.6rem"),
    ("color", "var(--text-color)"),
    ("background", "var(--code-bg)"),
    ("border", "1px solid var(--border-color)"),
    ("border-radius", "4px"),
    ("font-size", "0.85rem")],
  .block ["#search-input:focus"] [
    ("outline", "1px solid var(--accent-color)")],
  .block ["#search-results"] [
    ("position", "absolute"),
    ("left", "1rem"),
    ("z-index", "10"),
    ("width", "26rem"),
    ("max-height", "60vh"),
    ("overflow-y", "auto"),
    ("list-style", "none"),
    ("background", "var(--sidebar-bg)"),
    ("border", "1px solid var(--border-color)"),
    ("border-radius", "4px")],
  .block ["#search-results a"] [
    ("display", "grid"),
    ("grid-template-columns", "1fr auto"),
    ("padding", "0.4rem 0.6rem"),
    ("color", "var(--text-color)"),
    ("text-decoration", "none")],
  .block ["#search-results a:hover", "#search-results a.selected"] [
    ("background", "var(--code-bg)")],
  .block [".hit-name"] [
    ("color", "var(--accent-color)")],
  .block [".hit-kind"] [
    ("font-size", "0.7rem"),
    ("text-transform", "uppercase"),
    ("color", "#888")],
  .block [".hit-kind.heading"] [
    ("color", "#7ec876")],
  .block [".hit-where"] [
    ("grid-column", "1 / -1"),
    ("font-size", "0.75rem"),
    ("color", "#888")],
  .block ["#search-results .miss"] [
    ("padding", "0.6rem"),
    ("color", "#888")]]

/-- The style sheet, with an empty line before each rule. -/
def stylesheet : String :=
  String.join ((layoutRules ++ searchRules).map fun r => "\n" ++ r.text "")

end Marginalia.Page
