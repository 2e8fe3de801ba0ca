import Marginalia.Proofs.Html.Tally
import Marginalia.Proofs.Outline.Anchor
import Marginalia.Proofs.Page.Navigation

/-! What a page of code looks like from afar. How many angle brackets and quotes it has follows from its
shape: how many directories and files the contents have, how many directories stand above the document,
which neighbours there are, and how long its listings are. Names, titles and code have no part in it. -/
namespace Marginalia
open Html
set_option autoImplicit false

/-! ## Shapes -/

namespace Contents
variable {α : Type}

mutual

/-- How many directories there are. -/
def directories : Contents α → Nat
  | .file .. => 0
  | .directory _ _ children => directoriesAll children + 1

def directoriesAll : List (Contents α) → Nat
  | [] => 0
  | c :: cs => c.directories + directoriesAll cs

end

end Contents

namespace Page

/-- What the markup of a page depends on. -/
structure Shape where
  /-- How many directories the contents have below the root. -/
  directories : Nat
  files : Nat
  breadcrumbs : Nat
  previous : Bool
  next : Bool
  /-- How many lines each listing has, and whether it is folded. -/
  listings : List (Nat × Bool)
  deriving DecidableEq, Repr

def shape (s : Site) (d : Document) (n : Site.Navigation) : Shape where
  directories := Contents.directoriesAll s.contents.children
  files := s.contents.values.length
  breadcrumbs := n.breadcrumbs.length
  previous := n.previous.isSome
  next := n.next.isSome
  listings := d.passages.map fun p => (p.size, p.folded)

def listingTally (listing : Nat × Bool) : Tally :=
  ⟨10, 10, 8⟩ + Tally.times listing.1 ⟨2, 2, 4⟩ + if listing.2 then ⟨4, 4, 2⟩ else 0

/-- The markup of a page of the given shape. -/
def Shape.tally (x : Shape) : Tally :=
  ⟨51, 51, 48⟩ + Tally.times x.directories ⟨6, 6, 4⟩ + Tally.times x.files ⟨4, 4, 4⟩ +
    Tally.times x.breadcrumbs ⟨2, 2, 0⟩ + Tally.times (x.previous.toNat + x.next.toNat) ⟨2, 2, 4⟩ +
    .total (x.listings.map listingTally)

/-! ## Small parts -/

theorem marks_line {line : String} {lines : List String} {s t : Tally} (h : Marks line s)
    (hr : Marks (unlines lines) t) : Marks (unlines (line :: lines)) (s + t) := by
  have hend : Marks "\n" 0 := .quiet (by decide)
  rw [unlines_cons]
  exact (h.append hend).append hr

theorem marks_no_lines : Marks (unlines []) 0 :=
  .of_not_mem (by simp [unlines])

theorem marks_unlines {lines : List String} {t : List Tally} (h : List.Forall₂ Marks lines t) :
    Marks (unlines lines) (.total t) := by
  induction h with
  | nil => exact marks_no_lines
  | cons hline _ ih => exact marks_line hline ih

theorem marks_repr (n : Nat) : Marks (Nat.repr n) 0 := by
  refine .of_not_mem fun c hc => ?_
  have hdigit := Outline.isDigit_of_mem_repr hc
  rw [Bool.eq_false_iff]
  intro hspecial
  obtain rfl | rfl | rfl | rfl | rfl := isSpecial_cases hspecial
  all_goals exact absurd hdigit (by decide)

theorem marks_rootOf (page : String) : Marks (rootOf page) 0 := by
  have hstep : Marks "../" 0 := .quiet (by decide)
  have hsteps := Marks.join_map (f := fun _ : Nat => "../") (l := List.range (page.toList.count '/'))
    fun _ _ => hstep
  rw [List.map_const', List.length_range] at hsteps
  exact hsteps.of_eq (by ext <;> simp)

theorem marks_homeUrl (page : String) : Marks (Path.relativeUrl page indexPage) 0 := by
  refine .of_not_mem fun c hc => ?_
  have hindex : indexPage.toList.all (fun c => !isSpecial c) = true := by decide
  obtain rfl | rfl | hm := Path.mem_relativeUrl hc
  · decide
  · decide
  · simpa using List.all_eq_true.mp hindex c hm

/-! ## The sidebar -/

theorem marks_sidebarFile (page : String) (current : Option Document) (name : String) (d : Document) :
    Marks (sidebarFile page current name d)
      (⟨4, 4, 4⟩ + if current.any (·.source = d.source) then ⟨0, 0, 2⟩ else 0) := by
  have hmark : Marks (if current.any (·.source = d.source) then " class=\"current\"" else "")
      (if current.any (·.source = d.source) then ⟨0, 0, 2⟩ else 0) := by
    split
    · exact .fixed rfl rfl
    · exact .of_not_mem (by simp)
  have hopen : Marks "<li><a href=\"" ⟨2, 1, 1⟩ := .fixed rfl rfl
  have htitle : Marks "\" title=\"" ⟨0, 0, 2⟩ := .fixed rfl rfl
  have hquote : Marks "\"" ⟨0, 0, 1⟩ := .fixed rfl rfl
  have hend : Marks ">" ⟨0, 1, 0⟩ := .fixed rfl rfl
  have hclose : Marks "</a></li>" ⟨2, 2, 0⟩ := .fixed rfl rfl
  unfold sidebarFile
  refine ((((((((hopen.append (.escape _)).append htitle).append (.escape _)).append
    hquote).append hmark).append hend).append (.escape _)).append hclose).of_eq ?_
  ext <;> simp <;> omega

/-- The entries of a sidebar: so much for each directory and each file, and the mark of the current
document. -/
def entriesTally (directories files marked : Nat) : Tally :=
  Tally.times directories ⟨6, 6, 4⟩ + Tally.times files ⟨4, 4, 4⟩ + Tally.times marked ⟨0, 0, 2⟩

section
variable (s : Site) (page : String) (current : Option Document)

def markedIn (places : List Nat) : Nat :=
  (documentsAt s places).countP fun d => current.any (·.source = d.source)

mutual

theorem marks_sidebarEntry {indent : String} (hi : Marks indent 0) (c : Contents Nat)
    (hc : ∀ n ∈ c.values, n < s.documents.length) :
    Marks (sidebarEntry s page current indent c)
      (entriesTally c.directories c.values.length (markedIn s current c.values)) := by
  have hblank : Marks "  " 0 := .quiet (by decide)
  have hend : Marks "\n" 0 := .quiet (by decide)
  cases c with
  | file name n =>
    have hn : n < s.documents.length := hc n (by simp [Contents.values])
    have hd : s.documents[n]? = some s.documents[n] := List.getElem?_eq_getElem hn
    have hmarked : markedIn s current [n] =
        if current.any (·.source = s.documents[n].source) then 1 else 0 := by
      rw [markedIn, documentsAt, List.filterMap_cons_some hd, List.filterMap_nil,
        List.countP_singleton]
    rw [sidebarEntry, hd, Contents.values, hmarked]
    refine (((hi.append hblank).append (marks_sidebarFile page current name _)).append hend).of_eq ?_
    split <;> ext <;> simp [entriesTally, Contents.directories]
  | directory name path children =>
    have hmore : Marks "    " 0 := .quiet (by decide)
    have hlist : Marks (indent ++ "    ") 0 := (hi.append hmore).of_eq rfl
    have hinner := marks_sidebarEntries hlist children hc
    have hopen : Marks "  <li class=\"toc-dir\"><span>" ⟨2, 2, 2⟩ := .fixed rfl rfl
    have hname : Marks "/</span>\n" ⟨1, 1, 0⟩ := .fixed rfl rfl
    have hul : Marks "    <ul class=\"toc\">\n" ⟨1, 1, 2⟩ := .fixed rfl rfl
    have hulEnd : Marks "    </ul>\n" ⟨1, 1, 0⟩ := .fixed rfl rfl
    have hclose : Marks "  </li>\n" ⟨1, 1, 0⟩ := .fixed rfl rfl
    rw [sidebarEntry]
    refine ((((((((((hi.append hopen).append (.escape name)).append hname).append hi).append
      hul).append hinner).append hi).append hulEnd).append hi).append hclose).of_eq ?_
    ext <;> simp [entriesTally, Contents.directories, Contents.values] <;> omega

theorem marks_sidebarEntries {indent : String} (hi : Marks indent 0) (cs : List (Contents Nat))
    (hc : ∀ n ∈ Contents.valuesAll cs, n < s.documents.length) :
    Marks (sidebarEntries s page current indent cs)
      (entriesTally (Contents.directoriesAll cs) (Contents.valuesAll cs).length
        (markedIn s current (Contents.valuesAll cs))) := by
  cases cs with
  | nil =>
    have hempty : Marks "" 0 := .of_not_mem (by simp)
    rw [sidebarEntries]
    exact hempty.of_eq rfl
  | cons c cs =>
    have hvalues : ∀ n, n ∈ c.values ∨ n ∈ Contents.valuesAll cs → n < s.documents.length := by
      intro n hn
      exact hc n (by simpa [Contents.valuesAll] using hn)
    have hfirst := marks_sidebarEntry hi c fun n hn => hvalues n (.inl hn)
    have hrest := marks_sidebarEntries hi cs fun n hn => hvalues n (.inr hn)
    rw [sidebarEntries]
    refine (hfirst.append hrest).of_eq ?_
    ext <;> simp [entriesTally, Contents.directoriesAll, Contents.valuesAll, markedIn, documentsAt,
      List.filterMap_append, List.countP_append] <;> omega

end

theorem marks_sidebar (hc : ∀ n ∈ Contents.valuesAll s.contents.children, n < s.documents.length) :
    Marks (sidebar s page current)
      (⟨2, 2, 2⟩ + entriesTally (Contents.directoriesAll s.contents.children)
        (Contents.valuesAll s.contents.children).length
        (markedIn s current (Contents.valuesAll s.contents.children))) := by
  have hindent : Marks "  " 0 := .quiet (by decide)
  have hentries := marks_sidebarEntries s page current hindent s.contents.children hc
  have hopen : Marks "  <ul class=\"toc\">\n" ⟨1, 1, 2⟩ := .fixed rfl rfl
  have hclose : Marks "  </ul>\n" ⟨1, 1, 0⟩ := .fixed rfl rfl
  unfold sidebar
  refine ((hopen.append hentries).append hclose).of_eq ?_
  ext <;> simp <;> omega

end

/-! ## Around the content -/

theorem marks_breadcrumbs (s : Site) (d : Document) (n : Site.Navigation) :
    Marks (breadcrumbs s d n) (⟨6, 6, 4⟩ + Tally.times n.breadcrumbs.length ⟨2, 2, 0⟩) := by
  have hopen : Marks "<nav class=\"breadcrumbs\"><a href=\"" ⟨2, 1, 3⟩ := .fixed rfl rfl
  have hquote : Marks "\">" ⟨0, 1, 1⟩ := .fixed rfl rfl
  have hlink : Marks "</a>" ⟨1, 1, 0⟩ := .fixed rfl rfl
  have hclose : Marks "</nav>\n" ⟨1, 1, 0⟩ := .fixed rfl rfl
  have hspan : Marks " / <span>" ⟨1, 1, 0⟩ := .fixed rfl rfl
  have hspanEnd : Marks "</span>" ⟨1, 1, 0⟩ := .fixed rfl rfl
  have hnames := Marks.join_map (f := fun name => " / <span>" ++ escape name ++ "</span>")
    (l := n.breadcrumbs.map (·.name) ++ [d.fileName])
    fun name _ => (hspan.append (.escape name)).append hspanEnd
  unfold breadcrumbs
  refine ((((((hopen.append (marks_homeUrl d.page)).append hquote).append (.escape _)).append
    hlink).append hnames).append hclose).of_eq ?_
  ext <;> simp <;> omega

theorem marks_pager (page : String) (n : Site.Navigation) :
    Marks (pager page n)
      (⟨2, 2, 2⟩ + Tally.times (n.previous.isSome.toNat + n.next.isSome.toNat) ⟨2, 2, 4⟩) := by
  have hopen : Marks "<nav class=\"pager\">" ⟨1, 1, 2⟩ := .fixed rfl rfl
  have hclose : Marks "</nav>" ⟨1, 1, 0⟩ := .fixed rfl rfl
  have hclass : Marks "  <a class=\"" ⟨1, 0, 1⟩ := .fixed rfl rfl
  have hhref : Marks "\" href=\"" ⟨0, 0, 2⟩ := .fixed rfl rfl
  have hquote : Marks "\">" ⟨0, 1, 1⟩ := .fixed rfl rfl
  have hend : Marks "</a>" ⟨1, 1, 0⟩ := .fixed rfl rfl
  have hlink : ∀ {side text : String} (url : String), Marks side 0 → Marks text 0 →
      Marks ("  <a class=\"" ++ side ++ "\" href=\"" ++ escape url ++ "\">" ++ text ++ "</a>")
        ⟨2, 2, 4⟩ := by
    intro side text url hside htext
    exact ((((((hclass.append hside).append hhref).append (.escape url)).append hquote).append
      htext).append hend).of_eq rfl
  have hone : ∀ {f : Document → String} (o : Option Document), (∀ d, Marks (f d) ⟨2, 2, 4⟩) →
      Marks (unlines (o.map f).toList) (Tally.times o.isSome.toNat ⟨2, 2, 4⟩) := by
    intro f o hf
    cases o with
    | none => exact marks_no_lines.of_eq rfl
    | some d => exact (marks_line (hf d) marks_no_lines).of_eq rfl
  have hside : Marks "prev" 0 := .quiet (by decide)
  have hside' : Marks "next" 0 := .quiet (by decide)
  have hleft : Marks "&larr; " 0 := .fixed rfl rfl
  have hright : Marks " &rarr;" 0 := .fixed rfl rfl
  have hprevious := hone n.previous fun d =>
    hlink (Path.relativeUrl page d.page) hside (hleft.append (.escape d.title))
  have hnext := hone n.next fun d =>
    hlink (Path.relativeUrl page d.page) hside' ((Marks.escape d.title).append hright)
  unfold pager
  simp only [unlines_append]
  refine ((((marks_line hopen marks_no_lines).append hprevious).append hnext).append
    (marks_line hclose marks_no_lines)).of_eq ?_
  ext <;> simp <;> omega

theorem marks_header (d : Document) (n : Site.Navigation) :
    Marks (unlines [
      "<header>",
      "  <h1>" ++ escape d.title ++ "</h1>",
      "  <p class=\"source-path\"><code>" ++ escape d.source ++ "</code> · " ++
        escape d.language.name ++ " · file " ++ Nat.repr n.position ++ " of " ++
        Nat.repr n.siblings ++ "</p>",
      "</header>"]) ⟨8, 8, 2⟩ := by
  have hopen : Marks "<header>" ⟨1, 1, 0⟩ := .fixed rfl rfl
  have htitle : Marks "  <h1>" ⟨1, 1, 0⟩ := .fixed rfl rfl
  have htitleEnd : Marks "</h1>" ⟨1, 1, 0⟩ := .fixed rfl rfl
  have hpath : Marks "  <p class=\"source-path\"><code>" ⟨2, 2, 2⟩ := .fixed rfl rfl
  have hpathEnd : Marks "</code> · " ⟨1, 1, 0⟩ := .fixed rfl rfl
  have hfile : Marks " · file " 0 := .fixed rfl rfl
  have hof : Marks " of " 0 := .fixed rfl rfl
  have hend : Marks "</p>" ⟨1, 1, 0⟩ := .fixed rfl rfl
  have hclose : Marks "</header>" ⟨1, 1, 0⟩ := .fixed rfl rfl
  have hname := (htitle.append (.escape d.title)).append htitleEnd
  have hplace := (((((((hpath.append (.escape d.source)).append hpathEnd).append
    (.escape d.language.name)).append hfile).append (marks_repr n.position)).append hof).append
    (marks_repr n.siblings)).append hend
  exact (marks_line hopen (marks_line hname (marks_line hplace
    (marks_line hclose marks_no_lines)))).of_eq rfl

/-! ## Listings -/

theorem marks_lineAnchor (n : Nat) : Marks (lineAnchor n) ⟨2, 2, 4⟩ := by
  have hletter : Marks "L" 0 := .quiet (by decide)
  have hname := hletter.append (marks_repr n)
  have hopen : Marks "<a id=\"" ⟨1, 0, 1⟩ := .fixed rfl rfl
  have hhref : Marks "\" href=\"#" ⟨0, 0, 2⟩ := .fixed rfl rfl
  have hquote : Marks "\">" ⟨0, 1, 1⟩ := .fixed rfl rfl
  have hend : Marks "</a>" ⟨1, 1, 0⟩ := .fixed rfl rfl
  unfold lineAnchor
  exact ((((((hopen.append hname).append hhref).append hname).append hquote).append
    (marks_repr n)).append hend).of_eq rfl

theorem marks_gutter (p : Passage) :
    Marks (gutter p) (⟨2, 2, 2⟩ + Tally.times p.size ⟨2, 2, 4⟩) := by
  have hend : Marks "\n" 0 := .quiet (by decide)
  have hlines := Marks.join_map (f := fun i => lineAnchor (p.start + i) ++ "\n")
    (l := List.range p.size) fun i _ => (marks_lineAnchor (p.start + i)).append hend
  have hopen : Marks "<pre class=\"gutter\">" ⟨1, 1, 2⟩ := .fixed rfl rfl
  have hclose : Marks "</pre>\n" ⟨1, 1, 0⟩ := .fixed rfl rfl
  unfold gutter
  rw [unlines, List.map_map]
  refine ((hopen.append hlines).append hclose).of_eq ?_
  ext <;> simp <;> omega

theorem marks_plainHighlighter (code language : String) :
    Marks (plainHighlighter code language) ⟨4, 4, 2⟩ := by
  have hopen : Marks "<pre><code class=\"language-" ⟨2, 1, 1⟩ := .fixed rfl rfl
  have hquote : Marks "\">" ⟨0, 1, 1⟩ := .fixed rfl rfl
  have hclose : Marks "</code></pre>" ⟨2, 2, 0⟩ := .fixed rfl rfl
  unfold plainHighlighter
  exact ((((hopen.append (.escape _)).append hquote).append (.escape _)).append hclose).of_eq rfl

theorem marks_codeSection (language : String) (p : Passage) :
    Marks (codeSection plainHighlighter language p) (listingTally (p.size, p.folded)) := by
  have hdiv : Marks "<div class=\"listing\">\n" ⟨1, 1, 2⟩ := .fixed rfl rfl
  have hdivEnd : Marks "\n</div>\n" ⟨1, 1, 0⟩ := .fixed rfl rfl
  have hlisting := ((hdiv.append (marks_gutter p)).append
    (marks_plainHighlighter p.text language)).append hdivEnd
  have hdetails : Marks "<details class=\"folded\"><summary>" ⟨2, 2, 2⟩ := .fixed rfl rfl
  have hsummary : Marks " hidden line(s)</summary>\n" ⟨1, 1, 0⟩ := .fixed rfl rfl
  have hdetailsEnd : Marks "</details>\n" ⟨1, 1, 0⟩ := .fixed rfl rfl
  have hopen : Marks "<section class=\"segment code\">\n" ⟨1, 1, 2⟩ := .fixed rfl rfl
  have hclose : Marks "</section>\n" ⟨1, 1, 0⟩ := .fixed rfl rfl
  unfold codeSection
  cases hfolded : p.folded with
  | false =>
    refine ((hopen.append hlisting).append hclose).of_eq ?_
    ext <;> simp [listingTally] <;> omega
  | true =>
    refine ((hopen.append ((((hdetails.append (marks_repr _)).append hsummary).append
      hlisting).append hdetailsEnd)).append hclose).of_eq ?_
    ext <;> simp [listingTally] <;> omega

theorem marks_sections (s : Site) (d : Document) (ids : List String) {ps : List Passage}
    (hcode : ∀ p ∈ ps, p.isProse = false) :
    Marks (sections plainHighlighter s d ids ps)
      (.total (ps.map fun p => listingTally (p.size, p.folded))) := by
  induction ps with
  | nil => exact .of_not_mem (by simp [sections])
  | cons p ps ih =>
    have hp : p.isProse = false := hcode p (by simp)
    have hrest := ih fun q hq => hcode q (by simp [hq])
    unfold sections
    rw [hp]
    exact (marks_codeSection d.language.highlighter p).append hrest

/-! ## Whole pages -/

theorem marks_front (page title name : String) :
    Marks (unlines [
      "<!DOCTYPE html>",
      "<html lang=\"en\">",
      "<head>",
      "  <meta charset=\"UTF-8\">",
      "  <meta name=\"viewport\" content=\"width=device-width, initial-scale=1.0\">",
      "  <title>" ++ escape title ++ " - " ++ escape name ++ "</title>",
      "  <link rel=\"stylesheet\" href=\"" ++ rootOf page ++ "folio.css\">",
      "</head>",
      "<body data-root=\"" ++ rootOf page ++ "\">",
      "<nav class=\"sidebar\">",
      "  <div class=\"sidebar-header\">",
      "    <h2><a href=\"" ++ rootOf page ++ indexPage ++ "\">" ++ escape name ++ "</a></h2>",
      "  </div>",
      "  <div class=\"finder\">",
      "    <input id=\"search-input\" type=\"search\" placeholder=\"Search (press /)\"" ++
        " autocomplete=\"off\">",
      "    <ol id=\"search-results\" hidden></ol>",
      "  </div>"]) ⟨22, 22, 32⟩ := by
  have hroot := marks_rootOf page
  have hquote : Marks "\">" ⟨0, 1, 1⟩ := .fixed rfl rfl
  have htitle : Marks ("  <title>" ++ escape title ++ " - " ++ escape name ++ "</title>")
      ⟨2, 2, 0⟩ := by
    have hopen : Marks "  <title>" ⟨1, 1, 0⟩ := .fixed rfl rfl
    have hdash : Marks " - " 0 := .fixed rfl rfl
    have hclose : Marks "</title>" ⟨1, 1, 0⟩ := .fixed rfl rfl
    exact ((((hopen.append (.escape title)).append hdash).append (.escape name)).append
      hclose).of_eq rfl
  have hstyle : Marks ("  <link rel=\"stylesheet\" href=\"" ++ rootOf page ++ "folio.css\">")
      ⟨1, 1, 4⟩ := by
    have hopen : Marks "  <link rel=\"stylesheet\" href=\"" ⟨1, 0, 3⟩ := .fixed rfl rfl
    have hclose : Marks "folio.css\">" ⟨0, 1, 1⟩ := .fixed rfl rfl
    exact ((hopen.append hroot).append hclose).of_eq rfl
  have hbody : Marks ("<body data-root=\"" ++ rootOf page ++ "\">") ⟨1, 1, 2⟩ := by
    have hopen : Marks "<body data-root=\"" ⟨1, 0, 1⟩ := .fixed rfl rfl
    exact ((hopen.append hroot).append hquote).of_eq rfl
  have hhome : Marks ("    <h2><a href=\"" ++ rootOf page ++ indexPage ++ "\">" ++ escape name ++
      "</a></h2>") ⟨4, 4, 2⟩ := by
    have hopen : Marks "    <h2><a href=\"" ⟨2, 1, 1⟩ := .fixed rfl rfl
    have hindex : Marks indexPage 0 := .quiet (by decide)
    have hclose : Marks "</a></h2>" ⟨2, 2, 0⟩ := .fixed rfl rfl
    exact (((((hopen.append hroot).append hindex).append hquote).append (.escape name)).append
      hclose).of_eq rfl
  have hinput : Marks ("    <input id=\"search-input\" type=\"search\" placeholder=\"Search (press /)\"" ++
      " autocomplete=\"off\">") ⟨1, 1, 8⟩ := by
    have hopen : Marks ("    <input id=\"search-input\" type=\"search\" placeholder=\"Search (press /)\"")
      ⟨1, 0, 6⟩ := .fixed rfl rfl
    have hclose : Marks " autocomplete=\"off\">" ⟨0, 1, 2⟩ := .fixed rfl rfl
    exact (hopen.append hclose).of_eq rfl
  refine (marks_unlines (t := [⟨1, 1, 0⟩, ⟨1, 1, 2⟩, ⟨1, 1, 0⟩, ⟨1, 1, 2⟩, ⟨1, 1, 4⟩, ⟨2, 2, 0⟩, ⟨1, 1, 4⟩,
    ⟨1, 1, 0⟩, ⟨1, 1, 2⟩, ⟨1, 1, 2⟩, ⟨1, 1, 2⟩, ⟨4, 4, 2⟩, ⟨1, 1, 0⟩, ⟨1, 1, 2⟩, ⟨1, 1, 8⟩, ⟨2, 2, 2⟩,
    ⟨1, 1, 0⟩]) ?_).of_eq rfl
  iterate 5 refine .cons (.fixed rfl rfl) ?_
  refine .cons htitle (.cons hstyle (.cons (.fixed rfl rfl) (.cons hbody ?_)))
  refine .cons (.fixed rfl rfl) (.cons (.fixed rfl rfl) (.cons hhome ?_))
  refine .cons (.fixed rfl rfl) (.cons (.fixed rfl rfl) (.cons hinput ?_))
  exact .cons (.fixed rfl rfl) (.cons (.fixed rfl rfl) .nil)

theorem marks_back (page : String) :
    Marks (unlines [
      "</main>",
      "<footer>",
      "  <p>Generated by " ++ signature ++ "</p>",
      "</footer>",
      "<script src=\"" ++ rootOf page ++ "search.js\"></script>",
      "</body>",
      "</html>"]) ⟨9, 9, 2⟩ := by
  have hsigned : Marks ("  <p>Generated by " ++ signature ++ "</p>") ⟨2, 2, 0⟩ := by
    have hopen : Marks "  <p>Generated by " ⟨1, 1, 0⟩ := .fixed rfl rfl
    have hname : Marks signature 0 := .quiet (by decide)
    have hclose : Marks "</p>" ⟨1, 1, 0⟩ := .fixed rfl rfl
    exact ((hopen.append hname).append hclose).of_eq rfl
  have hscript : Marks ("<script src=\"" ++ rootOf page ++ "search.js\"></script>") ⟨2, 2, 2⟩ := by
    have hopen : Marks "<script src=\"" ⟨1, 0, 1⟩ := .fixed rfl rfl
    have hclose : Marks "search.js\"></script>" ⟨1, 2, 1⟩ := .fixed rfl rfl
    exact ((hopen.append (marks_rootOf page)).append hclose).of_eq rfl
  refine (marks_unlines (t := [⟨1, 1, 0⟩, ⟨1, 1, 0⟩, ⟨2, 2, 0⟩, ⟨1, 1, 0⟩, ⟨2, 2, 2⟩, ⟨1, 1, 0⟩,
    ⟨1, 1, 0⟩]) ?_).of_eq rfl
  refine .cons (.fixed rfl rfl) (.cons (.fixed rfl rfl) (.cons hsigned ?_))
  refine .cons (.fixed rfl rfl) (.cons hscript ?_)
  exact .cons (.fixed rfl rfl) (.cons (.fixed rfl rfl) .nil)

theorem marks_frame (s : Site) (page title : String) (current : Option Document) {body : String}
    {side inner : Tally} (hside : Marks (sidebar s page current) side) (hbody : Marks body inner) :
    Marks (frame s page title current body) (⟨33, 33, 36⟩ + side + inner) := by
  have hmain : Marks (unlines ["</nav>", "<main class=\"content\">"]) ⟨2, 2, 2⟩ :=
    (marks_line (.fixed rfl rfl) (marks_line (.fixed rfl rfl) marks_no_lines)).of_eq rfl
  unfold frame
  refine (((((marks_front page title s.name).append hside).append hmain).append hbody).append
    (marks_back page)).of_eq ?_
  ext <;> simp <;> omega

section
variable {name : String} {ds : List Document} {s : Site} {d : Document}

/-- One file in the contents is the current document. -/
theorem markedIn_contents (hb : Site.build name ds = .ok s) (hd : d ∈ s.documents) :
    markedIn s (some d) s.contents.values = 1 := by
  have hn := Site.sources_nodup hb
  rw [markedIn, Site.contents_places hb, documentsAt_range]
  have hcount : s.documents.countP (fun e => (some d).any (·.source = e.source)) =
      (s.documents.map (·.source)).count d.source := by
    rw [List.count, List.countP_map]
    refine List.countP_congr fun e _ => ?_
    simp only [Option.any_some, Function.comp_apply, decide_eq_true_eq, beq_iff_eq]
    exact eq_comm
  rw [hcount]
  exact List.count_eq_one_of_mem hn (List.mem_map_of_mem hd)

/-- The markup of a page without prose follows from its shape. -/
theorem marks_document (hb : Site.build name ds = .ok s) (hd : d ∈ s.documents)
    (hcode : ∀ p ∈ d.passages, p.isProse = false) :
    ∃ n html, s.navigation? d.source = some n ∧ document plainHighlighter s d = .ok html ∧
      Marks html (shape s d n).tally := by
  obtain ⟨i, hi⟩ := List.mem_iff_getElem?.mp hd
  obtain ⟨n, hnav, -⟩ := Site.navigation?_of_getElem? (Site.sources_nodup hb) hi
  have hvalues := Site.valuesAll_children hb
  have hplaces : ∀ m ∈ Contents.valuesAll s.contents.children, m < s.documents.length := by
    intro m hm
    rwa [hvalues, Site.contents_places hb, List.mem_range] at hm
  have hside := marks_sidebar s d.page (some d) hplaces
  rw [hvalues, markedIn_contents hb hd] at hside
  have hbody := (((marks_breadcrumbs s d n).append (marks_header d n)).append
    (marks_sections s d (d.headings.map (·.anchor)) hcode)).append (marks_pager d.page n)
  unfold document
  rw [hnav]
  refine ⟨n, _, rfl, rfl, (marks_frame s d.page d.title (some d) hside hbody).of_eq ?_⟩
  ext <;> simp [Shape.tally, shape, entriesTally, List.map_map, Function.comp_def] <;> omega

end

/-- No text alters the markup of a page. Whatever two sites and two documents without prose are called
and hold, their pages have as many angle brackets and quotes as each other if they have one shape, and
no page has a single quote. -/
theorem markup_follows_shape {name name' : String} {ds ds' : List Document} {s s' : Site}
    {d d' : Document} (hb : Site.build name ds = .ok s) (hd : d ∈ s.documents)
    (hcode : ∀ p ∈ d.passages, p.isProse = false) (hb' : Site.build name' ds' = .ok s')
    (hd' : d' ∈ s'.documents) (hcode' : ∀ p ∈ d'.passages, p.isProse = false) :
    ∃ n n' html html', s.navigation? d.source = some n ∧ s'.navigation? d'.source = some n' ∧
      document plainHighlighter s d = .ok html ∧ document plainHighlighter s' d' = .ok html' ∧
      '\'' ∉ html.toList ∧ '\'' ∉ html'.toList ∧
      (shape s d n = shape s' d' n' →
        ∀ c ∈ ['<', '>', '"'], html.toList.count c = html'.toList.count c) := by
  obtain ⟨n, html, hnav, hok, hmarks⟩ := marks_document hb hd hcode
  obtain ⟨n', html', hnav', hok', hmarks'⟩ := marks_document hb' hd' hcode'
  refine ⟨n, n', html, html', hnav, hnav', hok, hok', List.count_eq_zero.mp hmarks.single,
    List.count_eq_zero.mp hmarks'.single, fun hshape c hc => ?_⟩
  rw [hshape] at hmarks
  simp only [List.mem_cons, List.not_mem_nil, or_false] at hc
  obtain rfl | rfl | rfl := hc
  · rw [hmarks.opening, hmarks'.opening]
  · rw [hmarks.closing, hmarks'.closing]
  · rw [hmarks.quotes, hmarks'.quotes]

/-- Two sites that have nothing in common but their shape. -/
theorem markup_follows_shape_of_names :
    let d := Document.read "a.c" "x" (.named "C") {}
    let d' := Document.read "<b'>.c" "\"y\"<script>" (.named "\"C\"") {}
    ∃ s s' html html', Site.build "notes" [d] = .ok s ∧ Site.build "</title>'" [d'] = .ok s' ∧
      document plainHighlighter s d = .ok html ∧ document plainHighlighter s' d' = .ok html' ∧
      ∀ c ∈ ['<', '>', '"'], html.toList.count c = html'.toList.count c := by
  intro d d'
  have hb : Site.build "notes" [d] = .ok (Site.arrange "notes" [d]) :=
    Site.build_eq_ok_iff.mpr ⟨by simp, by simp, rfl⟩
  have hb' : Site.build "</title>'" [d'] = .ok (Site.arrange "</title>'" [d']) :=
    Site.build_eq_ok_iff.mpr ⟨by simp, by simp, rfl⟩
  have hd : d ∈ (Site.arrange "notes" [d]).documents :=
    (Site.documents_perm hb).mem_iff.mpr (List.mem_singleton_self d)
  have hd' : d' ∈ (Site.arrange "</title>'" [d']).documents :=
    (Site.documents_perm hb').mem_iff.mpr (List.mem_singleton_self d')
  obtain ⟨n, n', html, html', hnav, hnav', hok, hok', -, -, hcount⟩ :=
    markup_follows_shape hb hd (by decide) hb' hd' (by decide)
  refine ⟨_, _, html, html', hb, hb', hok, hok', hcount ?_⟩
  have halone : ∀ (name : String) (e : Document), Path.segments e.source = [e.source] →
      Site.arrange name [e] = ⟨name, [e], .directory "" "" [.file e.source 0]⟩ := by
    intro name e he
    simp [Site.arrange_eq, Contents.ofFiles, he, Contents.insert, Contents.sort, Contents.sortAll,
      Contents.values, Contents.valuesAll, Contents.number, Contents.numberAll]
  have hway : ∀ (name : String) (e : Document), e.directory = "" →
      (⟨name, [e], .directory "" "" [.file e.source 0]⟩ : Site).navigation? e.source =
        some ⟨[], none, none, 1, 1⟩ := by
    intro name e he
    have hnames : Path.names "" = [] := by decide
    simp [Site.navigation?, Site.position?, he, hnames, Contents.directory?, Contents.isDirectory,
      Site.ownFiles, Contents.children, Site.breadcrumbsFrom]
  rw [halone _ d (by decide), hway _ d (by decide)] at hnav
  rw [halone _ d' (by decide), hway _ d' (by decide)] at hnav'
  cases hnav
  cases hnav'
  rw [halone _ d (by decide), halone _ d' (by decide)]
  have hlistings : d.passages.map (fun p => (p.size, p.folded)) = [(1, false)] := by decide
  have hlistings' : d'.passages.map (fun p => (p.size, p.folded)) = [(1, false)] := by decide
  simp [shape, hlistings, hlistings', Contents.children, Contents.directoriesAll,
    Contents.directories, Contents.values, Contents.valuesAll]

end Page

end Marginalia
