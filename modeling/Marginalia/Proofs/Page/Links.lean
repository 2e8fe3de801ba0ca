import Marginalia.Page.Basic
import Marginalia.Proofs.Document.PagePath
import Marginalia.Proofs.Html.Link
import Marginalia.Proofs.Path.Relative

/-! The links that a page writes around what its document says: the way to the root of the site, the
contents in the sidebar, the way back home, and the neighbours. -/
namespace Marginalia.Page
open Html Marginalia.Path
set_option autoImplicit false

/-! ## The root -/

theorem steps_append (n : Nat) (name : String) :
    String.join (List.replicate n "../") ++ name =
      ofSegments (List.replicate n ".." ++ [name]) := by
  induction n with
  | zero => simp [ofSegments_singleton]
  | succ n ih =>
    rw [List.replicate_succ, List.replicate_succ, String.join_cons, String.append_assoc, ih,
      List.cons_append, ofSegments_cons _ (by simp)]
    rfl

theorem escape_steps (n : Nat) :
    escape (String.join (List.replicate n "../")) = String.join (List.replicate n "../") := by
  induction n with
  | zero => rfl
  | succ n ih =>
    rw [List.replicate_succ, String.join_cons, escape_append, ih]
    rfl

/-- The way to the root and the name of a file there is the address of the file. -/
theorem rootOf_append {page name : String} (hp : Plain page) (hn : '/' ∉ name.toList) :
    rootOf page ++ name = relativeUrl page name := by
  have hcount : page.toList.count '/' = (segments page).dropLast.length := by
    rw [List.length_dropLast, segments, List.length_map, Text.length_split, Nat.add_sub_cancel]
  have htarget : segments name = [name] := segments_of_slash_not_mem hn
  rw [rootOf, steps_append, hcount, relativeUrl, hp.names_directory, htarget, fileName, htarget,
    List.dropLast_singleton, dropCommon_nil]
  show _ = ofSegments (_ ++ [] ++ [name])
  rw [List.append_nil, List.map_const']

theorem escape_rootOf_append (page : String) {name : String} (hn : escape name = name) :
    escape (rootOf page ++ name) = rootOf page ++ name := by
  rw [escape_append, hn, rootOf, escape_steps]

/-! ## Tags -/

/-- The tags that pages write as they are. -/
def plainTags : List String :=
  ["!DOCTYPE html", "html lang=\"en\"", "head", "meta charset=\"UTF-8\"",
    "meta name=\"viewport\" content=\"width=device-width, initial-scale=1.0\"", "title", "/title",
    "/head", "nav class=\"sidebar\"", "div class=\"sidebar-header\"", "h2", "/h2", "/div",
    "div class=\"finder\"", "/ol", "ul class=\"toc\"", "/ul", "li", "li class=\"toc-dir\"", "/li",
    "/a", "span", "/span", "/nav", "main class=\"content\"", "nav class=\"breadcrumbs\"", "header",
    "h1", "/h1", "p class=\"source-path\"", "code", "/code", "/header", "nav class=\"pager\"",
    "pre class=\"gutter\"", "/pre", "/main", "footer", "p", "/p", "/footer", "/script", "/body", "/html"]

/-- The texts with tags in them that pages write as they are. -/
def plainTexts : List String :=
  ["<!DOCTYPE html>", "<html lang=\"en\">", "<head>", "  <meta charset=\"UTF-8\">",
    "  <meta name=\"viewport\" content=\"width=device-width, initial-scale=1.0\">", "  <title>",
    "</title>", "</head>", "<nav class=\"sidebar\">", "  <div class=\"sidebar-header\">",
    "    <h2>", "</a></h2>", "  </div>", "  <div class=\"finder\">", "</ol>", "  <ul class=\"toc\">\n",
    "  </ul>\n", "<li>", "</a></li>", "  <li class=\"toc-dir\"><span>", "/</span>\n",
    "    <ul class=\"toc\">\n", "    </ul>\n", "  </li>\n", "</nav>", "<main class=\"content\">",
    "<nav class=\"breadcrumbs\">", "</a>", " / <span>", "</span>", "</nav>\n", "<header>", "  <h1>",
    "</h1>", "  <p class=\"source-path\"><code>", "</code> · ", "</p>", "</header>",
    "<nav class=\"pager\">", "<pre class=\"gutter\">", "</pre>\n", "</main>", "<footer>",
    "  <p>Generated by " ++ signature ++ "</p>", "</footer>", "</script>", "</body>", "</html>"]

/-- The tags that name the root of the site. -/
def rootTags (page : String) : List String :=
  ["link rel=\"stylesheet\" href=\"" ++ rootOf page ++ "folio.css\"",
    "body data-root=\"" ++ rootOf page ++ "\"",
    "script src=\"" ++ rootOf page ++ "search.js\""]

/-- The tags of the search box. -/
def finderTags : List String :=
  ["input id=\"search-input\" type=\"search\" placeholder=\"Search (press /)\" autocomplete=\"off\"",
    "ol id=\"search-results\" hidden"]

theorem plainTags_link : ∀ tag ∈ plainTags, link? tag.toList = none := by
  decide +kernel

theorem plainTexts_quiet : ∀ text ∈ plainTexts, isQuiet plainTags text = true := by
  decide +kernel

theorem rootTags_link (page : String) : ∀ tag ∈ rootTags page, link? tag.toList = none := by
  simp only [rootTags, List.forall_mem_cons, String.toList_append, List.append_assoc]
  exact ⟨rfl, rfl, rfl, by simp⟩

theorem finderTags_link : finderTags.filterMap (fun tag => link? tag.toList) = [] := by
  decide +kernel

section
variable {β : Type} {pick : List Char → Option β}

theorem holds_plain (hq : ∀ tag ∈ plainTags, pick tag.toList = none) {text : String}
    (ht : text ∈ plainTexts) : Holds pick text [] :=
  .quiet hq (plainTexts_quiet text ht)

/-! ## The sidebar -/

def sidebarLink (page : String) (current : Option Document) (d : Document) : Link :=
  ⟨relativeUrl page d.page,
    if current.any (·.source = d.source) then some "current" else none⟩

def sidebarAttributes (page : String) (current : Option Document) (d : Document) :
    List (String × String) :=
  [("href", escape (relativeUrl page d.page)), ("title", escape d.title)] ++
    if current.any (·.source = d.source) then [("class", "current")] else []

theorem sidebarFile_eq (page : String) (current : Option Document) (name : String)
    (d : Document) :
    sidebarFile page current name d =
      "<li>" ++ startTag (sidebarAttributes page current d) ++ escape name ++ "</a></li>" := by
  have hopen : "<li><a href=\"" = "<li>" ++ "<a" ++ " " ++ "href" ++ "=\"" := by decide
  have htitle : "\" title=\"" = "\"" ++ " " ++ "title" ++ "=\"" := by decide
  have hmark : " class=\"current\"" = " " ++ "class" ++ "=\"" ++ "current" ++ "\"" := by decide
  unfold sidebarFile sidebarAttributes
  by_cases hm : current.any (·.source = d.source) = true
  · simp only [hm, if_true, startTag, writtenAttribute, List.cons_append, List.nil_append,
      List.map_cons, List.map_nil, String.join_cons, String.join_nil, String.append_empty,
      hopen, htitle, hmark, String.append_assoc, -String.reduceAppend]
  · simp only [hm, Bool.false_eq_true, if_false, startTag, writtenAttribute, List.cons_append,
      List.nil_append, List.map_cons, List.map_nil, String.join_cons, String.join_nil,
      String.append_empty, hopen, htitle, String.append_assoc, -String.reduceAppend]

theorem linkOf_sidebarAttributes (page : String) (current : Option Document) (d : Document) :
    linkOf (sidebarAttributes page current d) = some (sidebarLink page current d) := by
  rw [sidebarAttributes, sidebarLink]
  split
  · show some (⟨unescape (escape _), _⟩ : Link) = _
    rw [unescape_escape]
    rfl
  · show some (⟨unescape (escape _), _⟩ : Link) = _
    rw [unescape_escape]
    rfl

theorem writable_sidebarAttributes (page : String) (current : Option Document) (d : Document) :
    ∀ a ∈ sidebarAttributes page current d, Writable a := by
  rw [sidebarAttributes, List.forall_mem_append, List.forall_mem_cons]
  refine ⟨⟨.escape (by decide) _, List.forall_mem_singleton.mpr (.escape (by decide) _)⟩, ?_⟩
  split
  · exact List.forall_mem_singleton.mpr ⟨by decide, by decide, by decide⟩
  · simp

theorem holds_sidebarFile (hq : ∀ tag ∈ plainTags, pick tag.toList = none) (page : String)
    (current : Option Document) (name : String) (d : Document) :
    Holds pick (sidebarFile page current name d)
      (pick (linkTag (sidebarAttributes page current d))).toList := by
  have hopen : Holds pick "<li>" [] := holds_plain hq (by simp [plainTexts])
  have hclose : Holds pick "</a></li>" [] := holds_plain hq (by simp [plainTexts])
  have htag : Holds pick (startTag (sidebarAttributes page current d)) _ :=
    .startTag (writable_sidebarAttributes page current d)
  have hread := ((hopen.append htag).append (.escape name)).append hclose
  rw [sidebarFile_eq]
  simpa only [List.nil_append, List.append_nil] using hread

def documentsAt (s : Site) (places : List Nat) : List Document :=
  places.filterMap (s.documents[·]?)

mutual

theorem holds_sidebarEntry (hq : ∀ tag ∈ plainTags, pick tag.toList = none) (s : Site)
    (page : String) (current : Option Document) {indent : String} (hi : '<' ∉ indent.toList)
    (c : Contents Nat) :
    Holds pick (sidebarEntry s page current indent c)
      ((documentsAt s c.values).filterMap fun d =>
        pick (linkTag (sidebarAttributes page current d))) := by
  have hindent : Holds pick indent [] := .of_no_tag hi
  cases c with
  | file name n =>
    rw [sidebarEntry, Contents.values, documentsAt]
    cases hd : s.documents[n]? with
    | none =>
      rw [List.filterMap_cons_none hd]
      exact fun _ => rfl
    | some d =>
      have hblank : Holds pick "  " [] := .of_no_tag (by decide)
      have hend : Holds pick "\n" [] := .of_no_tag (by decide)
      have hread := ((hindent.append hblank).append
        (holds_sidebarFile hq page current name d)).append hend
      rw [List.filterMap_cons_some hd, List.filterMap_nil, List.filterMap_cons, List.filterMap_nil]
      rw [List.nil_append, List.nil_append, List.append_nil] at hread
      cases hp : pick (linkTag (sidebarAttributes page current d)) with
      | none => rwa [hp] at hread
      | some found => rwa [hp] at hread
  | directory name path children =>
    have hdeeper : '<' ∉ (indent ++ "    ").toList := by
      rw [String.toList_append, List.mem_append, not_or]
      exact ⟨hi, by decide⟩
    rw [sidebarEntry, Contents.values]
    have hopen : Holds pick "  <li class=\"toc-dir\"><span>" [] :=
      holds_plain hq (by simp [plainTexts])
    have hname : Holds pick "/</span>\n" [] := holds_plain hq (by simp [plainTexts])
    have hlist : Holds pick "    <ul class=\"toc\">\n" [] := holds_plain hq (by simp [plainTexts])
    have hlistEnd : Holds pick "    </ul>\n" [] := holds_plain hq (by simp [plainTexts])
    have hclose : Holds pick "  </li>\n" [] := holds_plain hq (by simp [plainTexts])
    have hentries := holds_sidebarEntries hq s page current hdeeper children
    have hread := ((((((((hindent.append hopen).append (.escape name)).append hname).append
      hindent).append hlist).append hentries).append hindent).append hlistEnd).append
      (hindent.append hclose)
    simpa [String.append_assoc] using hread

theorem holds_sidebarEntries (hq : ∀ tag ∈ plainTags, pick tag.toList = none) (s : Site)
    (page : String) (current : Option Document) {indent : String} (hi : '<' ∉ indent.toList)
    (cs : List (Contents Nat)) :
    Holds pick (sidebarEntries s page current indent cs)
      ((documentsAt s (Contents.valuesAll cs)).filterMap fun d =>
        pick (linkTag (sidebarAttributes page current d))) := by
  cases cs with
  | nil => exact fun _ => rfl
  | cons c cs =>
    rw [sidebarEntries, Contents.valuesAll, documentsAt, List.filterMap_append,
      List.filterMap_append]
    exact (holds_sidebarEntry hq s page current hi c).append
      (holds_sidebarEntries hq s page current hi cs)

end

theorem reads_sidebarEntries (s : Site) (page : String) (current : Option Document)
    {indent : String} (hi : '<' ∉ indent.toList) (cs : List (Contents Nat)) :
    Reads (sidebarEntries s page current indent cs)
      ((documentsAt s (Contents.valuesAll cs)).map (sidebarLink page current)) := by
  have hread := holds_sidebarEntries plainTags_link s page current hi cs
  have hlink : (fun d => link? (linkTag (sidebarAttributes page current d))) =
      fun d => some (sidebarLink page current d) := by
    funext d
    rw [link?_linkTag (writable_sidebarAttributes page current d), linkOf_sidebarAttributes]
  rwa [hlink, List.filterMap_eq_map'] at hread

/-! ## The way home -/

theorem breadcrumbs_eq (s : Site) (d : Document) (n : Site.Navigation) :
    breadcrumbs s d n =
      "<nav class=\"breadcrumbs\">" ++ startTag [("href", relativeUrl d.page indexPage)] ++
        escape s.name ++ "</a>" ++
        String.join ((n.breadcrumbs.map (·.name) ++ [d.fileName]).map fun name =>
          " / <span>" ++ escape name ++ "</span>") ++ "</nav>\n" := by
  have hopen : "<nav class=\"breadcrumbs\"><a href=\"" =
      "<nav class=\"breadcrumbs\">" ++ "<a" ++ " " ++ "href" ++ "=\"" := by decide
  have hclose : "\">" = "\"" ++ ">" := by decide
  unfold breadcrumbs
  simp only [startTag, writtenAttribute, List.map_cons, List.map_nil, String.join_cons,
    String.join_nil, String.append_empty, hopen, hclose, String.append_assoc,
    -String.reduceAppend]

theorem holds_names (hq : ∀ tag ∈ plainTags, pick tag.toList = none) (names : List String) :
    Holds pick
      (String.join (names.map fun name => " / <span>" ++ escape name ++ "</span>")) [] := by
  apply Holds.join
  intro part hp
  obtain ⟨name, -, rfl⟩ := List.mem_map.mp hp
  have hspan : Holds pick " / <span>" [] := holds_plain hq (by simp [plainTexts])
  have hend : Holds pick "</span>" [] := holds_plain hq (by simp [plainTexts])
  exact (hspan.append (.escape name)).append hend

/-- An address made of steps up and the name of the index page can stand in a tag. -/
theorem writable_indexUrl (page : String) : Writable ("href", relativeUrl page indexPage) := by
  have hindex : indexPage.toList.all (fun c => c ≠ '"' && c ≠ '>') = true := by decide
  refine ⟨(by decide : IsAttributeName "href"), ?_, ?_⟩
  all_goals
    intro hm
    obtain h | h | h := mem_relativeUrl hm
    · exact absurd h (by decide)
    · exact absurd h (by decide)
    · exact absurd (List.all_eq_true.mp hindex _ h) (by decide)

theorem holds_breadcrumbs (hq : ∀ tag ∈ plainTags, pick tag.toList = none) (s : Site)
    (d : Document) (n : Site.Navigation) :
    Holds pick (breadcrumbs s d n)
      (pick (linkTag [("href", relativeUrl d.page indexPage)])).toList := by
  have hnav : Holds pick "<nav class=\"breadcrumbs\">" [] := holds_plain hq (by simp [plainTexts])
  have htag : Holds pick (startTag [("href", relativeUrl d.page indexPage)]) _ :=
    .startTag (List.forall_mem_singleton.mpr (writable_indexUrl d.page))
  have hend : Holds pick "</a>" [] := holds_plain hq (by simp [plainTexts])
  have hnavEnd : Holds pick "</nav>\n" [] := holds_plain hq (by simp [plainTexts])
  have hread := ((((hnav.append htag).append (.escape s.name)).append hend).append
    (holds_names hq (n.breadcrumbs.map (·.name) ++ [d.fileName]))).append hnavEnd
  rw [breadcrumbs_eq]
  simpa only [List.nil_append, List.append_nil] using hread

theorem linkOf_plain {url : String} (h : escape url = url) :
    linkOf [("href", url)] = some ⟨url, none⟩ := by
  have hback : unescape url = url := by
    rw [← h, unescape_escape, h]
  exact congrArg (fun href => some (⟨href, none⟩ : Link)) hback

theorem reads_breadcrumbs (s : Site) {d : Document} (hp : Plain d.page) (n : Site.Navigation) :
    Reads (breadcrumbs s d n) [⟨relativeUrl d.page indexPage, none⟩] := by
  have hescape : escape (relativeUrl d.page indexPage) = relativeUrl d.page indexPage := by
    rw [← rootOf_append hp (by decide)]
    exact escape_rootOf_append d.page (by decide)
  have hread := holds_breadcrumbs plainTags_link s d n
  rwa [link?_linkTag (List.forall_mem_singleton.mpr (writable_indexUrl d.page)),
    linkOf_plain hescape] at hread

/-! ## The neighbours -/

theorem unlines_cons (line : String) (lines : List String) :
    unlines (line :: lines) = line ++ "\n" ++ unlines lines := by
  rw [unlines, List.map_cons, String.join_cons, ← unlines]

theorem unlines_append (a b : List String) : unlines (a ++ b) = unlines a ++ unlines b := by
  rw [unlines, List.map_append, String.join_append, ← unlines, ← unlines]

theorem holds_line {line : String} {lines : List String} {found more : List β}
    (h : Holds pick line found) (hr : Holds pick (unlines lines) more) :
    Holds pick (unlines (line :: lines)) (found ++ more) := by
  have hend : Holds pick "\n" [] := .of_no_tag (by decide)
  have hline := (h.append hend).append hr
  rwa [List.append_nil, ← unlines_cons] at hline

theorem holds_skip {line : String} {lines : List String} {found : List β} (h : Holds pick line [])
    (hr : Holds pick (unlines lines) found) : Holds pick (unlines (line :: lines)) found :=
  holds_line h hr

theorem holds_no_lines : Holds pick (unlines []) [] :=
  fun _ => rfl

def pagerAttributes (side url : String) : List (String × String) :=
  [("class", escape side), ("href", escape url)]

theorem writable_pagerAttributes (side url : String) :
    ∀ a ∈ pagerAttributes side url, Writable a := by
  rw [pagerAttributes, List.forall_mem_cons]
  exact ⟨.escape (by decide) _, List.forall_mem_singleton.mpr (.escape (by decide) _)⟩

theorem holds_pagerLink (hq : ∀ tag ∈ plainTags, pick tag.toList = none) {side text : String}
    (hs : escape side = side) (ht : Holds pick text []) (url : String) :
    Holds pick ("  <a class=\"" ++ side ++ "\" href=\"" ++ escape url ++ "\">" ++ text ++ "</a>")
      (pick (linkTag (pagerAttributes side url))).toList := by
  have hopen : "  <a class=\"" = "  " ++ "<a" ++ " " ++ "class" ++ "=\"" := by decide
  have hhref : "\" href=\"" = "\"" ++ " " ++ "href" ++ "=\"" := by decide
  have hclose : "\">" = "\"" ++ ">" := by decide
  have heq : "  <a class=\"" ++ side ++ "\" href=\"" ++ escape url ++ "\">" ++ text ++ "</a>" =
      "  " ++ startTag (pagerAttributes side url) ++ text ++ "</a>" := by
    simp only [pagerAttributes, startTag, writtenAttribute, List.map_cons, List.map_nil,
      String.join_cons, String.join_nil, String.append_empty, hs, hopen, hhref, hclose,
      String.append_assoc, -String.reduceAppend]
  have htag : Holds pick (startTag (pagerAttributes side url)) _ :=
    .startTag (writable_pagerAttributes side url)
  have hblank : Holds pick "  " [] := .of_no_tag (by decide)
  have hend : Holds pick "</a>" [] := holds_plain hq (by simp [plainTexts])
  have hread := ((hblank.append htag).append ht).append hend
  rw [heq]
  simpa only [List.nil_append, List.append_nil] using hread

theorem holds_pager (hq : ∀ tag ∈ plainTags, pick tag.toList = none) (page : String)
    (n : Site.Navigation) :
    Holds pick (pager page n)
      ((n.previous.bind fun d =>
          pick (linkTag (pagerAttributes "prev" (relativeUrl page d.page)))).toList ++
        (n.next.bind fun d =>
          pick (linkTag (pagerAttributes "next" (relativeUrl page d.page)))).toList) := by
  have hone : ∀ (f : Document → String) (g : Document → Option β),
      (∀ d, Holds pick (f d) (g d).toList) →
      ∀ o : Option Document, Holds pick (unlines (o.map f).toList) (o.bind g).toList := by
    intro f g h o
    cases o with
    | none => exact fun _ => rfl
    | some d =>
      have hread := holds_line (h d) holds_no_lines
      rwa [List.append_nil] at hread
  have hleft : Holds pick "&larr; " [] := .of_no_tag (by decide)
  have hright : Holds pick " &rarr;" [] := .of_no_tag (by decide)
  have hprev : escape "prev" = "prev" := by decide
  have hnext : escape "next" = "next" := by decide
  have hnav : Holds pick "<nav class=\"pager\">" [] := holds_plain hq (by simp [plainTexts])
  have hnavEnd : Holds pick "</nav>" [] := holds_plain hq (by simp [plainTexts])
  unfold pager
  simp only [unlines_append]
  have hread := (((holds_line hnav holds_no_lines).append
    (hone _ _ (fun d => holds_pagerLink hq hprev (hleft.append (.escape d.title))
      (relativeUrl page d.page)) n.previous)).append
    (hone _ _ (fun d => holds_pagerLink hq hnext ((Holds.escape d.title).append hright)
      (relativeUrl page d.page)) n.next)).append (holds_line hnavEnd holds_no_lines)
  simpa only [List.nil_append, List.append_nil] using hread

def neighbourLinks (page : String) (previous next : Option Document) : List Link :=
  (previous.map fun d => ⟨relativeUrl page d.page, some "prev"⟩).toList ++
    (next.map fun d => ⟨relativeUrl page d.page, some "next"⟩).toList

theorem link?_pagerTag (side url : String) :
    link? (linkTag (pagerAttributes side url)) = some ⟨url, some side⟩ := by
  have hlink : linkOf (pagerAttributes side url) =
      some ⟨unescape (escape url), some (unescape (escape side))⟩ := rfl
  rw [link?_linkTag (writable_pagerAttributes side url), hlink, unescape_escape, unescape_escape]

theorem reads_pager (page : String) (n : Site.Navigation) :
    Reads (pager page n) (neighbourLinks page n.previous n.next) := by
  have hread := holds_pager plainTags_link page n
  simp only [link?_pagerTag] at hread
  rw [neighbourLinks, Option.map_eq_bind, Option.map_eq_bind]
  exact hread

/-! ## The frame -/

/-- The link to the index page above the sidebar. -/
def homeLink (page : String) : Link :=
  ⟨rootOf page ++ indexPage, none⟩

theorem writable_root (page : String) {key name : String} (hk : IsAttributeName key)
    (hn : name.toList.all (fun c => c ≠ '"' && c ≠ '>') = true) :
    Writable (key, rootOf page ++ name) := by
  refine ⟨hk, ?_, ?_⟩
  all_goals
    intro hm
    rw [String.toList_append, List.mem_append] at hm
    obtain hm | hm := hm
    · obtain h | h := mem_steps hm
      · exact absurd h (by decide)
      · exact absurd h (by decide)
    · exact absurd (List.all_eq_true.mp hn _ hm) (by decide)

theorem end_not_mem_rootTag (page : String) {front back : String} (hf : '>' ∉ front.toList)
    (hb : '>' ∉ back.toList) : '>' ∉ (front ++ rootOf page ++ back).toList := by
  rw [String.toList_append, String.toList_append, List.mem_append, List.mem_append, not_or, not_or]
  refine ⟨⟨hf, ?_⟩, hb⟩
  intro hm
  rcases mem_steps hm with h | h
  · exact absurd h (by decide)
  · exact absurd h (by decide)

theorem end_not_mem_rootTags (page : String) : ∀ tag ∈ rootTags page, '>' ∉ tag.toList := by
  simp only [rootTags, List.forall_mem_cons]
  exact ⟨end_not_mem_rootTag page (by decide) (by decide),
    end_not_mem_rootTag page (by decide) (by decide),
    end_not_mem_rootTag page (by decide) (by decide), by simp⟩

theorem holds_header (hq : ∀ tag ∈ plainTags, pick tag.toList = none) (page name : String) :
    Holds pick
      ("    <h2><a href=\"" ++ rootOf page ++ indexPage ++ "\">" ++ escape name ++ "</a></h2>")
      (pick (linkTag [("href", rootOf page ++ indexPage)])).toList := by
  have hopen : "    <h2><a href=\"" = "    <h2>" ++ "<a" ++ " " ++ "href" ++ "=\"" := by decide
  have hclose : "\">" = "\"" ++ ">" := by decide
  have heq : "    <h2><a href=\"" ++ rootOf page ++ indexPage ++ "\">" ++ escape name ++
      "</a></h2>" =
      "    <h2>" ++ startTag [("href", rootOf page ++ indexPage)] ++ escape name ++ "</a></h2>" := by
    simp only [startTag, writtenAttribute, List.map_cons, List.map_nil, String.join_cons,
      String.join_nil, String.append_empty, hopen, hclose, String.append_assoc,
      -String.reduceAppend]
  have hheading : Holds pick "    <h2>" [] := holds_plain hq (by simp [plainTexts])
  have htag : Holds pick (startTag [("href", rootOf page ++ indexPage)]) _ :=
    .startTag (List.forall_mem_singleton.mpr (writable_root page (by decide) (by decide)))
  have hend : Holds pick "</a></h2>" [] := holds_plain hq (by simp [plainTexts])
  have hread := ((hheading.append htag).append (.escape name)).append hend
  rw [heq]
  simpa only [List.nil_append, List.append_nil] using hread

/-- A line with one of the tags that name the root. -/
theorem holds_rootTag {page : String} (hr : ∀ tag ∈ rootTags page, pick tag.toList = none)
    {tag blank : String} (ht : tag ∈ rootTags page) (hblank : '<' ∉ blank.toList) :
    Holds pick (blank ++ ("<" ++ tag ++ ">")) [] := by
  have htag : Holds pick ("<" ++ tag ++ ">") _ := .tag (end_not_mem_rootTags page tag ht)
  rw [hr tag ht] at htag
  exact (Holds.of_no_tag hblank).append htag

theorem holds_finder (hq : ∀ tag ∈ plainTags, pick tag.toList = none) :
    Holds pick (unlines [
      "    <input id=\"search-input\" type=\"search\" placeholder=\"Search (press /)\"" ++
        " autocomplete=\"off\">",
      "    <ol id=\"search-results\" hidden></ol>",
      "  </div>"]) (finderTags.filterMap fun tag => pick tag.toList) := by
  have hinput : "    <input id=\"search-input\" type=\"search\" placeholder=\"Search (press /)\"" ++
      " autocomplete=\"off\">" = "    " ++ ("<" ++ finderTags[0] ++ ">") := by decide
  have hlist : "    <ol id=\"search-results\" hidden></ol>" =
      "    " ++ ("<" ++ finderTags[1] ++ ">") ++ "</ol>" := by decide
  have hblank : Holds pick "    " [] := .of_no_tag (by decide)
  have hend : Holds pick "</ol>" [] := holds_plain hq (by simp [plainTexts])
  have hfirst := hblank.append (Holds.tag (by decide : '>' ∉ finderTags[0].toList))
  have hsecond := (hblank.append (Holds.tag (by decide : '>' ∉ finderTags[1].toList))).append hend
  have hread := holds_line hfirst (holds_line hsecond
    (holds_skip (holds_plain hq (by simp [plainTexts] : "  </div>" ∈ plainTexts))
      holds_no_lines))
  rw [List.nil_append, List.nil_append, List.append_nil, List.append_nil, ← hinput,
    ← hlist] at hread
  have hfound : finderTags.filterMap (fun tag => pick tag.toList) =
      (pick finderTags[0].toList).toList ++ (pick finderTags[1].toList).toList := by
    show [finderTags[0], finderTags[1]].filterMap _ = _
    rw [List.filterMap_cons, List.filterMap_cons, List.filterMap_nil]
    cases pick finderTags[0].toList <;> cases pick finderTags[1].toList <;> rfl
  rwa [hfound]

theorem holds_front (hq : ∀ tag ∈ plainTags, pick tag.toList = none) {page : String}
    (hr : ∀ tag ∈ rootTags page, pick tag.toList = none) (title name : String) :
    Holds pick (unlines [
      "<!DOCTYPE html>",
      "<html lang=\"en\">",
      "<head>",
      "  <meta charset=\"UTF-8\">",
      "  <meta name=\"viewport\" content=\"width=device-width, initial-scale=1.0\">",
      "  <title>" ++ escape title ++ " - " ++ escape name ++ "</title>",
      "  <link rel=\"stylesheet\" href=\"" ++ rootOf page ++ "folio.css\">",
      "</head>",
      "<body data-root=\"" ++ rootOf page ++ "\">",
      "<nav class=\"sidebar\">",
      "  <div class=\"sidebar-header\">",
      "    <h2><a href=\"" ++ rootOf page ++ indexPage ++ "\">" ++ escape name ++ "</a></h2>",
      "  </div>",
      "  <div class=\"finder\">",
      "    <input id=\"search-input\" type=\"search\" placeholder=\"Search (press /)\"" ++
        " autocomplete=\"off\">",
      "    <ol id=\"search-results\" hidden></ol>",
      "  </div>"])
      ((pick (linkTag [("href", rootOf page ++ indexPage)])).toList ++
        finderTags.filterMap fun tag => pick tag.toList) := by
  have htitle : Holds pick ("  <title>" ++ escape title ++ " - " ++ escape name ++ "</title>") [] := by
    have hopen : Holds pick "  <title>" [] := holds_plain hq (by simp [plainTexts])
    have hdash : Holds pick " - " [] := .of_no_tag (by decide)
    have hclose : Holds pick "</title>" [] := holds_plain hq (by simp [plainTexts])
    exact (((hopen.append (.escape title)).append hdash).append (.escape name)).append hclose
  have hstyle : Holds pick
      ("  <link rel=\"stylesheet\" href=\"" ++ rootOf page ++ "folio.css\">") [] := by
    have hopen : "  <link rel=\"stylesheet\" href=\"" =
        "  " ++ "<" ++ "link rel=\"stylesheet\" href=\"" := by decide
    have hclose : "folio.css\">" = "folio.css\"" ++ ">" := by decide
    have htag := holds_rootTag hr (List.mem_cons_self ..) (by decide : '<' ∉ "  ".toList)
    rw [hopen, hclose]
    simpa only [String.append_assoc] using htag
  have hbody : Holds pick ("<body data-root=\"" ++ rootOf page ++ "\">") [] := by
    have hopen : "<body data-root=\"" = "" ++ "<" ++ "body data-root=\"" := by decide
    have hclose : "\">" = "\"" ++ ">" := by decide
    have htag := holds_rootTag hr (List.mem_cons_of_mem _ (List.mem_cons_self ..))
      (by decide : '<' ∉ "".toList)
    rw [hopen, hclose]
    simpa only [String.append_assoc] using htag
  iterate 5 refine holds_skip (holds_plain hq (by simp [plainTexts])) ?_
  refine holds_skip htitle (holds_skip hstyle ?_)
  refine holds_skip (holds_plain hq (by simp [plainTexts])) (holds_skip hbody ?_)
  iterate 2 refine holds_skip (holds_plain hq (by simp [plainTexts])) ?_
  refine holds_line (holds_header hq page name) ?_
  iterate 2 refine holds_skip (holds_plain hq (by simp [plainTexts])) ?_
  exact holds_finder hq

theorem holds_back (hq : ∀ tag ∈ plainTags, pick tag.toList = none) {page : String}
    (hr : ∀ tag ∈ rootTags page, pick tag.toList = none) :
    Holds pick (unlines [
      "</main>",
      "<footer>",
      "  <p>Generated by " ++ signature ++ "</p>",
      "</footer>",
      "<script src=\"" ++ rootOf page ++ "search.js\"></script>",
      "</body>",
      "</html>"]) [] := by
  have hscript : Holds pick ("<script src=\"" ++ rootOf page ++ "search.js\"></script>") [] := by
    have hopen : "<script src=\"" = "" ++ "<" ++ "script src=\"" := by decide
    have hclose : "search.js\"></script>" = "search.js\"" ++ ">" ++ "</script>" := by decide
    have htag := holds_rootTag hr
      (List.mem_cons_of_mem _ (List.mem_cons_of_mem _ (List.mem_cons_self ..)))
      (by decide : '<' ∉ "".toList)
    have hend : Holds pick "</script>" [] := holds_plain hq (by simp [plainTexts])
    have hread := htag.append hend
    rw [hopen, hclose]
    simpa only [String.append_assoc, List.append_nil] using hread
  iterate 4 refine holds_skip (holds_plain hq (by simp [plainTexts])) ?_
  refine holds_skip hscript ?_
  iterate 2 refine holds_skip (holds_plain hq (by simp [plainTexts])) ?_
  exact holds_no_lines

/-- What a page writes before and after its body. -/
theorem holds_frame (hq : ∀ tag ∈ plainTags, pick tag.toList = none) (s : Site) {page : String}
    (hr : ∀ tag ∈ rootTags page, pick tag.toList = none) (title : String)
    (current : Option Document) {shown : List β} (hs : Holds pick (sidebar s page current) shown) :
    ∃ front back, (∀ body, frame s page title current body = front ++ body ++ back) ∧
      Holds pick front ((pick (linkTag [("href", rootOf page ++ indexPage)])).toList ++
        (finderTags.filterMap fun tag => pick tag.toList) ++ shown) ∧
      Holds pick back [] := by
  have hmain : Holds pick (unlines ["</nav>", "<main class=\"content\">"]) [] :=
    holds_skip (holds_plain hq (by simp [plainTexts]))
      (holds_skip (holds_plain hq (by simp [plainTexts])) holds_no_lines)
  have hfront := ((holds_front hq hr title s.name).append hs).append hmain
  rw [List.append_nil] at hfront
  exact ⟨_, _, fun _ => rfl, hfront, holds_back hq hr⟩

/-- The links of a page begin with the way home and those of the sidebar. -/
theorem links_frame (s : Site) (page title : String) (current : Option Document)
    {shown : List Link} (hs : Reads (sidebar s page current) shown) (body : String) :
    ∃ foot : String, links (frame s page title current body).toList =
      homeLink page :: shown ++ links (body ++ foot).toList := by
  obtain ⟨front, back, hframe, hfront, -⟩ :=
    holds_frame plainTags_link s (rootTags_link page) title current hs
  have hhome : link? (linkTag [("href", rootOf page ++ indexPage)]) = some (homeLink page) := by
    rw [link?_linkTag (List.forall_mem_singleton.mpr (writable_root page (by decide) (by decide))),
      linkOf_plain (escape_rootOf_append page (by decide))]
    rfl
  rw [hhome, finderTags_link] at hfront
  -- prose may leave a tag open, so nothing is said of the lines after the body
  refine ⟨back, ?_⟩
  rw [hframe, String.append_assoc]
  exact hfront.picked_append (body ++ back)

end

end Marginalia.Page
