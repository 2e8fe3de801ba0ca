import Marginalia.Proofs.Outline.Slug
import Marginalia.Proofs.Page.Heading
import Marginalia.Proofs.Page.Links
import Marginalia.Proofs.Passage.Partition
import Mathlib.Data.List.Flatten

/-! The identifiers of a page come from three places that know nothing of each other: the frame has two
for its search box, headings have their anchors, and lines of code have their numbers. They differ from
each other unless the slug of a heading is one of the two of the search box. -/
namespace Marginalia.Page
open Html Outline Marginalia.Path
set_option autoImplicit false

theorem plainTags_id : ∀ tag ∈ plainTags, idOf tag.toList = none := by
  decide +kernel

/-! ## Lines of code -/

def lineId (n : Nat) : String :=
  "L" ++ Nat.repr n

theorem lineId_injective : Function.Injective lineId := by
  intro m n h
  exact eq_of_repr_eq ((String.append_right_inj "L").mp h)

theorem escape_lineId (lead : String) (hl : lead.toList.all (fun c => !isSpecial c) = true)
    (n : Nat) : escape (lead ++ lineId n) = lead ++ lineId n := by
  apply escape_eq_self
  intro c hc
  rw [lineId, String.toList_append, String.toList_append, List.mem_append, List.mem_append] at hc
  obtain hc | hc | hc := hc
  · simpa using List.all_eq_true.mp hl c hc
  · have hL : c = 'L' := by simpa using hc
    rw [hL]
    decide
  · have hdigit := isDigit_of_mem_repr hc
    rw [Bool.eq_false_iff]
    intro hspecial
    obtain rfl | rfl | rfl | rfl | rfl := isSpecial_cases hspecial
    all_goals exact absurd hdigit (by decide)

theorem no_tag_repr (n : Nat) : '<' ∉ (Nat.repr n).toList := by
  intro hm
  exact absurd (isDigit_of_mem_repr hm) (by decide)

def lineAttributes (n : Nat) : List (String × String) :=
  [("id", escape (lineId n)), ("href", escape ("#" ++ lineId n))]

theorem lineAnchor_eq (n : Nat) :
    lineAnchor n = startTag (lineAttributes n) ++ Nat.repr n ++ "</a>" := by
  have hopen : "<a id=\"" = "<a" ++ " " ++ "id" ++ "=\"" := by decide
  have hhref : "\" href=\"#" = "\"" ++ " " ++ "href" ++ "=\"" ++ "#" := by decide
  have hclose : "\">" = "\"" ++ ">" := by decide
  have hid : escape (lineId n) = lineId n := by
    simpa using escape_lineId "" (by decide) n
  have hname : "L" ++ Nat.repr n = lineId n := rfl
  unfold lineAnchor
  simp only [hname, lineAttributes, hid, escape_lineId "#" (by decide) n, startTag,
    writtenAttribute, List.map_cons, List.map_nil, String.join_cons, String.join_nil,
    String.append_empty, hopen, hhref, hclose, String.append_assoc, -String.reduceAppend]

theorem holds_lineAnchor (n : Nat) : Holds idOf (lineAnchor n) [lineId n] := by
  have hwritable : ∀ a ∈ lineAttributes n, Writable a := by
    rw [lineAttributes, List.forall_mem_cons]
    exact ⟨.escape (by decide) _, List.forall_mem_singleton.mpr (.escape (by decide) _)⟩
  have hid : idOf (linkTag (lineAttributes n)) = some (lineId n) := by
    rw [idOf_linkTag hwritable]
    exact congrArg some (unescape_escape (lineId n))
  have htag : Holds idOf (startTag (lineAttributes n)) _ := .startTag hwritable
  rw [hid] at htag
  have hend : Holds idOf "</a>" [] := holds_plain plainTags_id (by simp [plainTexts])
  rw [lineAnchor_eq]
  exact (htag.append (.of_no_tag (no_tag_repr n))).append hend

theorem holds_lines (ns : List Nat) :
    Holds idOf (unlines (ns.map lineAnchor)) (ns.map lineId) := by
  induction ns with
  | nil => exact holds_no_lines
  | cons n ns ih => exact holds_line (holds_lineAnchor n) ih

/-- The gutter of a passage has an identifier for each of its lines. -/
theorem holds_gutter (p : Passage) :
    Holds idOf (gutter p) ((List.range' p.start p.size).map lineId) := by
  have hopen : Holds idOf "<pre class=\"gutter\">" [] :=
    holds_plain plainTags_id (by simp [plainTexts])
  have hend : Holds idOf "</pre>\n" [] := holds_plain plainTags_id (by simp [plainTexts])
  have hlines : (List.range p.size).map (fun i => lineAnchor (p.start + i)) =
      (List.range' p.start p.size).map lineAnchor := by
    rw [List.range'_eq_map_range, List.map_map]
    rfl
  have hread := (hopen.append (holds_lines (List.range' p.start p.size))).append hend
  rw [List.nil_append, List.append_nil, ← hlines] at hread
  exact hread

theorem gutter_infix_codeSection (h : Highlighter) (language : String) (p : Passage) :
    (gutter p).toList <:+: (codeSection h language p).toList := by
  unfold codeSection
  have hlisting : (gutter p).toList <:+:
      ("<div class=\"listing\">\n" ++ gutter p ++ h p.text language ++ "\n</div>\n").toList := by
    simp only [String.toList_append]
    exact (List.infix_append _ _ _).trans (List.prefix_append _ _).isInfix
  have haround : ∀ front back shown : String, (gutter p).toList <:+: shown.toList →
      (gutter p).toList <:+: (front ++ shown ++ back).toList := by
    intro front back shown hshown
    rw [String.toList_append, String.toList_append]
    exact hshown.trans (List.infix_append _ _ _)
  apply haround
  split
  · exact haround _ _ _ hlisting
  · exact hlisting

/-! ## The frame -/

theorem finderTags_id : finderTags.filterMap (fun tag => idOf tag.toList) =
    ["search-input", "search-results"] := by
  decide +kernel

theorem rootTags_id (page : String) : ∀ tag ∈ rootTags page, idOf tag.toList = none := by
  have hstyle : ("link rel=\"stylesheet\" href=\"" ++ rootOf page ++ "folio.css\"").toList =
      "link".toList ++
        [("rel", "stylesheet"), ("href", rootOf page ++ "folio.css")].flatMap inTag := by
    simp [inTag]
  have hbody : ("body data-root=\"" ++ rootOf page ++ "\"").toList =
      "body".toList ++ [("data-root", rootOf page ++ "")].flatMap inTag := by
    simp [inTag]
  have hscript : ("script src=\"" ++ rootOf page ++ "search.js\"").toList =
      "script".toList ++ [("src", rootOf page ++ "search.js")].flatMap inTag := by
    simp [inTag]
  simp only [rootTags, List.forall_mem_cons]
  refine ⟨?_, ?_, ?_, by simp⟩
  · rw [hstyle, idOf, element_append (by decide)]
    · rfl
    · rw [List.forall_mem_cons]
      exact ⟨⟨by decide, by decide, by decide⟩,
        List.forall_mem_singleton.mpr (writable_root page (by decide) (by decide))⟩
  · rw [hbody, idOf, element_append (by decide)]
    · rfl
    · exact List.forall_mem_singleton.mpr (writable_root page (by decide) (by decide))
  · rw [hscript, idOf, element_append (by decide)]
    · rfl
    · exact List.forall_mem_singleton.mpr (writable_root page (by decide) (by decide))

theorem idOf_sidebarTag (page : String) (current : Option Document) (d : Document) :
    idOf (linkTag (sidebarAttributes page current d)) = none := by
  rw [idOf_linkTag (writable_sidebarAttributes page current d), sidebarAttributes]
  split
  · rfl
  · rfl

theorem holds_sidebar (s : Site) (page : String) (current : Option Document) :
    Holds idOf (sidebar s page current) [] := by
  have hopen : Holds idOf "  <ul class=\"toc\">\n" [] :=
    holds_plain plainTags_id (by simp [plainTexts])
  have hclose : Holds idOf "  </ul>\n" [] := holds_plain plainTags_id (by simp [plainTexts])
  have hentries := holds_sidebarEntries plainTags_id s page current (by decide : '<' ∉ "  ".toList)
    s.contents.children
  simp only [idOf_sidebarTag, List.filterMap_none] at hentries
  exact (hopen.append hentries).append hclose

theorem holds_documentHeader (d : Document) (n : Site.Navigation) :
    Holds idOf (unlines [
      "<header>",
      "  <h1>" ++ escape d.title ++ "</h1>",
      "  <p class=\"source-path\"><code>" ++ escape d.source ++ "</code> · " ++
        escape d.language.name ++ " · file " ++ Nat.repr n.position ++ " of " ++
        Nat.repr n.siblings ++ "</p>",
      "</header>"]) [] := by
  have htitle : Holds idOf ("  <h1>" ++ escape d.title ++ "</h1>") [] := by
    have hopen : Holds idOf "  <h1>" [] := holds_plain plainTags_id (by simp [plainTexts])
    have hclose : Holds idOf "</h1>" [] := holds_plain plainTags_id (by simp [plainTexts])
    exact (hopen.append (.escape d.title)).append hclose
  have hplace : Holds idOf ("  <p class=\"source-path\"><code>" ++ escape d.source ++ "</code> · " ++
      escape d.language.name ++ " · file " ++ Nat.repr n.position ++ " of " ++
      Nat.repr n.siblings ++ "</p>") [] := by
    have hopen : Holds idOf "  <p class=\"source-path\"><code>" [] :=
      holds_plain plainTags_id (by simp [plainTexts])
    have hcode : Holds idOf "</code> · " [] := holds_plain plainTags_id (by simp [plainTexts])
    have hfile : Holds idOf " · file " [] := .of_no_tag (by decide)
    have hof : Holds idOf " of " [] := .of_no_tag (by decide)
    have hclose : Holds idOf "</p>" [] := holds_plain plainTags_id (by simp [plainTexts])
    exact (((((((hopen.append (.escape d.source)).append hcode).append
      (.escape d.language.name)).append hfile).append (.of_no_tag (no_tag_repr n.position))).append
      hof).append (.of_no_tag (no_tag_repr n.siblings))).append hclose
  have hopen : Holds idOf "<header>" [] := holds_plain plainTags_id (by simp [plainTexts])
  have hclose : Holds idOf "</header>" [] := holds_plain plainTags_id (by simp [plainTexts])
  exact holds_skip hopen (holds_skip htitle (holds_skip hplace (holds_skip hclose holds_no_lines)))

/-- Around what a document says, its page has the identifiers of the search box only. -/
theorem document_around (h : Highlighter) {s : Site} (hn : (s.documents.map (·.source)).Nodup)
    {d : Document} (hd : d ∈ s.documents) :
    ∃ front back, document h s d = .ok (front ++ content h s d ++ back) ∧
      identifiers front.toList = ["search-input", "search-results"] ∧
      identifiers back.toList = [] := by
  obtain ⟨i, hi⟩ := List.mem_iff_getElem?.mp hd
  obtain ⟨n, hnav, -⟩ := Site.navigation?_of_getElem? hn hi
  obtain ⟨front, back, hframe, hfront, hback⟩ := holds_frame plainTags_id s (rootTags_id d.page)
    d.title (some d) (holds_sidebar s d.page (some d))
  have hhome : idOf (linkTag [("href", rootOf d.page ++ indexPage)]) = none :=
    idOf_linkTag (List.forall_mem_singleton.mpr (writable_root d.page (by decide) (by decide)))
  have hcrumb : idOf (linkTag [("href", relativeUrl d.page indexPage)]) = none :=
    idOf_linkTag (List.forall_mem_singleton.mpr (writable_indexUrl d.page))
  have hpagerTag : ∀ side url, idOf (linkTag (pagerAttributes side url)) = none :=
    fun side url => idOf_linkTag (writable_pagerAttributes side url)
  have hcrumbs := holds_breadcrumbs plainTags_id s d n
  have hpager := holds_pager plainTags_id d.page n
  rw [hhome, finderTags_id] at hfront
  rw [hcrumb] at hcrumbs
  simp only [hpagerTag, Option.bind_fun_none, Option.toList_none,
    List.append_nil] at hpager
  have hbefore := (hfront.append hcrumbs).append (holds_documentHeader d n)
  have hafter := hpager.append hback
  refine ⟨_, _, ?_, hbefore.picked_eq, hafter.picked_eq⟩
  unfold document
  rw [hnav]
  simp only [hframe, String.append_assoc]

/-! ## All identifiers -/

/-- The identifiers that a page gets from its frame, from headings and from lines of code, given what
stands before and after what the document says. -/
def renderedIds (s : Site) (d : Document) (front back : String) : List String :=
  identifiers front.toList ++ (headingTags s d).filterMap (fun e => e.bind (·.id)) ++
    (d.passages.filter (!·.isProse)).flatMap (fun p => identifiers (gutter p).toList) ++
    identifiers back.toList

def lineIds (d : Document) : List String :=
  ((d.passages.filter (!·.isProse)).flatMap fun p => List.range' p.start p.size).map lineId

theorem carries_gutter (h : Highlighter) (s : Site) (d : Document) (ids : List String)
    {ps : List Passage} {p : Passage} (hp : p ∈ ps.filter (!·.isProse)) {id : String}
    (hid : id ∈ identifiers (gutter p).toList) : Carries (sections h s d ids ps) id := by
  induction ps generalizing ids with
  | nil => exact absurd hp List.not_mem_nil
  | cons q ps ih =>
    unfold sections
    rw [List.filter_cons] at hp
    split
    next hprose =>
      rw [hprose] at hp
      refine (ih (proseBody s d.source ids q).2 hp).mono ?_
      simp only [String.toList_append]
      exact (List.suffix_append _ _).isInfix
    next hprose =>
      rw [Bool.eq_false_iff.mpr hprose] at hp
      obtain rfl | hp := List.mem_cons.mp hp
      · refine (carries_of_mem_identifiers hid).mono ?_
        rw [String.toList_append]
        exact (gutter_infix_codeSection h _ _).trans (List.prefix_append _ _).isInfix
      · refine (ih ids hp).mono ?_
        rw [String.toList_append]
        exact (List.suffix_append _ _).isInfix

theorem lineIds_nodup {d : Document} {l : Language} {text : String}
    (hp : d.passages = Passage.segment l text) : (lineIds d).Nodup := by
  apply List.Nodup.map lineId_injective
  have hsub : (d.passages.filter (!·.isProse)).Sublist d.passages := List.filter_sublist
  apply (hsub.flatMap fun p => List.range' p.start p.size).nodup
  rw [hp, Passage.segment_places]
  exact List.nodup_range'

theorem upper_mem_of_mem_lineIds {d : Document} {id : String} (h : id ∈ lineIds d) :
    'L' ∈ id.toList := by
  obtain ⟨n, -, rfl⟩ := List.mem_map.mp h
  rw [lineId, String.toList_append]
  exact List.mem_append_left _ (by decide)

section
variable {name : String} {ds : List Document} {s : Site} {d : Document}

theorem ids_nodup_iff {anchors lines texts : List String} (ha : anchors = Anchors.given {} texts)
    (hl : lines.Nodup) (hupper : ∀ id ∈ lines, 'L' ∈ id.toList) :
    (["search-input", "search-results"] ++ anchors ++ lines).Nodup ↔
      ∀ text ∈ texts, slug text ≠ "search-input" ∧ slug text ≠ "search-results" := by
  have hfinder : ["search-input", "search-results"].Nodup := by decide
  have hanchors : anchors.Nodup := ha ▸ Anchors.given_nodup {} texts
  have hinput : "search-input" ∈ anchors ↔ ∃ text ∈ texts, slug text = "search-input" := by
    rw [ha]
    exact mem_given_iff (by decide)
  have hresults : "search-results" ∈ anchors ↔ ∃ text ∈ texts, slug text = "search-results" := by
    rw [ha]
    exact mem_given_iff (by decide)
  -- lines have a capital letter, the others have none
  have hapart : ∀ id ∈ ["search-input", "search-results"] ++ anchors, id ∉ lines := by
    intro id hid hm
    have hcapital := hupper id hm
    obtain hid | hid := List.mem_append.mp hid
    · simp only [List.mem_cons, List.not_mem_nil, or_false] at hid
      obtain rfl | rfl := hid
      · exact absurd hcapital (by decide)
      · exact absurd hcapital (by decide)
    · rw [ha] at hid
      exact absurd (not_upper_of_mem_anchor hid hcapital) (by decide)
  constructor
  · intro hnodup text ht
    have hfront := (List.nodup_append.mp (List.nodup_append.mp hnodup).1).2.2
    refine ⟨fun hslug => ?_, fun hslug => ?_⟩
    · exact hfront _ (by decide) _ (hinput.mpr ⟨text, ht, hslug⟩) rfl
    · exact hfront _ (by decide) _ (hresults.mpr ⟨text, ht, hslug⟩) rfl
  · intro hslugs
    refine List.nodup_append.mpr ⟨List.nodup_append.mpr ⟨hfinder, hanchors, ?_⟩, hl, ?_⟩
    · rintro id hid _ hm rfl
      simp only [List.mem_cons, List.not_mem_nil, or_false] at hid
      obtain rfl | rfl := hid
      · obtain ⟨text, ht, hslug⟩ := hinput.mp hm
        exact (hslugs text ht).1 hslug
      · obtain ⟨text, ht, hslug⟩ := hresults.mp hm
        exact (hslugs text ht).2 hslug
    · rintro id hid _ hm rfl
      exact hapart id hid hm

/-- The identifiers of a page are those of the search box, the anchors of its headings and the numbers
of its lines of code. They differ from each other if and only if no heading has the slug of a part of
the search box. -/
theorem page_identifiers_nodup_iff (hb : Site.build name ds = .ok s) (hd : d ∈ s.documents)
    (hread : ∃ path text l m, d = Document.read path text l m) (h : Highlighter) :
    ∃ front back, document h s d = .ok (front ++ content h s d ++ back) ∧
      renderedIds s d front back =
        ["search-input", "search-results"] ++ d.headings.map (·.anchor) ++ lineIds d ∧
      (∀ id ∈ renderedIds s d front back, Carries (front ++ content h s d ++ back) id) ∧
      ((renderedIds s d front back).Nodup ↔ ∀ g ∈ d.headings,
        slug g.text ≠ "search-input" ∧ slug g.text ≠ "search-results") := by
  obtain ⟨path, text, l, m, hdoc⟩ := hread
  have hr : d.headings = (ofPassages d.passages).headings := by rw [hdoc]; rfl
  have hpassages : d.passages = Passage.segment l text := by rw [hdoc]; rfl
  obtain ⟨front, back, hok, hfront, hback⟩ := document_around h (Site.sources_nodup hb) hd
  have htags : (headingTags s d).filterMap (fun e => e.bind (·.id)) = d.headings.map (·.anchor) := by
    rw [headingTags_eq s hr, List.filterMap_map]
    exact congrFun List.filterMap_eq_map' d.headings
  have hlines : (d.passages.filter (!·.isProse)).flatMap
      (fun p => identifiers (gutter p).toList) = lineIds d := by
    rw [lineIds, List.map_flatMap]
    congr 1
    funext p
    exact (holds_gutter p).picked_eq
  have hids : renderedIds s d front back =
      ["search-input", "search-results"] ++ d.headings.map (·.anchor) ++ lineIds d := by
    rw [renderedIds, hfront, hback, htags, hlines, List.append_nil]
  have hanchors : d.headings.map (·.anchor) = Anchors.given {} (d.headings.map (·.text)) := by
    rw [hr]
    exact ofPassages_anchors d.passages
  refine ⟨front, back, hok, hids, ?_, ?_⟩
  · have hwhole : (content h s d).toList <:+: (front ++ content h s d ++ back).toList := by
      rw [String.toList_append, String.toList_append]
      exact List.infix_append _ _ _
    intro id hid
    rw [renderedIds, hback, List.append_nil, htags, List.mem_append, List.mem_append] at hid
    obtain (hid | hid) | hid := hid
    · refine (carries_of_mem_identifiers hid).mono ?_
      rw [String.append_assoc, String.toList_append]
      exact (List.prefix_append _ _).isInfix
    · obtain ⟨g, hg, rfl⟩ := List.mem_map.mp hid
      exact (carries_content h s hr hg).mono hwhole
    · obtain ⟨p, hp, hid⟩ := List.mem_flatMap.mp hid
      exact (carries_gutter h s d _ hp hid).mono hwhole
  · rw [hids, ids_nodup_iff hanchors (lineIds_nodup hpassages) fun id => upper_mem_of_mem_lineIds,
      List.forall_mem_map]

end

/-- A heading called like the search box shares its identifier. -/
theorem search_heading_shares_identifier :
    let d := Document.read "a.md" "# Search Input"
      { Language.named "Markdown" with proseOnly := true } {}
    ∃ s front back, Site.build "notes" [d] = .ok s ∧ d ∈ s.documents ∧
      document plainHighlighter s d = .ok (front ++ content plainHighlighter s d ++ back) ∧
      renderedIds s d front back = ["search-input", "search-results", "search-input"] ∧
      ¬ (renderedIds s d front back).Nodup := by
  intro d
  have hb : Site.build "notes" [d] = .ok (Site.arrange "notes" [d]) :=
    Site.build_eq_ok_iff.mpr ⟨by simp, by simp, rfl⟩
  have hd : d ∈ (Site.arrange "notes" [d]).documents :=
    (Site.documents_perm hb).mem_iff.mpr (List.mem_singleton_self d)
  have hheadings : d.headings = [⟨1, "Search Input", "search-input", 1⟩] := by decide +kernel
  have hlines : lineIds d = [] := by decide +kernel
  obtain ⟨front, back, hok, hids, -, hnodup⟩ :=
    page_identifiers_nodup_iff hb hd ⟨_, _, _, _, rfl⟩ plainHighlighter
  rw [hheadings, hlines] at hids
  rw [hheadings] at hnodup
  refine ⟨_, front, back, hb, hd, hok, hids, fun h => ?_⟩
  exact (hnodup.mp h _ (List.mem_singleton_self _)).1 (by decide +kernel)

end Marginalia.Page
