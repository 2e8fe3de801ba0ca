import Marginalia.Page.Output
import Marginalia.Proofs.Page.Links
import Marginalia.Proofs.Site.Places

/-! The navigation of a site has no dead links: whatever page they stand on, the links of the
sidebar, the pager and the way home lead to the pages they are meant for. -/
namespace Marginalia.Page
open Html Marginalia.Path
set_option autoImplicit false

/-! ## Links that lead to pages -/

/-- The link, read on the page, leads to the other page. -/
def Leads (page : String) (link : Link) (target : String) : Prop :=
  join? (directory page) link.href = some target

/-- The sidebar of the page lists the documents in order, its links lead to their pages, and the
current document alone is marked. -/
def SidebarLeads (s : Site) (page : String) (current : Option Document) : Prop :=
  List.Forall₂
    (fun link d => Leads page link d.page ∧
      link.cls = if current = some d then some "current" else none)
    (links (sidebar s page current).toList) s.documents

/-- The pager of the page has links to the neighbours there are. -/
def PagerLeads (page : String) (n : Site.Navigation) (previous next : Option Document) : Prop :=
  List.Forall₂ (fun link side => Leads page link side.2.page ∧ link.cls = some side.1)
    (links (pager page n).toList)
    ((previous.map fun d => ("prev", d)).toList ++ (next.map fun d => ("next", d)).toList)

theorem documentsAt_range (s : Site) :
    documentsAt s (List.range s.documents.length) = s.documents := by
  have hl : ∀ l : List Document, (List.range l.length).filterMap (l[·]?) = l := by
    intro l
    induction l with
    | nil => rfl
    | cons d l ih =>
      have hd : (d :: l)[0]? = some d := rfl
      rw [List.length_cons, List.range_succ_eq_map, List.filterMap_cons_some hd, List.filterMap_map]
      exact congrArg (d :: ·) ih
  exact hl s.documents

section
variable {name : String} {ds : List Document} {s : Site}

theorem reads_sidebar (hb : Site.build name ds = .ok s) (page : String)
    (current : Option Document) :
    Reads (sidebar s page current) (s.documents.map (sidebarLink page current)) := by
  have hopen : Reads "  <ul class=\"toc\">\n" [] := fun _ => rfl
  have hclose : Reads "  </ul>\n" [] := fun _ => rfl
  have hentries := reads_sidebarEntries s page current (by decide : '<' ∉ "  ".toList)
    s.contents.children
  rw [Site.valuesAll_children hb, Site.contents_places hb, documentsAt_range] at hentries
  have hread := (hopen.append hentries).append hclose
  rw [List.nil_append, List.append_nil] at hread
  exact hread

theorem sidebarLeads (hb : Site.build name ds = .ok s) (page : String)
    (hplain : ∀ d ∈ s.documents, Plain d.page) {current : Option Document}
    (hc : ∀ d, current = some d → d ∈ s.documents) : SidebarLeads s page current := by
  rw [SidebarLeads, (reads_sidebar hb page current).links_eq, List.forall₂_map_left_iff,
    List.forall₂_same]
  intro d hd
  refine ⟨join?_relativeUrl page (hplain d hd), ?_⟩
  have hmark : current.any (·.source = d.source) = true ↔ current = some d := by
    rw [Option.any_eq_true]
    constructor
    · rintro ⟨e, rfl, he⟩
      rw [List.inj_on_of_nodup_map (Site.sources_nodup hb) (hc e rfl) hd (of_decide_eq_true he)]
    · rintro rfl
      exact ⟨d, rfl, by simp⟩
  exact if_congr hmark rfl rfl

theorem pagerLeads {page : String} {n : Site.Navigation}
    (hprevious : ∀ d, n.previous = some d → Plain d.page)
    (hnext : ∀ d, n.next = some d → Plain d.page) : PagerLeads page n n.previous n.next := by
  rw [PagerLeads, (reads_pager page n).links_eq, neighbourLinks]
  apply List.rel_append
  · cases hd : n.previous with
    | none => exact .nil
    | some d => exact .cons ⟨join?_relativeUrl page (hprevious d hd), rfl⟩ .nil
  · cases hd : n.next with
    | none => exact .nil
    | some d => exact .cons ⟨join?_relativeUrl page (hnext d hd), rfl⟩ .nil

theorem rootOf_leads {page file : String} (hp : Plain page) (hf : Plain file)
    (hs : '/' ∉ file.toList) :
    join? (directory page) (rootOf page ++ file) = some file ∧
      rootOf page ++ file = relativeUrl page file := by
  rw [rootOf_append hp hs]
  exact ⟨join?_relativeUrl page hf, rfl⟩

theorem homeLink_leads {page : String} (hp : Plain page) : Leads page (homeLink page) indexPage :=
  (rootOf_leads hp (by decide) (by decide)).1

/-! ## Whole pages -/

theorem document_eq (h : Highlighter) (s : Site) {d : Document} {n : Site.Navigation}
    (hn : s.navigation? d.source = some n) :
    ∃ middle, document h s d = .ok
      (frame s d.page d.title (some d) (breadcrumbs s d n ++ middle ++ pager d.page n)) := by
  unfold document
  rw [hn]
  exact ⟨_, congrArg (fun body => Except.ok (frame s d.page d.title (some d) (body ++ _)))
    String.append_assoc⟩

theorem document_links (hb : Site.build name ds = .ok s) (h : Highlighter) {d : Document}
    (hp : Plain d.page) {n : Site.Navigation} (hn : s.navigation? d.source = some n) :
    ∃ html rest, document h s d = .ok html ∧
      links html.toList = homeLink d.page :: links (sidebar s d.page (some d)).toList ++
        links (breadcrumbs s d n).toList ++ rest ∧
      (pager d.page n).toList <:+: html.toList := by
  have hsidebar := reads_sidebar hb d.page (some d)
  have hcrumbs := reads_breadcrumbs s hp n
  obtain ⟨middle, hhtml⟩ := document_eq h s hn
  obtain ⟨foot, hlinks⟩ := links_frame s d.page d.title (some d) hsidebar
    (breadcrumbs s d n ++ middle ++ pager d.page n)
  rw [String.append_assoc, String.append_assoc, hcrumbs.links_append, ← hcrumbs.links_eq,
    ← hsidebar.links_eq, ← List.append_assoc, ← String.append_assoc] at hlinks
  refine ⟨_, _, hhtml, hlinks, ?_⟩
  unfold frame
  simp only [String.toList_append]
  exact (List.suffix_append _ _).isInfix.trans ((List.suffix_append _ _).isInfix.trans
    (List.prefix_append _ _).isInfix)

theorem index_links (hb : Site.build name ds = .ok s) (h : Highlighter) :
    ∃ rest, links (index h s).toList =
      homeLink indexPage :: links (sidebar s indexPage s.index?).toList ++ rest := by
  have hsidebar := reads_sidebar hb indexPage s.index?
  rw [hsidebar.links_eq]
  obtain ⟨foot, hf⟩ := links_frame s indexPage ((s.index?.map (·.title)).getD s.name) s.index?
    hsidebar _
  exact ⟨_, hf⟩

/-! ## Sites of read files -/

theorem page_plain_of_read {d : Document}
    (hr : ∃ path text l m, d = Document.read path text l m)
    (hs : d.source ≠ "" ∧ ".." ∉ segments d.source) : Plain d.page := by
  obtain ⟨path, text, l, m, rfl⟩ := hr
  exact PageMap.page_plain m (plain_normalize hs.1 hs.2)

/-- The navigation of a site has no dead links. -/
theorem navigation_leads_to_pages (h : Highlighter)
    (hread : ∀ d ∈ ds, ∃ path text l m, d = Document.read path text l m)
    (hsource : ∀ d ∈ ds, d.source ≠ "" ∧ ".." ∉ segments d.source)
    (hb : Site.build name ds = .ok s) :
    s.documents.Perm ds ∧ s.contents.values = List.range s.documents.length ∧
    (∀ i d, s.documents[i]? = some d → ∃ n html home back rest,
      s.navigation? d.source = some n ∧ document h s d = .ok html ∧
      links html.toList = home :: links (sidebar s d.page (some d)).toList ++ back :: rest ∧
      Leads d.page home indexPage ∧ SidebarLeads s d.page (some d) ∧
      links (breadcrumbs s d n).toList = [back] ∧ Leads d.page back indexPage ∧
      (pager d.page n).toList <:+: html.toList ∧
      PagerLeads d.page n (if i = 0 then none else s.documents[i - 1]?) s.documents[i + 1]?) ∧
    (∃ home rest,
      links (index h s).toList = home :: links (sidebar s indexPage s.index?).toList ++ rest ∧
      Leads indexPage home indexPage ∧ SidebarLeads s indexPage s.index?) ∧
    ∀ page ∈ indexPage :: s.documents.map (·.page), ∀ file ∈ indexPage :: (assets s).map (·.path),
      join? (directory page) (rootOf page ++ file) = some file ∧
      rootOf page ++ file = relativeUrl page file := by
  have hperm := Site.documents_perm hb
  have hplain : ∀ d ∈ s.documents, Plain d.page := by
    intro d hd
    have hm := hperm.mem_iff.mp hd
    exact page_plain_of_read (hread d hm) (hsource d hm)
  refine ⟨hperm, Site.contents_places hb, ?_, ?_, ?_⟩
  · intro i d hd
    have hm := List.mem_of_getElem? hd
    have hp := hplain d hm
    obtain ⟨n, hn, hprevious, hnext⟩ := Site.navigation?_of_getElem? (Site.sources_nodup hb) hd
    obtain ⟨html, rest, hhtml, hlinks, hpager⟩ := document_links hb h hp hn
    have hback := (reads_breadcrumbs s hp n).links_eq
    rw [hback, List.append_assoc] at hlinks
    refine ⟨n, html, _, _, rest, hn, hhtml, hlinks, homeLink_leads hp, ?_, hback,
      join?_relativeUrl d.page (by decide), hpager, ?_⟩
    · apply sidebarLeads hb d.page hplain
      rintro e ⟨⟩
      exact hm
    · rw [← hprevious, ← hnext]
      apply pagerLeads
      · intro e he
        rw [hprevious] at he
        split at he
        · exact absurd he (by simp)
        · exact hplain e (List.mem_of_getElem? he)
      · intro e he
        rw [hnext] at he
        exact hplain e (List.mem_of_getElem? he)
  · obtain ⟨rest, hlinks⟩ := index_links hb h
    refine ⟨_, rest, hlinks, homeLink_leads (by decide), ?_⟩
    exact sidebarLeads hb indexPage hplain fun d hd => List.mem_of_find?_eq_some hd
  · intro page hp file hf
    have hpage : Plain page := by
      rcases List.mem_cons.mp hp with rfl | hp
      · decide
      · obtain ⟨d, hd, rfl⟩ := List.mem_map.mp hp
        exact hplain d hd
    have hfile : ∀ f ∈ [indexPage, "folio.css", "search.js", "search-index.json"],
        Plain f ∧ '/' ∉ f.toList := by decide
    exact rootOf_leads hpage (hfile file hf).1 (hfile file hf).2

end

/-- A site with an index, a page at the root and one two directories down. -/
theorem navigation_leads_at_two_depths :
    ∃ s, Site.build "notes" [
        .read "README.md" "# Notes" (.named "Text") {},
        .read "b.md" "" (.named "Text") {},
        .read "src/a/./c&d.md" "" (.named "Text") ⟨["src/"], .replace, none⟩] = .ok s ∧
      s.documents.length = 3 ∧ SidebarLeads s indexPage s.index? ∧
      ∀ d ∈ s.documents, SidebarLeads s d.page (some d) := by
  obtain ⟨s, hb⟩ : ∃ s, Site.build "notes" [
      .read "README.md" "# Notes" (.named "Text") {},
      .read "b.md" "" (.named "Text") {},
      .read "src/a/./c&d.md" "" (.named "Text") ⟨["src/"], .replace, none⟩] = .ok s :=
    ⟨_, Site.build_eq_ok_iff.mpr ⟨by decide, by decide, rfl⟩⟩
  obtain ⟨hperm, -, hpages, ⟨-, -, -, -, hindex⟩, -⟩ :=
    navigation_leads_to_pages plainHighlighter (by
      simp only [List.forall_mem_cons]
      exact ⟨⟨_, _, _, _, rfl⟩, ⟨_, _, _, _, rfl⟩, ⟨_, _, _, _, rfl⟩, by simp⟩) (by decide) hb
  refine ⟨s, hb, hperm.length_eq, hindex, ?_⟩
  intro d hd
  obtain ⟨i, hi⟩ := List.mem_iff_getElem?.mp hd
  obtain ⟨-, -, -, -, -, -, -, -, -, hsidebar, -⟩ := hpages i d hi
  exact hsidebar

end Marginalia.Page
