import Marginalia.Page.Output
import Marginalia.Proofs.Site.Places
import Mathlib.Data.List.Infix
import Mathlib.Data.List.Nodup
import Mathlib.Tactic.Choose

/-! The files of a site: every document of a site has a page, every page is written, and what a
document says stands in the file that its page is written to. -/
namespace Marginalia.Page
open Html
set_option autoImplicit false

theorem mapM_eq_map {α β ε : Type} {f : α → Except ε β} {g : α → β} {l : List α}
    (h : ∀ a ∈ l, f a = .ok (g a)) : l.mapM f = .ok (l.map g) := by
  induction l with
  | nil => rfl
  | cons a l ih =>
    rw [List.mapM_cons, h a (List.mem_cons_self ..), ih fun b hb => h b (List.mem_cons_of_mem a hb)]
    rfl

/-! ## Bodies of pages -/

theorem body_infix_frame (s : Site) (page title : String) (current : Option Document)
    (body : String) : body.toList <:+: (frame s page title current body).toList := by
  unfold frame
  simp only [String.toList_append]
  exact List.infix_append _ _ _

theorem document_holds_content (h : Highlighter) {s : Site}
    (hn : (s.documents.map (·.source)).Nodup) {d : Document} (hd : d ∈ s.documents) :
    ∃ html, document h s d = .ok html ∧ (content h s d).toList <:+: html.toList := by
  obtain ⟨i, hi⟩ := List.mem_iff_getElem?.mp hd
  obtain ⟨n, hnav, -⟩ := Site.navigation?_of_getElem? hn hi
  unfold document
  rw [hnav]
  refine ⟨_, rfl, List.IsInfix.trans ?_ (body_infix_frame ..)⟩
  simp only [String.toList_append]
  exact List.infix_append _ _ _

theorem index_holds_content (h : Highlighter) {s : Site} {d : Document} (hi : s.index? = some d) :
    (content h s d).toList <:+: (index h s).toList := by
  unfold index
  rw [hi]
  refine List.IsInfix.trans ?_ (body_infix_frame ..)
  simp only [Option.map_some, Option.getD_some, String.toList_append]
  exact List.infix_append _ _ _

/-! ## Files -/

section
variable {name : String} {ds : List Document} {s : Site}

theorem index?_of_mem (hb : Site.build name ds = .ok s) {d : Document} (hd : d ∈ s.documents)
    (hp : d.page = indexPage) : s.index? = some d := by
  obtain ⟨e, he⟩ : ∃ e, s.index? = some e :=
    Option.isSome_iff_exists.mp (List.find?_isSome.mpr ⟨d, hd, by simpa using hp⟩)
  have hpage : e.page = indexPage := by simpa using List.find?_some he
  have hsame : e = d := List.inj_on_of_nodup_map (Site.pages_nodup hb)
    (List.mem_of_find?_eq_some he) hd (hpage.trans hp.symm)
  rw [he, hsame]

/-- The files of a site, given the text of the page of each document. -/
def filesWith (h : Highlighter) (s : Site) (html : Document → String) : List OutputFile :=
  (ownPages s).map (fun d => ⟨d.page, html d⟩) ++ [⟨indexPage, index h s⟩] ++
    (assets s).map fun a => ⟨a.path, a.contents⟩

theorem mem_filesWith_own (h : Highlighter) {html : Document → String} {d : Document}
    (hd : d ∈ s.documents) (hp : d.page ≠ indexPage) : ⟨d.page, html d⟩ ∈ filesWith h s html := by
  have hown : d ∈ ownPages s := List.mem_filter.mpr ⟨hd, by simpa using hp⟩
  exact List.mem_append_left _ (List.mem_append_left _ (List.mem_map_of_mem hown))

theorem mem_filesWith_index (h : Highlighter) (s : Site) (html : Document → String) :
    ⟨indexPage, index h s⟩ ∈ filesWith h s html :=
  List.mem_append_left _ (List.mem_append_right _ (List.mem_singleton.mpr rfl))

theorem outputFiles_eq (hb : Site.build name ds = .ok s) (h : Highlighter) :
    ∃ html : Document → String, (∀ d ∈ s.documents, document h s d = .ok (html d)) ∧
      outputFiles h s = .ok (filesWith h s html) := by
  have hdoc : ∀ d ∈ s.documents, ∃ html, document h s d = .ok html := by
    intro d hd
    obtain ⟨html, hhtml, -⟩ := document_holds_content h (Site.sources_nodup hb) hd
    exact ⟨html, hhtml⟩
  choose! html hhtml using hdoc
  refine ⟨html, hhtml, ?_⟩
  have hpages : (ownPages s).mapM (pageFile h s) =
      .ok ((ownPages s).map fun d => ⟨d.page, html d⟩) := by
    refine mapM_eq_map fun d hd => ?_
    rw [pageFile, hhtml d (List.mem_of_mem_filter hd)]
    rfl
  rw [outputFiles, hpages]
  rfl

/-- What a document says stands in the file that its page is written to. -/
theorem content_written (hb : Site.build name ds = .ok s) (h : Highlighter) {d : Document}
    (hd : d ∈ s.documents) :
    ∃ files, outputFiles h s = .ok files ∧
      ∃ f ∈ files, f.path = d.page ∧ (content h s d).toList <:+: f.text.toList := by
  obtain ⟨html, hhtml, hok⟩ := outputFiles_eq hb h
  refine ⟨_, hok, ?_⟩
  by_cases hp : d.page = indexPage
  · refine ⟨⟨indexPage, index h s⟩, mem_filesWith_index h s html, hp.symm, ?_⟩
    exact index_holds_content h (index?_of_mem hb hd hp)
  · obtain ⟨text, htext, hinside⟩ := document_holds_content h (Site.sources_nodup hb) hd
    rw [hhtml d hd] at htext
    cases htext
    exact ⟨⟨d.page, html d⟩, mem_filesWith_own h hd hp, rfl, hinside⟩

end

end Marginalia.Page
