import Marginalia.Proofs.Document.PagePath
import Marginalia.Proofs.Page.Output
import Mathlib.Data.List.Dedup

/-! The files of a site stand apart: no two have the same path. Pages are told from the files beside
them by their extension, and there is one page for each document and one to open the site with, which
may be the same. -/
namespace Marginalia.Page
set_option autoImplicit false

/-- Does the path end like that of a page? -/
def isPagePath (path : String) : Bool :=
  ".html".toList.isSuffixOf path.toList

theorem isPagePath_append (base : String) : isPagePath (base ++ ".html") = true := by
  rw [isPagePath, List.isSuffixOf_iff_suffix, String.toList_append]
  exact List.suffix_append ..

theorem isPagePath_page (m : PageMap) (source : String) : isPagePath (m.page source) = true := by
  rw [PageMap.page]
  split
  · decide
  · split
    · exact isPagePath_append _
    · exact isPagePath_append _

theorem asset_paths (s : Site) :
    (assets s).map (·.path) = ["folio.css", "search.js", "search-index.json"] := rfl

theorem asset_not_page {s : Site} {path : String} (h : path ∈ (assets s).map (·.path)) :
    isPagePath path = false := by
  rw [asset_paths] at h
  simp only [List.mem_cons, List.not_mem_nil, or_false] at h
  rcases h with rfl | rfl | rfl <;> decide

/-! ## All files -/

section
variable {name : String} {ds : List Document} {s : Site}

theorem filesWith_paths (h : Highlighter) (s : Site) (html : Document → String) :
    (filesWith h s html).map (·.path) =
      (ownPages s).map (·.page) ++ [indexPage] ++ (assets s).map (·.path) := by
  simp only [filesWith, List.map_append, List.map_map, List.map_cons, List.map_nil]
  rfl

section
variable (hpage : ∀ d ∈ s.documents, isPagePath d.page = true)
include hpage

theorem isPagePath_of_own {path : String} (h : path ∈ (ownPages s).map (·.page) ++ [indexPage]) :
    isPagePath path = true := by
  rw [List.mem_append, List.mem_singleton] at h
  rcases h with h | rfl
  · obtain ⟨d, hd, rfl⟩ := List.mem_map.mp h
    exact hpage d (List.mem_of_mem_filter hd)
  · decide

theorem filesWith_nodup (hb : Site.build name ds = .ok s) (h : Highlighter)
    (html : Document → String) : ((filesWith h s html).map (·.path)).Nodup := by
  have hown : ((ownPages s).map (·.page)).Nodup :=
    (Site.pages_nodup hb).sublist (List.filter_sublist.map _)
  have hindex : indexPage ∉ (ownPages s).map (·.page) := by
    intro hm
    obtain ⟨d, hd, he⟩ := List.mem_map.mp hm
    have hne := (List.mem_filter.mp hd).2
    simp [he] at hne
  rw [filesWith_paths, List.nodup_append']
  refine ⟨?_, by rw [asset_paths]; decide, ?_⟩
  · rw [List.nodup_append']
    exact ⟨hown, List.nodup_singleton _, List.disjoint_singleton.mpr hindex⟩
  · intro path hin hout
    have hyes := isPagePath_of_own hpage hin
    rw [asset_not_page hout] at hyes
    cases hyes

theorem filesWith_pages (h : Highlighter) (html : Document → String) :
    ((filesWith h s html).map (·.path)).filter isPagePath =
      (ownPages s).map (·.page) ++ [indexPage] := by
  rw [filesWith_paths, List.filter_append,
    List.filter_eq_self.mpr fun path hm => isPagePath_of_own hpage hm,
    List.filter_eq_nil_iff.mpr fun path hm => by simp [asset_not_page hm], List.append_nil]

/-- The pages among the files are as many as are counted. -/
theorem filesWith_pages_length (h : Highlighter) (html : Document → String) :
    (((filesWith h s html).map (·.path)).filter isPagePath).length = pageCount s := by
  rw [filesWith_pages hpage]
  simp [pageCount]

end

theorem ownPages_add_index (s : Site) :
    (ownPages s).length + (s.documents.map (·.page)).count indexPage = s.size := by
  rw [ownPages, Site.size]
  induction s.documents with
  | nil => rfl
  | cons d ds ih =>
    by_cases hp : d.page = indexPage
    · rw [List.filter_cons_of_neg (by simp [hp]), List.map_cons, hp, List.count_cons_self,
        List.length_cons, ← ih]
      omega
    · rw [List.filter_cons_of_pos (by simp [hp]), List.map_cons, List.count_cons_of_ne hp,
        List.length_cons, List.length_cons, ← ih]
      omega

/-- A document on the index page has no page besides. -/
theorem pageCount_of_index (hb : Site.build name ds = .ok s)
    (h : indexPage ∈ s.documents.map (·.page)) : pageCount s = s.size := by
  rw [pageCount, ← ownPages_add_index, List.count_eq_one_of_mem (Site.pages_nodup hb) h]

theorem pageCount_of_no_index (h : indexPage ∉ s.documents.map (·.page)) :
    pageCount s = s.size + 1 := by
  rw [pageCount, ← ownPages_add_index, List.count_eq_zero_of_not_mem h]

end

end Marginalia.Page
