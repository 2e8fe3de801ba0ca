import Marginalia.Proofs.Site.Sorting
import Marginalia.Proofs.Site.Unresolved

/-! A site and the site with one more file. The documents that were there keep their order, so links
that resolve stay as they are, and of those that lead nowhere only the ones to the new file
change. -/
namespace Marginalia
set_option autoImplicit false

/-- The path at which the link looks for its file. -/
def BrokenLink.leadsTo? (l : BrokenLink) : Option String :=
  (Outline.parseReference l.target 0).bind fun r => Path.join? (Path.directory l.path) r.path

namespace Site
open Marginalia.Path Outline

section
variable {name name' : String} {front back : List Document} {x : Document} {s t : Site}
  (hs : build name (front ++ back) = .ok s) (ht : build name' (front ++ x :: back) = .ok t)
include hs ht

/-! ## Documents -/

theorem mem_grown_iff {d : Document} : d ∈ t.documents ↔ d = x ∨ d ∈ s.documents := by
  rw [(documents_perm hs).mem_iff, (documents_perm ht).mem_iff, List.perm_middle.mem_iff,
    List.mem_cons]

/-- Without the new file the documents are those that were there, in the same order. -/
theorem documents_of_grown :
    (t.documents.filter fun d => d.source ∈ (front ++ back).map (·.source)) = s.documents := by
  have hnew : x.source ∉ (front ++ back).map (·.source) := by
    have hn := (build_eq_ok_iff.mp ht).1
    rw [(List.perm_middle.map _).nodup_iff, List.map_cons, List.nodup_cons] at hn
    exact hn.1
  have hold : ((x :: (front ++ back)).filter fun d => d.source ∈ (front ++ back).map (·.source)) =
      front ++ back := by
    rw [List.filter_cons_of_neg (by simpa using hnew), List.filter_eq_self]
    intro d hd
    exact decide_eq_true (List.mem_map_of_mem hd)
  have hperm : (t.documents.filter fun d => d.source ∈ (front ++ back).map (·.source)).Perm
      s.documents := by
    have hfilter := ((documents_perm ht).trans List.perm_middle).filter
      fun d => decide (d.source ∈ (front ++ back).map (·.source))
    rw [hold] at hfilter
    exact hfilter.trans (documents_perm hs).symm
  obtain ⟨hsources, -, rfl⟩ := build_eq_ok_iff.mp hs
  obtain ⟨hsources', -, rfl⟩ := build_eq_ok_iff.mp ht
  -- both orders are that of the paths
  exact hperm.eq_of_pairwise (fun d e _ _ hde hed => absurd hed (lt_asymm hde))
    ((arrange_increasing name' hsources').filter _) (arrange_increasing name hsources)

/-! ## Links -/

theorem document?_grown {source : String} {d : Document} (h : s.document? source = some d) :
    t.document? source = some d := by
  rw [document?_eq_some_iff (sources_nodup hs)] at h
  rw [document?_eq_some_iff (sources_nodup ht)]
  exact ⟨(mem_grown_iff hs ht).mpr (.inr h.1), h.2⟩

theorem resolve?_grown {source destination : String} {target : Target}
    (h : s.resolve? source destination = some target) :
    t.resolve? source destination = some target := by
  simp only [resolve?, follow?, Option.bind_eq_bind, Option.bind_eq_some_iff] at h ⊢
  obtain ⟨r, hr, d, ⟨path, hpath, hd⟩, htarget⟩ := h
  exact ⟨r, hr, d, ⟨path, hpath, document?_grown hs ht hd⟩, htarget⟩

theorem follow?_grown_eq_none_iff {source path : String} :
    t.follow? source path = none ↔
      s.follow? source path = none ∧ join? (directory source) path ≠ some x.source := by
  simp only [follow?_eq_none_iff, mem_grown_iff hs ht, forall_eq_or_imp]
  exact and_comm

theorem brokenIn_grown {d : Document} (hd : RightlyRead d) :
    t.brokenIn d = (s.brokenIn d).filter fun l => l.leadsTo? ≠ some x.source := by
  rw [brokenIn, brokenIn, List.filter_map, List.filter_filter]
  congr 1
  refine List.filter_congr fun r hr => ?_
  have hleads : (⟨d.source, r.line, r.raw⟩ : BrokenLink).leadsTo? =
      join? (directory d.source) r.path := by
    rw [BrokenLink.leadsTo?, hd r hr, Option.bind_some]
  rw [Bool.eq_iff_iff, Option.isNone_iff_eq_none, follow?_grown_eq_none_iff hs ht]
  simp [hleads, and_comm]

end

/-- One more file only repairs links. What resolves goes on to resolve to the same, and the links of
the files that were there are reported as before, except those that look for the new file. -/
theorem links_of_grown {name name' : String} {front back : List Document} {x : Document}
    {s t : Site} (hread : ∀ d ∈ front ++ back, ∃ path text l m, d = Document.read path text l m)
    (hs : build name (front ++ back) = .ok s) (ht : build name' (front ++ x :: back) = .ok t) :
    (∀ source destination target, s.resolve? source destination = some target →
      t.resolve? source destination = some target) ∧
    (t.brokenLinks.filter fun l => l.path ∈ (front ++ back).map (·.source)) =
      (s.brokenLinks.filter fun l => l.leadsTo? ≠ some x.source) ∧
    ∀ d ∈ front ++ back, s.anchor? d.source = some (fileAnchor d.source) ∧
      t.anchor? d.source = some (fileAnchor d.source) := by
  refine ⟨fun _ _ _ => resolve?_grown hs ht, ?_, fun d hd => ?_⟩
  · rw [t.brokenLinks_filter_path (· ∈ (front ++ back).map (·.source)), documents_of_grown hs ht,
      brokenLinks, List.filter_flatMap]
    refine List.flatMap_congr fun d hd => ?_
    obtain ⟨path, text, l, m, rfl⟩ := hread d ((documents_perm hs).mem_iff.mp hd)
    exact brokenIn_grown hs ht (rightlyRead_read path text l m)
  · have hfound := document?_of_mem (sources_nodup hs) ((documents_perm hs).mem_iff.mpr hd)
    rw [anchor?, anchor?, hfound, document?_grown hs ht hfound]
    exact ⟨rfl, rfl⟩

/-- A file that another one links to is added in front of it. -/
theorem links_of_grown_repaired :
    let l := { Language.named "Markdown" with proseOnly := true }
    let a := Document.read "a.md" "[a](a.md)\n[c](c.md)" l {}
    ∃ s t, build "notes" [a] = .ok s ∧ build "notes" [.read "c.md" "" l {}, a] = .ok t ∧
      s.brokenLinks = [⟨"a.md", 2, "c.md"⟩] ∧
      (t.brokenLinks.filter fun link => link.path ∈ ["a.md"]) = [] ∧
      t.resolve? "a.md" "a.md" = some ⟨"a.md", "a.md.html", "a.md", none⟩ := by
  intro l a
  obtain ⟨d, hd, hsource, hpage, href⟩ := exists_read_two_links
  have ha : a = d := hd
  rw [ha]
  have hright : RightlyRead d := hd ▸ rightlyRead_read _ _ _ _
  have hb : build "notes" [d] = .ok (arrange "notes" [d]) :=
    build_eq_ok_iff.mpr ⟨by simp, by simp, rfl⟩
  have hb' : build "notes" [.read "c.md" "" l {}, d] =
      .ok (arrange "notes" [.read "c.md" "" l {}, d]) := by
    refine build_eq_ok_iff.mpr ⟨?_, ?_, rfl⟩
    · rw [List.map_cons, List.map_singleton, hsource]
      decide
    · rw [List.map_cons, List.map_singleton, hpage]
      decide
  have hdocuments : (arrange "notes" [d]).documents = [d] :=
    List.perm_singleton.mp (documents_perm hb)
  obtain ⟨hresolve, hbroken, -⟩ := @links_of_grown "notes" "notes" [] [d] (.read "c.md" "" l {}) _ _
    (List.forall_mem_singleton.mpr ⟨_, _, _, _, hd.symm⟩) hb hb'
  have hself : (arrange "notes" [d]).follow? "a.md" "a.md" = some d := by
    have hfound := document?_of_mem (sources_nodup hb) (hdocuments ▸ List.mem_singleton_self d)
    rw [hsource] at hfound
    exact hfound
  have hother : (arrange "notes" [d]).follow? "a.md" "c.md" = none := by
    rw [follow?_eq_none_iff, hdocuments, List.forall_mem_singleton, hsource]
    decide
  have hreported : (arrange "notes" [d]).brokenLinks = [⟨"a.md", 2, "c.md"⟩] := by
    rw [brokenLinks, hdocuments, List.flatMap_singleton, brokenIn, href, hsource]
    simp [hself, hother]
  have hleads : (⟨"a.md", 2, "c.md"⟩ : BrokenLink).leadsTo? = some "c.md" := by
    have hparse := hright ⟨"c.md", "c.md", none, 2⟩ (by simp [href])
    rw [BrokenLink.leadsTo?, hparse]
    decide
  refine ⟨_, _, hb, hb', hreported, ?_, hresolve _ _ _ ?_⟩
  · have hadded : (Document.read "c.md" "" l {}).source = "c.md" := by decide
    rw [List.nil_append, List.map_singleton, hsource, hreported, hadded] at hbroken
    rw [hbroken]
    simp [hleads]
  · have hparse := hright ⟨"a.md", "a.md", none, 1⟩ (by simp [href])
    rw [resolve?_eq_map _ _ hparse, hself, Option.map_some, hsource, hpage]
    decide

end Site

end Marginalia
