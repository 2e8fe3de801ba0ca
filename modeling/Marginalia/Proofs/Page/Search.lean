import Marginalia.Proofs.Outline.Heading
import Marginalia.Proofs.Outline.Slug
import Marginalia.Proofs.Page.Files
import Marginalia.Proofs.Page.Navigation

/-! The search index of a site. It lists every document with its headings in the order of the contents,
and no two entries lead to the same address: what follows the last number sign of a link tells anchors
of one page apart, and is never the end of another page. -/
namespace Marginalia.Page
open Outline
set_option autoImplicit false

/-! ## Addresses -/

/-- The address of an anchor on a page. -/
def anchorLink (page anchor : String) : String :=
  page ++ "#" ++ anchor

theorem toList_anchorLink (page anchor : String) :
    (anchorLink page anchor).toList = page.toList ++ '#' :: anchor.toList := by
  simp [anchorLink]

theorem anchorLink_inj {page page' anchor anchor' : String} (h : '#' ∉ anchor.toList)
    (h' : '#' ∉ anchor'.toList) (heq : anchorLink page anchor = anchorLink page' anchor') :
    page = page' ∧ anchor = anchor' := by
  have hcut : ∀ {p a : String}, '#' ∉ a.toList →
      Text.cutAt '#' (anchorLink p a).toList.reverse = some (a.toList.reverse, p.toList.reverse) := by
    intro p a ha
    rw [Text.cutAt_eq_some_iff, toList_anchorLink]
    exact ⟨by simp, by rwa [List.mem_reverse]⟩
  have hsame := hcut (p := page) h
  rw [heq, hcut h'] at hsame
  simp only [Option.some.injEq, Prod.mk.injEq, List.reverse_inj, String.toList_inj] at hsame
  exact ⟨hsame.2.symm, hsame.1.symm⟩

/-- Without a dot behind the number sign no address ends like a page. -/
theorem ne_anchorLink {path anchor : String} (hp : isPagePath path = true)
    (h : '.' ∉ anchor.toList) (page : String) : path ≠ anchorLink page anchor := by
  rintro rfl
  have hback : '#' :: anchor.toList <:+ (anchorLink page anchor).toList := by
    rw [toList_anchorLink]
    exact List.suffix_append ..
  obtain hend | hend := List.suffix_or_suffix_of_suffix hback (List.isSuffixOf_iff_suffix.mp hp)
  · exact absurd (hend.subset (List.mem_cons_self ..)) (by decide)
  · have hdot : '.' ∈ '#' :: anchor.toList := hend.subset (by decide)
    obtain hsign | hdot := List.mem_cons.mp hdot
    · exact absurd hsign (by decide)
    · exact h hdot

/-! ## Entries of one document -/

/-- What the search index needs of a document: a page, and anchors that were given out. -/
structure Searchable (d : Document) : Prop where
  page : isPagePath d.page = true
  anchors : d.headings.map (·.anchor) = Anchors.given {} (d.headings.map (·.text))

theorem searchable_read (path text : String) (l : Language) (m : PageMap) :
    Searchable (Document.read path text l m) where
  page := isPagePath_page m _
  anchors := ofPassages_anchors _

namespace Searchable
variable {d e : Document}

theorem sign_not_mem (h : Searchable d) {g : Heading} (hg : g ∈ d.headings) {c : Char}
    (hc : c = '#' ∨ c = '.') : c ∉ g.anchor.toList := by
  intro hm
  have hgiven : g.anchor ∈ Anchors.given {} (d.headings.map (·.text)) :=
    h.anchors ▸ List.mem_map_of_mem hg
  obtain rfl | rfl := hc
  · exact absurd (alphanum_of_mem_anchor hgiven hm (by decide)) (by decide)
  · exact absurd (alphanum_of_mem_anchor hgiven hm (by decide)) (by decide)

theorem mem_links {link : String} (h : link ∈ (searchEntries d).map (·.link)) :
    link = d.page ∨ ∃ g ∈ d.headings, link = anchorLink d.page g.anchor := by
  rw [searchEntries, List.map_cons, List.map_map, List.mem_cons, List.mem_map] at h
  obtain rfl | ⟨g, hg, rfl⟩ := h
  · exact .inl rfl
  · exact .inr ⟨g, hg, rfl⟩

theorem links_nodup (h : Searchable d) : ((searchEntries d).map (·.link)).Nodup := by
  rw [searchEntries, List.map_cons, List.map_map, List.nodup_cons]
  constructor
  · intro hm
    obtain ⟨g, hg, heq⟩ := List.mem_map.mp hm
    exact ne_anchorLink h.page (h.sign_not_mem hg (.inr rfl)) d.page heq.symm
  · have hanchors : (d.headings.map (·.anchor)).Nodup := h.anchors ▸ Anchors.given_nodup {} _
    rw [List.Nodup, List.pairwise_map] at hanchors ⊢
    refine hanchors.imp_of_mem fun {g g'} hg hg' hne heq => hne ?_
    exact (anchorLink_inj (h.sign_not_mem hg (.inl rfl)) (h.sign_not_mem hg' (.inl rfl)) heq).2

/-- Documents with different pages have no address in common. -/
theorem links_disjoint (h : Searchable d) (h' : Searchable e) (hne : d.page ≠ e.page) :
    ((searchEntries d).map (·.link)).Disjoint ((searchEntries e).map (·.link)) := by
  intro link hd he
  obtain rfl | ⟨g, hg, rfl⟩ := mem_links hd
  · obtain heq | ⟨g', hg', heq⟩ := mem_links he
    · exact hne heq
    · exact ne_anchorLink h.page (h'.sign_not_mem hg' (.inr rfl)) e.page heq
  · obtain heq | ⟨g', hg', heq⟩ := mem_links he
    · exact ne_anchorLink h'.page (h.sign_not_mem hg (.inr rfl)) d.page heq.symm
    · exact hne (anchorLink_inj (h.sign_not_mem hg (.inl rfl)) (h'.sign_not_mem hg' (.inl rfl)) heq).1

end Searchable

/-! ## The index of a site -/

section
variable {name : String} {ds : List Document} {s : Site}

theorem searchIndex_links_nodup (hb : Site.build name ds = .ok s)
    (h : ∀ d ∈ s.documents, Searchable d) : ((searchIndex s).map (·.link)).Nodup := by
  rw [searchIndex, List.map_flatMap, List.nodup_flatMap]
  refine ⟨fun d hd => (h d hd).links_nodup, ?_⟩
  have hpages := Site.pages_nodup hb
  rw [List.Nodup, List.pairwise_map] at hpages
  exact hpages.imp_of_mem fun {d e} hd he hne => (h d hd).links_disjoint (h e he) hne

/-- The search index lists every document of the site in the order of the contents, the file first and
then the headings of its outline, and no two entries have the same link. -/
theorem searchIndex_complete_apart (hread : ∀ d ∈ ds, ∃ path text l m, d = Document.read path text l m)
    (hb : Site.build name ds = .ok s) :
    (documentsAt s s.contents.values).Perm ds ∧
    searchIndex s = (documentsAt s s.contents.values).flatMap (fun d =>
      ⟨d.title, .file, d.source, d.language.name, d.page⟩ ::
        (ofPassages d.passages).headings.map fun g =>
          ⟨g.text, .heading, d.source, d.title, d.page ++ "#" ++ g.anchor⟩) ∧
    ((searchIndex s).map (·.link)).Nodup := by
  have hperm := Site.documents_perm hb
  have hread' : ∀ d ∈ s.documents, ∃ path text l m, d = Document.read path text l m :=
    fun d hd => hread d (hperm.mem_iff.mp hd)
  rw [Site.contents_places hb, documentsAt_range]
  refine ⟨hperm, ?_, searchIndex_links_nodup hb fun d hd => ?_⟩
  · rw [searchIndex]
    refine List.flatMap_congr fun d hd => ?_
    obtain ⟨path, text, l, m, rfl⟩ := hread' d hd
    rfl
  · obtain ⟨path, text, l, m, rfl⟩ := hread' d hd
    exact searchable_read path text l m

end

/-- A heading whose address starts the path of another page. -/
theorem searchIndex_apart_number_sign :
    let d := Document.read "a.md" "# B\n# B" { Language.named "Markdown" with proseOnly := true } {}
    let e := Document.read "a.md.html#b" "" (.named "Text") {}
    ∃ s, Site.build "notes" [d, e] = .ok s ∧ ((searchIndex s).map (·.link)).Nodup ∧
      ((searchIndex s).map (·.link)).Perm
        ["a.md.html", "a.md.html#b", "a.md.html#b-1", "a.md.html#b.html"] := by
  intro d e
  have hb : Site.build "notes" [d, e] = .ok (Site.arrange "notes" [d, e]) :=
    Site.build_eq_ok_iff.mpr ⟨by decide, by decide, rfl⟩
  obtain ⟨hperm, hindex, hnodup⟩ := searchIndex_complete_apart (List.forall_mem_cons.mpr
    ⟨⟨_, _, _, _, rfl⟩, List.forall_mem_singleton.mpr ⟨_, _, _, _, rfl⟩⟩) hb
  have hheadings : (ofPassages d.passages).headings =
      [⟨1, "B", "b", 1⟩, ⟨1, "B", "b-1", 2⟩] := by decide +kernel
  refine ⟨_, hb, hnodup, ?_⟩
  rw [hindex, List.map_flatMap]
  refine (hperm.flatMap_right _).trans ?_
  rw [List.flatMap_cons, List.flatMap_singleton, hheadings]
  exact List.Perm.refl _

end Marginalia.Page
