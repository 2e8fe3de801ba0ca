import Marginalia.Proofs.Site.Address

/-! Links that resolve and links that are reported. The report works with the path that each link
was read as, resolving reads the link again; both ask whether a document of the site is where the
path leads. -/
namespace Marginalia.Site
open Marginalia.Path Outline
set_option autoImplicit false

/-! ## Where links lead -/

theorem document?_eq_some_iff {s : Site} (hn : (s.documents.map (·.source)).Nodup)
    {source : String} {d : Document} :
    s.document? source = some d ↔ d ∈ s.documents ∧ d.source = source := by
  constructor
  · intro h
    exact ⟨List.mem_of_find?_eq_some h, by simpa using List.find?_some h⟩
  · rintro ⟨hd, rfl⟩
    exact document?_of_mem hn hd

theorem document?_eq_none_iff {s : Site} {source : String} :
    s.document? source = none ↔ ∀ d ∈ s.documents, d.source ≠ source := by
  simp [document?]

theorem follow?_eq_none_iff {s : Site} {source path : String} :
    s.follow? source path = none ↔
      ∀ d ∈ s.documents, join? (directory source) path ≠ some d.source := by
  rw [follow?]
  cases join? (directory source) path with
  | none => simp
  | some target =>
    rw [Option.bind_some, document?_eq_none_iff]
    simp [eq_comm]

/-- A link resolves to the document that its path leads to. -/
theorem resolve?_eq_map (s : Site) (source : String) {r : Reference}
    (h : parseReference r.raw 0 = some { r with line := 0 }) :
    s.resolve? source r.raw = (s.follow? source r.path).map fun d =>
      ⟨d.source, d.page, fileAnchor d.source, r.fragment⟩ := by
  rw [resolve?, h]
  cases hf : s.follow? source r.path with
  | none => simp [hf]
  | some d => simp [hf]

theorem href?_isNone {s : Site} {source : String} (h : (s.document? source).isSome = true)
    (destination : String) :
    (s.href? source destination).isNone = (s.resolve? source destination).isNone := by
  obtain ⟨origin, ho⟩ := Option.isSome_iff_exists.mp h
  rw [href?]
  cases s.resolve? source destination with
  | none => rfl
  | some target => simp [ho]

/-- The links reported for some of the files are those of their documents. -/
theorem brokenLinks_filter_path (s : Site) (p : String → Prop) [DecidablePred p] :
    s.brokenLinks.filter (p ·.path) = (s.documents.filter (p ·.source)).flatMap s.brokenIn := by
  have hsame : ∀ d : Document, (s.brokenIn d).filter (p ·.path) =
      if p d.source then s.brokenIn d else [] := by
    intro d
    rw [brokenIn, List.filter_map]
    split
    next hp => rw [List.filter_eq_self.mpr fun r _ => by simpa using hp]
    next hp => rw [List.filter_eq_nil_iff.mpr fun r _ => by simpa using hp, List.map_nil]
  rw [brokenLinks]
  induction s.documents with
  | nil => rfl
  | cons d ds ih =>
    rw [List.flatMap_cons, List.filter_append, ih, hsame]
    by_cases hp : p d.source
    · rw [if_pos hp, List.filter_cons_of_pos (by simpa using hp), List.flatMap_cons]
    · rw [if_neg hp, List.filter_cons_of_neg (by simpa using hp), List.nil_append]

/-! ## Documents as they are read -/

/-- The references of the document are what their destinations are read as. -/
def RightlyRead (d : Document) : Prop :=
  ∀ r ∈ d.references, parseReference r.raw 0 = some { r with line := 0 }

theorem rightlyRead_read (path text : String) (l : Language) (m : PageMap) :
    RightlyRead (.read path text l m) :=
  fun _ hr => parseReference_of_mem hr 0

theorem references_of_links {path text : String} {l : Language} {m : PageMap}
    {links : List (String × Nat)} (h : proseLinks (Passage.segment l text) = links)
    (hl : ∀ link ∈ links, Literal link.1) :
    (Document.read path text l m).references =
      links.map fun link => ⟨link.1, link.1, none, link.2⟩ := by
  have href : (Document.read path text l m).references =
      links.filterMap fun link => parseReference link.1 link.2 := by
    rw [← h]
    exact references_eq_filterMap _
  rw [href, ← List.filterMap_eq_map]
  exact List.filterMap_congr fun link hm => parseReference_of_literal (hl link hm) none link.2

/-- A document that links to itself and to another file. -/
theorem exists_read_two_links :
    ∃ d, Document.read "a.md" "[a](a.md)\n[c](c.md)"
        { Language.named "Markdown" with proseOnly := true } {} = d ∧
      d.source = "a.md" ∧ d.page = "a.md.html" ∧
      d.references = [⟨"a.md", "a.md", none, 1⟩, ⟨"c.md", "c.md", none, 2⟩] := by
  refine ⟨_, rfl, by decide, by decide, ?_⟩
  have hlinks : proseLinks (Passage.segment
      { Language.named "Markdown" with proseOnly := true } "[a](a.md)\n[c](c.md)") =
        [("a.md", 1), ("c.md", 2)] := by decide +kernel
  rw [references_of_links hlinks]
  · rfl
  · simp only [List.forall_mem_cons]
    exact ⟨.of_kept rfl (by decide) (List.all_eq_true.mp (by decide)),
      .of_kept rfl (by decide) (List.all_eq_true.mp (by decide)), by simp⟩

theorem brokenIn_eq_unresolved {d : Document} (hd : RightlyRead d) (s : Site) :
    s.brokenIn d = (d.references.filter fun r => (s.resolve? d.source r.raw).isNone).map fun r =>
      ⟨d.source, r.line, r.raw⟩ := by
  rw [brokenIn]
  congr 1
  refine List.filter_congr fun r hr => ?_
  rw [resolve?_eq_map s d.source (hd r hr), Option.isNone_map]

/-- The links of a site that are reported are those that do not resolve, each with its place, in the
order of the documents and of the links in them. A link has an address unless it does not resolve,
and it resolves unless no document is where it leads. -/
theorem brokenLinks_eq_unresolved {name : String} {ds : List Document} {s : Site}
    (hread : ∀ d ∈ ds, ∃ path text l m, d = Document.read path text l m)
    (hb : build name ds = .ok s) :
    s.brokenLinks = (s.documents.flatMap fun d =>
      (d.references.filter fun r => (s.resolve? d.source r.raw).isNone).map fun r =>
        ⟨d.source, r.line, r.raw⟩) ∧
    ∀ d ∈ s.documents, ∀ r ∈ d.references,
      (s.href? d.source r.raw = none ↔ s.resolve? d.source r.raw = none) ∧
      (s.resolve? d.source r.raw = none ↔
        ∀ e ∈ ds, join? (directory d.source) r.path ≠ some e.source) := by
  have hright : ∀ d ∈ s.documents, RightlyRead d := by
    intro d hd
    obtain ⟨path, text, l, m, rfl⟩ := hread d ((documents_perm hb).mem_iff.mp hd)
    exact rightlyRead_read path text l m
  refine ⟨?_, fun d hd r hr => ⟨?_, ?_⟩⟩
  · rw [brokenLinks]
    exact List.flatMap_congr fun d hd => brokenIn_eq_unresolved (hright d hd) s
  · have hsome : (s.document? d.source).isSome = true := List.find?_isSome.mpr ⟨d, hd, by simp⟩
    rw [← Option.isNone_iff_eq_none, ← Option.isNone_iff_eq_none, href?_isNone hsome]
  · rw [resolve?_eq_map s d.source (hright d hd r hr), Option.map_eq_none_iff, follow?_eq_none_iff]
    simp only [(documents_perm hb).mem_iff]

/-- A file with a link to itself and one to a file that is not there. -/
theorem brokenLinks_beside_resolved :
    let l := { Language.named "Markdown" with proseOnly := true }
    ∃ s, build "notes" [.read "a.md" "[a](a.md)\n[c](c.md)" l {}] = .ok s ∧
      s.brokenLinks = [⟨"a.md", 2, "c.md"⟩] ∧ s.href? "a.md" "c.md" = none ∧
      s.href? "a.md" "a.md" ≠ none := by
  intro l
  obtain ⟨d, hd, hsource, -, href⟩ := exists_read_two_links
  rw [hd]
  have hb : build "notes" [d] = .ok (arrange "notes" [d]) :=
    build_eq_ok_iff.mpr ⟨by simp, by simp, rfl⟩
  have hdocuments : (arrange "notes" [d]).documents = [d] :=
    List.perm_singleton.mp (documents_perm hb)
  obtain ⟨hbroken, hall⟩ := brokenLinks_eq_unresolved
    (List.forall_mem_singleton.mpr ⟨_, _, _, _, hd.symm⟩) hb
  rw [hdocuments, List.flatMap_singleton, href, hsource] at hbroken
  rw [hdocuments, List.forall_mem_singleton, href, List.forall_mem_cons, List.forall_mem_singleton,
    List.forall_mem_singleton, List.forall_mem_singleton, hsource] at hall
  obtain ⟨⟨hself, hselfAt⟩, hother, hotherAt⟩ := hall
  have hfound : (arrange "notes" [d]).resolve? "a.md" "a.md" ≠ none :=
    fun h => hselfAt.mp h (by decide)
  have hlost : (arrange "notes" [d]).resolve? "a.md" "c.md" = none := hotherAt.mpr (by decide)
  refine ⟨_, hb, ?_, hother.mpr hlost, fun h => hfound (hself.mp h)⟩
  rw [hbroken]
  simp [hfound, hlost]

end Marginalia.Site
