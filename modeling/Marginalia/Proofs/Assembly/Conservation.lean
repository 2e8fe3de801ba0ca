import Marginalia.Assembly
import Marginalia.Proofs.Path.Normal
import Marginalia.Proofs.Site.Address

/-! Nothing is lost when files are gathered into a site. Each file becomes a document of the site or is
reported as left out, whichever its language decides, and nothing else is in either place. -/
namespace Marginalia.Assembly
set_option autoImplicit false

section
variable (c : Catalogue) (m : PageMap)

/-- The language of a file. -/
def language? (f : SourceFile) : Option Language :=
  c.byPath? (Path.normalize f.path)

/-- The document of a file that has a language. -/
def document? (f : SourceFile) : Option Document :=
  (language? c f).map fun l => Document.read f.path f.text l m

/-- The files without a language, in order. -/
def leftOut (files : List SourceFile) : List SkippedFile :=
  (files.filter fun f => (language? c f).isNone).map fun f => ⟨Path.normalize f.path, .unrecognized⟩

end

variable {c : Catalogue} {m : PageMap} {name : String} {files : List SourceFile} {site : Site}
  {report : Report}

/-! ## Reading the files -/

theorem readFile_cases (c : Catalogue) (m : PageMap) (f : SourceFile) :
    (∃ l, language? c f = some l ∧ readFile c m f = .ok (Document.read f.path f.text l m)) ∨
      (language? c f = none ∧ readFile c m f = .error (Path.normalize f.path)) := by
  unfold readFile language?
  dsimp only
  cases c.byPath? (Path.normalize f.path) with
  | none => exact .inr ⟨rfl, rfl⟩
  | some l => exact .inl ⟨l, rfl, congrArg Except.ok (Document.read_normalize f.path f.text l m)⟩

theorem filterMap_readFile_ok (files : List SourceFile) {g : Except String Document → Option Document}
    (hok : ∀ d, g (.ok d) = some d) (herror : ∀ path, g (.error path) = none) :
    (files.map (readFile c m)).filterMap g = files.filterMap (document? c m) := by
  rw [List.filterMap_map]
  refine List.filterMap_congr fun f _ => ?_
  rw [Function.comp_apply, document?]
  obtain ⟨l, hl, hf⟩ | ⟨hl, hf⟩ := readFile_cases c m f
  · rw [hf, hl, hok, Option.map_some]
  · rw [hf, hl, herror, Option.map_none]

theorem filterMap_readFile_error (files : List SourceFile)
    {g : Except String Document → Option SkippedFile} (hok : ∀ d, g (.ok d) = none)
    (herror : ∀ path, g (.error path) = some ⟨path, .unrecognized⟩) :
    (files.map (readFile c m)).filterMap g = leftOut c files := by
  induction files with
  | nil => rfl
  | cons f files ih =>
    rw [leftOut] at ih ⊢
    rw [List.map_cons]
    obtain ⟨l, hl, hf⟩ | ⟨hl, hf⟩ := readFile_cases c m f
    · rw [List.filterMap_cons_none (hf ▸ hok _), ih, List.filter_cons_of_neg (by simp [hl])]
    · rw [List.filterMap_cons_some (hf ▸ herror _), ih, List.filter_cons_of_pos (by simp [hl]),
        List.map_cons]

theorem run_eq_ok_iff : run c m name files = .ok (site, report) ↔
    files ≠ [] ∧ Site.build name (files.filterMap (document? c m)) = .ok site ∧
      report = ⟨leftOut c files, site.brokenLinks⟩ := by
  cases files with
  | nil => exact iff_of_false nofun fun h => h.1 rfl
  | cons f files =>
    unfold run
    simp only [List.isEmpty_cons, Bool.false_eq_true, if_false]
    rw [filterMap_readFile_ok (f :: files) (fun _ => rfl) (fun _ => rfl),
      filterMap_readFile_error (f :: files) (fun _ => rfl) (fun _ => rfl)]
    cases Site.build name ((f :: files).filterMap (document? c m)) with
    | error e => exact iff_of_false nofun fun h => nomatch h.2.1
    | ok s =>
      constructor
      · rintro ⟨⟩
        exact ⟨List.cons_ne_nil f files, rfl, rfl⟩
      · rintro ⟨-, ⟨⟩, rfl⟩
        rfl

/-! ## Where the files are -/

theorem paths_perm (c : Catalogue) (m : PageMap) (files : List SourceFile) :
    (files.map (Path.normalize ·.path)).Perm
      ((files.filterMap (document? c m)).map (·.source) ++ (leftOut c files).map (·.path)) := by
  induction files with
  | nil => exact .refl _
  | cons f files ih =>
    rw [leftOut] at ih ⊢
    rw [List.map_cons]
    cases hl : language? c f with
    | some l =>
      have hd : document? c m f = some (Document.read f.path f.text l m) := by
        rw [document?, hl, Option.map_some]
      rw [List.filterMap_cons_some hd, List.filter_cons_of_neg (by simp [hl])]
      exact ih.cons _
    | none =>
      have hd : document? c m f = none := by rw [document?, hl, Option.map_none]
      rw [List.filterMap_cons_none hd, List.filter_cons_of_pos (by simp [hl])]
      exact (ih.cons _).trans List.perm_middle.symm

theorem mem_documents_iff (h : Site.build name (files.filterMap (document? c m)) = .ok site)
    {d : Document} : d ∈ site.documents ↔ ∃ f ∈ files, document? c m f = some d := by
  rw [(Site.documents_perm h).mem_iff, List.mem_filterMap]

theorem language?_eq_of_path {f g : SourceFile} (h : Path.normalize f.path = Path.normalize g.path) :
    language? c f = language? c g := by
  rw [language?, language?, h]

/-- The site has a document for a file exactly if the file has a language, and it is the document that
is read from it in that language. -/
theorem document?_of_file (h : Site.build name (files.filterMap (document? c m)) = .ok site)
    {f : SourceFile} (hf : f ∈ files) :
    site.document? (Path.normalize f.path) = document? c m f := by
  cases hl : language? c f with
  | some l =>
    have hd : document? c m f = some (Document.read f.path f.text l m) := by
      rw [document?, hl, Option.map_some]
    have hfound := Site.document?_of_mem (Site.sources_nodup h) ((mem_documents_iff h).mpr ⟨f, hf, hd⟩)
    rw [hd]
    exact hfound
  | none =>
    rw [document?, hl, Option.map_none]
    refine List.find?_eq_none.mpr fun d hd => ?_
    obtain ⟨g, -, hg⟩ := (mem_documents_iff h).mp hd
    obtain ⟨l, hgl, rfl⟩ := Option.map_eq_some_iff.mp hg
    intro hsource
    have hpath : Path.normalize g.path = Path.normalize f.path := of_decide_eq_true hsource
    rw [language?_eq_of_path hpath, hl] at hgl
    cases hgl

/-- Gathering files neither loses nor invents one: their paths are those of the documents and those
left out, and no path is both. Each file that has a language is a document, as it reads on its own;
the others are left out, in order, for want of one. -/
theorem run_conserves (h : run c m name files = .ok (site, report)) :
    (files.map (Path.normalize ·.path)).Perm
      (site.documents.map (·.source) ++ report.skipped.map (·.path)) ∧
    (site.documents.map (·.source)).Disjoint (report.skipped.map (·.path)) ∧
    (∀ f ∈ files, site.document? (Path.normalize f.path) =
      (c.byPath? (Path.normalize f.path)).map fun l => Document.read f.path f.text l m) ∧
    report.skipped = (files.filter fun f => (c.byPath? (Path.normalize f.path)).isNone).map
      (fun f => ⟨Path.normalize f.path, .unrecognized⟩) ∧
    report.broken = site.brokenLinks := by
  obtain ⟨-, hb, rfl⟩ := run_eq_ok_iff.mp h
  refine ⟨?_, ?_, fun f hf => document?_of_file hb hf, rfl, rfl⟩
  · exact (paths_perm c m files).trans (((Site.documents_perm hb).symm.map _).append_right _)
  · intro path hin hout
    obtain ⟨d, hd, rfl⟩ := List.mem_map.mp hin
    obtain ⟨f, -, hf⟩ := (mem_documents_iff hb).mp hd
    obtain ⟨l, hl, rfl⟩ := Option.map_eq_some_iff.mp hf
    simp only [leftOut, List.mem_map, List.mem_filter] at hout
    obtain ⟨_, ⟨g, ⟨-, hg⟩, rfl⟩, hpath⟩ := hout
    rw [language?_eq_of_path hpath, hl] at hg
    cases hg

/-- A file without a language among two that have one, with paths that are not normal. -/
theorem run_conserves_mixed : ∃ site report,
    run (({} : Catalogue).layer { Language.named "Text" with extensions := ["txt"] }) {} "notes"
      [⟨"./b//c.txt", "B"⟩, ⟨"x.bin", ""⟩, ⟨"a.txt", "A"⟩] = .ok (site, report) ∧
    ["b/c.txt", "x.bin", "a.txt"].Perm
      (site.documents.map (·.source) ++ report.skipped.map (·.path)) ∧
    report.skipped = [⟨"x.bin", .unrecognized⟩] := by
  obtain ⟨site, hb⟩ : ∃ site, Site.build "notes" (List.filterMap
      (document? (({} : Catalogue).layer { Language.named "Text" with extensions := ["txt"] }) {})
      [⟨"./b//c.txt", "B"⟩, ⟨"x.bin", ""⟩, ⟨"a.txt", "A"⟩]) = .ok site :=
    ⟨_, Site.build_eq_ok_iff.mpr ⟨by decide +kernel, by decide +kernel, rfl⟩⟩
  have hok := run_eq_ok_iff.mpr ⟨List.cons_ne_nil _ _, hb, rfl⟩
  obtain ⟨hperm, -, -, hskipped, -⟩ := run_conserves hok
  refine ⟨site, _, hok, ?_, ?_⟩
  · have hpaths : [(⟨"./b//c.txt", "B"⟩ : SourceFile), ⟨"x.bin", ""⟩, ⟨"a.txt", "A"⟩].map
        (Path.normalize ·.path) = ["b/c.txt", "x.bin", "a.txt"] := by decide +kernel
    rwa [hpaths] at hperm
  · rw [hskipped]
    decide +kernel

end Marginalia.Assembly
