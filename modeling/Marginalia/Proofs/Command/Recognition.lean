import Marginalia.Command.Run
import Marginalia.Files.World
import Marginalia.Proofs.Assembly.Conservation
import Marginalia.Proofs.Language.Claims

/-! The language of a file is asked for twice: when the file is read, under the path it was found with,
and when it becomes a document, under the normal form of that path. Both give the same answer, so no
file that was read is left out for want of a language. -/
namespace Marginalia
set_option autoImplicit false

namespace Catalogue

theorem byPath?_normalize (c : Catalogue) (path : String) :
    c.byPath? (Path.normalize path) = c.byPath? (Path.slashed path) := by
  rw [byPath?_eq, byPath?_eq, Path.fileName?_normalize]

theorem byPath?_normalize_of_forward (c : Catalogue) {path : String} (h : '\\' ∉ path.toList) :
    c.byPath? (Path.normalize path) = c.byPath? path := by
  rw [byPath?_normalize, Path.slashed_eq_self h]

end Catalogue

namespace Command
open Files Discovery

variable {σ : Type} {h : Host (StateM σ)} {c : Catalogue}

theorem readSource_eq_ok {f : Found} {s : σ} {file : SourceFile}
    (hread : (readSource h c f s).1 = .ok file) :
    file.path = f.relative ∧ (c.byPath? f.relative).isSome := by
  unfold readSource at hread
  by_cases hnone : (c.byPath? f.relative).isNone = true
  · rw [if_pos hnone] at hread
    cases hread
  · rw [if_neg hnone] at hread
    have hsome := Option.isSome_iff_ne_none.mpr fun he => hnone (Option.isNone_iff_eq_none.mpr he)
    obtain ⟨answer, s', hhost⟩ : ∃ answer s', h.read f.path.text s = (answer, s') := ⟨_, _, rfl⟩
    have hbind : ∀ k : Except FileError String → StateM σ (Except SkippedFile SourceFile),
        (h.read f.path.text >>= k) s = k answer s' := by
      intro k
      show k (h.read f.path.text s).1 (h.read f.path.text s).2 = k answer s'
      rw [hhost]
    rw [hbind] at hread
    cases answer with
    | error e => cases hread
    | ok text =>
      cases hread
      exact ⟨rfl, hsome⟩

theorem mapM_readSource_cons (f : Found) (found : List Found) (s : σ) :
    (((f :: found).mapM (readSource h c)) s).1 =
      (readSource h c f s).1 :: ((found.mapM (readSource h c)) (readSource h c f s).2).1 := by
  rw [List.mapM_cons]
  rfl

theorem mem_sources_iff {read : List (Except SkippedFile SourceFile)} {file : SourceFile} :
    file ∈ sources read ↔ .ok file ∈ read := by
  rw [sources, List.mem_filterMap]
  constructor
  · rintro ⟨answer, hmem, hfile⟩
    cases answer with
    | error skipped => cases hfile
    | ok other =>
      cases hfile
      exact hmem
  · exact fun hmem => ⟨.ok file, hmem, rfl⟩

theorem mem_sources_of_read {found : List Found} {s : σ} {file : SourceFile}
    (hfile : file ∈ sources ((found.mapM (readSource h c)) s).1) :
    ∃ f ∈ found, file.path = f.relative ∧ (c.byPath? f.relative).isSome := by
  induction found generalizing s with
  | nil => cases hfile
  | cons f found ih =>
    rw [mapM_readSource_cons, mem_sources_iff, List.mem_cons] at hfile
    rcases hfile with hfirst | hlater
    · exact ⟨f, List.mem_cons_self .., readSource_eq_ok hfirst.symm⟩
    · obtain ⟨g, hg, hfound⟩ := ih (mem_sources_iff.mpr hlater)
      exact ⟨g, List.mem_cons_of_mem f hg, hfound⟩

/-- Normalizing a second time changes nothing, and normalizing leaves a path as it is exactly if it is
empty or has forward slashes only and no empty segment and no dot. In any catalogue the normal form of a
path without backslashes has the language of the path. Files that were found under such paths and then
read are therefore all documents, and none is left out. -/
theorem normalize_keeps_language {σ : Type} (h : Host (StateM σ)) (m : PageMap) :
    (∀ path, Path.normalize (Path.normalize path) = Path.normalize path) ∧
    (∀ path, Path.normalize path = path ↔ path = "" ∨
      '\\' ∉ path.toList ∧ ∀ s ∈ Path.segments path, s ≠ "" ∧ s ≠ ".") ∧
    ∀ c : Catalogue,
      (∀ path, c.byPath? (Path.normalize path) = c.byPath? (Path.slashed path) ∧
        ('\\' ∉ path.toList → c.byPath? (Path.normalize path) = c.byPath? path)) ∧
      ∀ (found : List Found) (s : σ), (∀ f ∈ found, '\\' ∉ f.relative.toList) →
        (∀ file ∈ sources ((found.mapM (readSource h c)) s).1, ∃ l,
          c.byPath? file.path = some l ∧
          Assembly.readFile c m file = .ok (Document.read file.path file.text l m)) ∧
        ∀ name site report, Assembly.run c m name (sources ((found.mapM (readSource h c)) s).1) =
          .ok (site, report) → report.skipped = [] := by
  refine ⟨Path.normalize_normalize, fun _ => Path.normalize_eq_self_iff, fun c => ⟨fun path =>
    ⟨c.byPath?_normalize path, c.byPath?_normalize_of_forward⟩, fun found s hforward => ?_⟩⟩
  have hlanguage : ∀ file ∈ sources ((found.mapM (readSource h c)) s).1, ∃ l,
      c.byPath? file.path = some l ∧ Assembly.language? c file = some l := by
    intro file hfile
    obtain ⟨f, hf, hpath, hsome⟩ := mem_sources_of_read hfile
    obtain ⟨l, hl⟩ := Option.isSome_iff_exists.mp hsome
    refine ⟨l, hpath ▸ hl, ?_⟩
    rw [Assembly.language?, hpath, c.byPath?_normalize_of_forward (hforward f hf), hl]
  refine ⟨fun file hfile => ?_, fun name site report hrun => ?_⟩
  · obtain ⟨l, hl, hsame⟩ := hlanguage file hfile
    refine ⟨l, hl, ?_⟩
    obtain ⟨l', hl', hread⟩ | ⟨hnone, -⟩ := Assembly.readFile_cases c m file
    · rw [hread, Option.some.inj (hl'.symm.trans hsame)]
    · rw [hnone] at hsame
      cases hsame
  · obtain ⟨-, -, rfl⟩ := Assembly.run_eq_ok_iff.mp hrun
    refine List.map_eq_nil_iff.mpr (List.filter_eq_nil_iff.mpr fun file hfile => ?_)
    obtain ⟨l, -, hsame⟩ := hlanguage file hfile
    rw [hsame]
    exact Bool.false_ne_true

/-- A file without a language, and one that was found under a path with dots. -/
theorem normalize_keeps_language_dots : ∃ (c : Catalogue) (w : World) (found : List Found),
    found = [⟨["x.bin"], "x.bin"⟩, ⟨["n.txt"], "./d//n.txt/."⟩] ∧
    c.byPath? (Path.normalize "./d//n.txt/.") = c.byPath? "./d//n.txt/." ∧
    sources ((found.mapM (readSource World.host c)) w).1 = [⟨"./d//n.txt/.", ""⟩] ∧
    (∃ l, c.byPath? "./d//n.txt/." = some l ∧ Assembly.readFile c {} ⟨"./d//n.txt/.", ""⟩ =
      .ok (Document.read "./d//n.txt/." "" l {})) ∧
    ∃ site report, Assembly.run c {} "notes" (sources ((found.mapM (readSource World.host c)) w).1) =
      .ok (site, report) ∧ report.skipped = [] := by
  obtain ⟨c, w, found, rfl, hread⟩ : ∃ (c : Catalogue) (w : World) (found : List Found),
      found = [⟨["x.bin"], "x.bin"⟩, ⟨["n.txt"], "./d//n.txt/."⟩] ∧
      sources ((found.mapM (readSource World.host c)) w).1 = [⟨"./d//n.txt/.", ""⟩] :=
    ⟨({} : Catalogue).layer { Language.named "Text" with extensions := ["txt"] },
      ⟨.directory [("n.txt", .file .empty)], []⟩, _, rfl, rfl⟩
  obtain ⟨-, -, hany⟩ := normalize_keeps_language World.host {}
  obtain ⟨hpath, hfound⟩ := hany c
  obtain ⟨hdocuments, hskipped⟩ :=
    hfound [⟨["x.bin"], "x.bin"⟩, ⟨["n.txt"], "./d//n.txt/."⟩] w (by decide)
  have hdocument := hdocuments ⟨"./d//n.txt/.", ""⟩ (by rw [hread]; exact List.mem_singleton_self _)
  have hforward := (hpath "./d//n.txt/.").2 (by decide)
  obtain ⟨site, hbuild⟩ : ∃ site, Site.build "notes"
      (List.filterMap (Assembly.document? c {}) [⟨"./d//n.txt/.", ""⟩]) = .ok site := by
    obtain ⟨l, hl, -⟩ := hdocument
    have hone : Assembly.document? c {} ⟨"./d//n.txt/.", ""⟩ =
        some (Document.read "./d//n.txt/." "" l {}) := by
      rw [Assembly.document?, Assembly.language?, hforward, hl, Option.map_some]
    rw [List.filterMap_cons_some hone]
    exact ⟨_, Site.build_eq_ok_iff.mpr ⟨List.nodup_singleton _, List.nodup_singleton _, rfl⟩⟩
  have hrun := Assembly.run_eq_ok_iff.mpr ⟨List.cons_ne_nil _ _, hbuild, rfl⟩
  rw [← hread] at hrun
  exact ⟨c, w, _, rfl, hforward, hread, hdocument, site, _, hrun, hskipped _ _ _ hrun⟩

-- Only the normal form takes a backslash for a slash, and what follows it here is a hidden file.
example : ((({} : Catalogue).layer { Language.named "Text" with extensions := ["txt"] }).byPath?
      "n\\.txt").isSome = true ∧
    ((({} : Catalogue).layer { Language.named "Text" with extensions := ["txt"] }).byPath?
      (Path.normalize "n\\.txt")).isSome = false := by
  decide

end Command

end Marginalia
