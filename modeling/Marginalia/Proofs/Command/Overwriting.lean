import Marginalia.Proofs.Command.Placing
import Marginalia.Proofs.Files.Spot

/-! Which files of a site are there when it is written. Paths with `..` may name one place though
they differ, and then the file that is written later takes the place of the other. No other file of
the site is lost, and where no source path has such a segment none is. -/
namespace Marginalia.Command
open Files Page Marginalia.Path FileTree World
set_option autoImplicit false

variable {w w' : World} {output : String}

/-! ## Files written one after the other -/

/-- The files were written in this order. Their paths lead to the places that they name, and the file
that came last to a place is there. -/
structure Stands (w : World) (written : List OutputFile) : Prop where
  leads : ∀ f ∈ written, w.realPath f.path = .ok (w.spot f.path)
  last : ∀ front f back, written = front ++ f :: back →
    (∀ g ∈ back, w.spot g.path ≠ w.spot f.path) →
    w.root.at? (w.spot f.path) = some (.file f.text.toUTF8)

theorem stands_nil (w : World) : Stands w [] :=
  ⟨by simp, by simp⟩

theorem Stands.grows {written : List OutputFile} (h : Stands w written) (hg : Grows w w') :
    Stands w' written := by
  refine ⟨fun f hf => ?_, fun front f back hsplit hback => ?_⟩
  · rw [hg.toKeeps.spot]
    exact hg.toKeeps.realPath (h.leads f hf)
  · simp only [hg.toKeeps.spot] at hback ⊢
    exact hg.holds _ _ (h.last front f back hsplit hback)

theorem Stands.write {written : List OutputFile} (h : Stands w written) {f : OutputFile}
    (hf : w.write f.path f.text = .ok w') : Stands w' (written ++ [f]) := by
  obtain ⟨hkeeps, hreal, hat, hothers⟩ := write_at_spot hf
  refine ⟨fun g hg => ?_, fun front g back hsplit hback => ?_⟩
  · rw [hkeeps.spot]
    rcases List.mem_append.mp hg with hg | hg
    · exact hkeeps.realPath (h.leads g hg)
    · rw [List.mem_singleton.mp hg]
      exact hreal
  · simp only [hkeeps.spot] at hback ⊢
    obtain rfl | ⟨back, b, rfl⟩ := List.eq_nil_or_concat' back
    · obtain ⟨-, hg⟩ := List.append_inj' hsplit rfl
      rw [List.singleton_inj.mp hg] at hat
      exact hat
    · rw [← List.cons_append, ← List.append_assoc] at hsplit
      obtain ⟨hwritten, hb⟩ := List.append_inj' hsplit rfl
      rw [← List.singleton_inj.mp hb] at hback
      have hne := hback f (by simp)
      exact hothers _ _ hne.symm
        (h.last front g back hwritten fun e he => hback e (List.mem_append_left _ he))

theorem exists_last_at (w : World) {written : List OutputFile} {f : OutputFile} (hf : f ∈ written) :
    ∃ front g back, written = front ++ g :: back ∧ w.spot g.path = w.spot f.path ∧
      ∀ e ∈ back, w.spot e.path ≠ w.spot f.path := by
  induction written using List.reverseRecOn with
  | nil => cases hf
  | append_singleton written x ih =>
    by_cases hx : w.spot x.path = w.spot f.path
    · exact ⟨written, x, [], rfl, hx, by simp⟩
    · have hf : f ∈ written := by
        rcases List.mem_append.mp hf with hf | hf
        · exact hf
        · exact absurd (by rw [List.mem_singleton.mp hf]) hx
      obtain ⟨front, g, back, rfl, hg, hback⟩ := ih hf
      refine ⟨front, g, back ++ [x], by simp, hg, fun e he => ?_⟩
      rcases List.mem_append.mp he with he | he
      · exact hback e he
      · rwa [List.mem_singleton.mp he]

/-- What is read at the path of a file is the text of the file that came last to its place. -/
theorem Stands.read {written : List OutputFile} (h : Stands w written) {f : OutputFile}
    (hf : f ∈ written) : ∃ front g back, written = front ++ g :: back ∧
      w.spot g.path = w.spot f.path ∧ (∀ e ∈ back, w.spot e.path ≠ w.spot f.path) ∧
      w.read f.path = .ok g.text := by
  obtain ⟨front, g, back, hsplit, hg, hback⟩ := exists_last_at w hf
  have hat := h.last front g back hsplit (by rwa [hg])
  rw [hg] at hat
  exact ⟨front, g, back, hsplit, hg, hback, read_of_file (h.leads f hf) hat⟩

/-! ## Steps and runs -/

theorem request_act_cases (f : World → Except FileError World) (message : String) (w : World) :
    (∃ w', f w = .ok w' ∧ request message (act f) w = (.ok (), w')) ∨
      ∃ failure, request message (act f) w = (.error failure, w) := by
  cases h : f w with
  | ok w' => exact .inl ⟨w', rfl, request_act_ok message h⟩
  | error e => exact .inr (request_act_error message h)

theorem prepare_cases (output : String) (f : OutputFile) (w : World) :
    (∃ w', prepare output f w = (.ok (), w') ∧ Grows w w') ∨
      ∃ failure, prepare output f w = (.error failure, w) := by
  rw [prepare]
  split_ifs
  · obtain ⟨w', hmake, hrun⟩ | hfail := request_act_cases
      (·.makeDirectories (joinPath output (Path.directory f.path)))
      ("Failed to create directory '" ++ joinPath output (Path.directory f.path) ++ "'") w
    · exact .inl ⟨w', hrun, makeDirectories_grows hmake⟩
    · exact .inr hfail
  · exact .inl ⟨w, rfl, .refl w⟩

/-- A file is written after directories are made, or it is not and there are at most more
directories. -/
theorem writeFile_cases (output : String) (f : OutputFile) (w : World) :
    (∃ w₁ w', Grows w w₁ ∧ w₁.write (joinPath output f.path) f.text = .ok w' ∧
      writeFile World.host output f w = (.ok (), w')) ∨
    ∃ failure w', Grows w w' ∧ writeFile World.host output f w = (.error failure, w') := by
  rw [writeFile_eq, ← prepare]
  obtain ⟨w₁, hprepare, hgrows⟩ | ⟨failure, hfail⟩ := prepare_cases output f w
  · rw [bind_ok hprepare]
    obtain ⟨w', hwrite, hrun⟩ | ⟨failure, hfail⟩ := request_act_cases
      (·.write (joinPath output f.path) f.text)
      ("Failed to write '" ++ joinPath output f.path ++ "'") w₁
    · exact .inl ⟨w₁, w', hgrows, hwrite, hrun⟩
    · exact .inr ⟨failure, w₁, hgrows, hfail⟩
  · exact .inr ⟨failure, w, .refl w, bind_error hfail⟩

/-- What a run leaves behind, beside the journal of what it asks for: of the files that are asked for
all are written, but for the last one if that is refused. -/
structure Leaves {α : Type} (x : ExceptT Failure (StateM World) α)
    (y : ExceptT Failure (StateM (List OutputFile × World)) α) (w : World)
    (before files : List OutputFile) : Prop where
  keeps : Keeps w (x w).2
  stands : ∀ journal, ∃ asked written, y (journal, w) = ((x w).1, journal ++ asked, (x w).2) ∧
    asked <+: files ∧ written <+: asked ∧ asked.length ≤ written.length + 1 ∧
    (∀ a, (x w).1 = .ok a → written = files) ∧ Stands (x w).2 (before ++ written)

theorem Stands.writeFiles {before : List OutputFile} (h : Stands w before) (output : String)
    (files : List OutputFile) :
    Leaves (files.forM (writeFile World.host output))
      (files.forM (writeFile (journaled World.host) output)) w before
      (files.map (placed output)) := by
  -- The journal is carried along to tell a file that was refused from one that was not asked for.
  induction files generalizing w before with
  | nil =>
    refine ⟨.refl w, fun journal => ⟨[], [], ?_, List.prefix_rfl, List.prefix_rfl, by simp,
      fun _ _ => rfl, by rwa [List.append_nil]⟩⟩
    rw [List.append_nil]
    rfl
  | cons f files ih =>
    rw [writeFiles_cons, List.map_cons]
    obtain ⟨w₁, w', hgrows, hwrite, hrun⟩ | ⟨failure, w', hgrows, hrun⟩ :=
      writeFile_cases output f w
    · have hstep : Stands w' (before ++ [placed output f]) := (h.grows hgrows).write hwrite
      obtain ⟨hkeeps, hlater⟩ := ih hstep
      have hkept := (hgrows.toKeeps.trans (write_at_spot hwrite).1).trans hkeeps
      refine ⟨by rwa [bind_ok hrun], fun journal => ?_⟩
      obtain ⟨asked, hy, -, hall, -⟩ := logs_writeFile World.host output f journal w
      rw [hrun] at hy hall
      rw [hall () rfl] at hy
      obtain ⟨asked, written, hy', hasked, hwritten, hlength, hdone, hstands⟩ :=
        hlater (journal ++ [placed output f])
      rw [bind_ok hrun]
      refine ⟨placed output f :: asked, placed output f :: written, ?_,
        (List.prefix_cons_inj _).mpr hasked, (List.prefix_cons_inj _).mpr hwritten,
        Nat.succ_le_succ hlength, fun a ha => by rw [hdone a ha], ?_⟩
      · refine (bind_ok hy).trans ?_
        rw [hy', List.append_assoc, List.singleton_append]
      · rwa [List.append_assoc, List.singleton_append] at hstands
    · refine ⟨by rw [bind_error hrun]; exact hgrows.toKeeps, fun journal => ?_⟩
      obtain ⟨asked, hy, hasked, -⟩ := logs_writeFile World.host output f journal w
      rw [hrun] at hy
      rw [bind_error hrun]
      refine ⟨asked, [], bind_error hy, hasked.trans (List.prefix_append [_] _), List.nil_prefix,
        hasked.length_le, fun _ ha => (by cases ha), ?_⟩
      rw [List.append_nil]
      exact h.grows hgrows

theorem journaled_makeDirectories (message path : String) (w : World) (journal : List OutputFile) :
    request message ((journaled World.host).makeDirectories path) (journal, w) =
      ((request message (World.host.makeDirectories path) w).1, journal,
        (request message (World.host.makeDirectories path) w).2) := by
  obtain ⟨asked, hrun, hasked, -⟩ := logs_makeDirectories World.host message path journal w
  rwa [List.prefix_nil.mp hasked, List.append_nil] at hrun

theorem Leaves.bind_pure {α β : Type} {x : ExceptT Failure (StateM World) α}
    {y : ExceptT Failure (StateM (List OutputFile × World)) α} {before files : List OutputFile}
    (h : Leaves x y w before files) (b : β) :
    Leaves (x >>= fun _ => pure b) (y >>= fun _ => pure b) w before files := by
  obtain ⟨hkeeps, hstands⟩ := h
  cases hx : x w with
  | mk result w' =>
    rw [hx] at hkeeps hstands
    cases result with
    | ok a =>
      refine ⟨by rwa [bind_ok hx], fun journal => ?_⟩
      obtain ⟨asked, written, hy, hasked, hwritten, hlength, hall, hlast⟩ := hstands journal
      rw [bind_ok hx, bind_ok hy]
      exact ⟨asked, written, rfl, hasked, hwritten, hlength, fun _ _ => hall a rfl, hlast⟩
    | error e =>
      refine ⟨by rwa [bind_error hx], fun journal => ?_⟩
      obtain ⟨asked, written, hy, hasked, hwritten, hlength, -, hlast⟩ := hstands journal
      rw [bind_error hx, bind_error hy]
      exact ⟨asked, written, rfl, hasked, hwritten, hlength, fun _ ha => (by cases ha), hlast⟩

theorem writeSite_leaves {s : Site} {files : List OutputFile}
    (hf : outputFiles plainHighlighter s = .ok files) (w : World) (output : String) :
    Leaves (writeSite World.host output s) (writeSite (journaled World.host) output s) w []
      (files.map (placed output)) := by
  rw [writeSite_eq World.host output hf, writeSite_eq (journaled World.host) output hf]
  refine Leaves.bind_pure ?_ (pageCount s)
  have hfirst := journaled_makeDirectories ("Failed to create output directory '" ++ output ++ "'")
    output w
  obtain ⟨w₁, hmake, hrun⟩ | ⟨failure, hrun⟩ := request_act_cases (·.makeDirectories output)
    ("Failed to create output directory '" ++ output ++ "'") w
  all_goals
    change request _ (World.host.makeDirectories output) w = _ at hrun
    rw [hrun] at hfirst
  · have hgrows := makeDirectories_grows hmake
    obtain ⟨hkeeps, hstands⟩ := (stands_nil w₁).writeFiles output files
    refine ⟨by rw [bind_ok hrun]; exact hgrows.toKeeps.trans hkeeps, fun journal => ?_⟩
    rw [bind_ok hrun, bind_ok (hfirst journal)]
    exact hstands journal
  · refine ⟨by rw [bind_error hrun]; exact .refl w, fun journal => ?_⟩
    rw [bind_error hrun, bind_error (hfirst journal)]
    exact ⟨[], [], by rw [List.append_nil], List.nil_prefix, List.prefix_rfl, by simp,
      fun _ ha => (by cases ha), stands_nil w⟩

/-! ## Room for files -/

/-- The directory of a file is there, and no directory is in its place. -/
def Welcome (w : World) (output : String) (f : OutputFile) : Prop :=
  ∃ dir, Along w (joinPath output f.path) dir [fileName f.path] ∧
    w.root.isDirectory? dir = some true ∧
    w.root.isDirectory? (dir ++ [fileName f.path]) ≠ some true ∧
    (Path.directory f.path ≠ "" → w.realPath (joinPath output (Path.directory f.path)) = .ok dir)

theorem Welcome.writeFile {f : OutputFile} (h : Welcome w output f) :
    ∃ w', writeFile World.host output f w = (.ok (), w') ∧
      ∀ g, Welcome w output g → Welcome w' output g := by
  obtain ⟨dir, halong, hdir, hfree, hmade⟩ := h
  have hprepare : prepare output f w = (.ok (), w) := by
    rw [prepare]
    split_ifs with hd
    · exact request_act_ok _ (makeDirectories_of_directory (hmade hd) hdir)
    · rfl
  have halong' : Along w (joinPath output f.path) dir ([] ++ [fileName f.path]) := halong
  have hwrite := halong'.write_ok (by rw [List.append_nil]; exact hdir)
    (by rw [List.append_nil]; exact hfree) f.text
  rw [List.append_nil] at hwrite
  have hkeeps := keeps_insert_file hdir hfree f.text.toUTF8
  refine ⟨{ w with root := w.root.insert (dir ++ [fileName f.path]) (.file f.text.toUTF8) }, ?_, ?_⟩
  · rw [writeFile_eq, ← prepare, bind_ok hprepare]
    exact request_act_ok _ hwrite
  · rintro g ⟨dir', halong', hdir', hfree', hmade'⟩
    refine ⟨dir', halong'.keeps hkeeps, hkeeps.seen _ _ hdir', ?_, fun hd => ?_⟩
    · show (w.root.insert (dir ++ [fileName f.path]) (.file f.text.toUTF8)).isDirectory? _ ≠ _
      rw [isDirectory?_insert hdir hfree rfl]
      split_ifs
      · simp [FileTree.isDirectory]
      · exact hfree'
    · exact hkeeps.realPath (hmade' hd)

theorem writeFiles_ok_of_welcome {files : List OutputFile} (h : ∀ f ∈ files, Welcome w output f) :
    (files.forM (writeFile World.host output) w).1 = .ok () := by
  induction files generalizing w with
  | nil => rfl
  | cons f files ih =>
    obtain ⟨hf, hrest⟩ := List.forall_mem_cons.mp h
    obtain ⟨w', hrun, hkeeps⟩ := hf.writeFile
    rw [writeFiles_cons, bind_ok hrun]
    exact ih fun g hg => hkeeps g (hrest g hg)

theorem writeSite_ok_of_welcome {s : Site} {files : List OutputFile} {r : RealPath}
    (hf : outputFiles plainHighlighter s = .ok files) (hr : w.realPath output = .ok r)
    (hd : w.root.isDirectory? r = some true) (h : ∀ f ∈ files, Welcome w output f) :
    (writeSite World.host output s w).1 = .ok (pageCount s) := by
  rw [writeSite_run hf hr hd, writeFiles_ok_of_welcome h]
  rfl

/-! ## Places of pages -/

/-- Pages with different paths have different places. -/
def PagesApart (w : World) (output : String) (s : Site) : Prop :=
  ∀ p ∈ sitePages s, ∀ q ∈ sitePages s,
    w.spot (joinPath output p) = w.spot (joinPath output q) → p = q

theorem suffix_fileName {path : String} {ending : List Char} (hslash : '/' ∉ ending)
    (h : ending <:+ path.toList) : ending <:+ (fileName path).toList := by
  have hp := ofSegments_segments path
  rw [segments_eq_dropLast_append path] at hp
  by_cases hd : (segments path).dropLast = []
  · rw [hd, List.nil_append, ofSegments_singleton] at hp
    rwa [hp]
  · rw [ofSegments_append hd (by simp), ofSegments_singleton] at hp
    have hlast : '/' :: (fileName path).toList <:+ path.toList := by
      refine ⟨(ofSegments (segments path).dropLast).toList, ?_⟩
      conv_rhs => rw [← hp]
      simp
    rcases List.suffix_or_suffix_of_suffix h hlast with hin | hin
    · rcases List.suffix_cons_iff.mp hin with rfl | hin
      · exact absurd (List.mem_cons_self ..) hslash
      · exact hin
    · exact absurd (hin.subset (List.mem_cons_self ..)) hslash

theorem isPagePath_fileName {path : String} (h : isPagePath path = true) :
    isPagePath (fileName path) = true := by
  rw [isPagePath, List.isSuffixOf_iff_suffix] at h ⊢
  exact suffix_fileName (by decide) h

theorem isName_of_isPagePath {name : String} (h : isPagePath name = true) : IsName name := by
  refine ⟨?_, ?_, ?_⟩ <;> rintro rfl <;> exact absurd h (by decide)

theorem fileName_eq_of_spot {p q : String} (hp : IsName (fileName p)) (hq : IsName (fileName q))
    (h : w.spot (joinPath output p) = w.spot (joinPath output q)) : fileName p = fileName q := by
  have hlast := congrArg List.getLast? h
  rwa [spot_getLast? w output hp, spot_getLast? w output hq, Option.some.injEq] at hlast

section
variable {name : String} {ds : List Document} {s : Site} {files : List OutputFile}
  (hread : ∀ d ∈ ds, ∃ path text l m, d = Document.read path text l m)
  (hb : Site.build name ds = .ok s)
include hread hb

/-- The files have places of their own if and only if the pages do: the files beside them have other
names than pages. -/
theorem places_nodup_iff (h : SiteFiles s files) (w : World) (output : String) :
    ((files.map (·.path)).map fun p => w.spot (joinPath output p)).Nodup ↔ PagesApart w output s := by
  have hasset : ∀ a ∈ ["folio.css", "search.js", "search-index.json"],
      fileName a = a ∧ IsName (fileName a) ∧ isPagePath (fileName a) = false := by decide
  have hpage : ∀ p ∈ sitePages s, isPagePath (fileName p) = true :=
    fun p hp => isPagePath_fileName (isPagePath_of_mem_pages hread hb hp)
  have hmixed : ∀ p ∈ sitePages s,
      ∀ a ∈ ["folio.css", "search.js", "search-index.json"],
      w.spot (joinPath output p) ≠ w.spot (joinPath output a) := by
    intro p hp a ha he
    obtain ⟨-, hname, hno⟩ := hasset a ha
    rw [← fileName_eq_of_spot (isName_of_isPagePath (hpage p hp)) hname he, hpage p hp] at hno
    cases hno
  rw [List.nodup_map_iff_inj_on h.nodup]
  refine ⟨fun hinj p hp q hq => hinj p (h.mem_of_page hp) q (h.mem_of_page hq), ?_⟩
  intro hapart p hp q hq he
  rcases h.only p hp with hp | hp <;> rcases h.only q hq with hq | hq
  · exact hapart p hp q hq he
  · exact absurd he (hmixed p hp q hq)
  · exact absurd he.symm (hmixed q hq p hp)
  · obtain ⟨hp, hpname, -⟩ := hasset p hp
    obtain ⟨hq, hqname, -⟩ := hasset q hq
    rw [← hp, ← hq, fileName_eq_of_spot hpname hqname he]

theorem pagesApart_of_no_parent (hup : ∀ d ∈ ds, ".." ∉ segments d.source) (w : World)
    (output : String) : PagesApart w output s := by
  have hplain : ∀ p ∈ sitePages s, Plain p := by
    intro p hp
    rcases List.mem_cons.mp hp with rfl | hp
    · decide
    · obtain ⟨d, hd, rfl⟩ := List.mem_map.mp hp
      have hd := (Site.documents_perm hb).mem_iff.mp hd
      have hsource := hup d hd
      obtain ⟨path, text, l, m, rfl⟩ := hread d hd
      exact m.page_plain_of_normalize hsource
  intro p hp q hq he
  rw [spot_joinPath_plain w output (hplain p hp), spot_joinPath_plain w output (hplain q hq)] at he
  exact segments_injective (List.append_cancel_left he)

theorem mem_pages_iff (h : SiteFiles s files) {path : String} :
    path ∈ (files.map (·.path)).filter isPagePath ↔ path ∈ sitePages s := by
  rw [List.mem_filter]
  constructor
  · rintro ⟨hpath, hyes⟩
    refine (h.only path hpath).resolve_right fun hasset => ?_
    rw [← h.assetPaths] at hasset
    rw [asset_not_page hasset] at hyes
    cases hyes
  · exact fun hpath => ⟨h.mem_of_page hpath, isPagePath_of_mem_pages hread hb hpath⟩

/-- There are as many places as pages if and only if no two pages share one. -/
theorem places_count_iff (h : SiteFiles s files) (w : World) (output : String) :
    (((files.map (·.path)).filter isPagePath).map fun p => w.spot (joinPath output p)).dedup.length =
      pageCount s ↔ PagesApart w output s := by
  have hn := h.nodup.filter isPagePath
  rw [h.count, hn.dedup, ← List.length_map (fun p => w.spot (joinPath output p)),
    (List.dedup_sublist _).length_eq, List.dedup_eq_self, List.nodup_map_iff_inj_on hn]
  simp only [mem_pages_iff hread hb h]
  rfl

/-- Files that were written are all there if the places of the site are apart. -/
theorem read_of_pagesApart (h : SiteFiles s files) (hapart : PagesApart w output s)
    (hkeeps : Keeps w w') {written : List OutputFile} (hw : written <+: files.map (placed output))
    (hs : Stands w' written) {f : OutputFile} (hf : f ∈ written) : w'.read f.path = .ok f.text := by
  have hnodup : (written.map fun f => w'.spot f.path).Nodup := by
    have hall := (places_nodup_iff hread hb h w output).mpr hapart
    rw [List.map_map] at hall
    refine List.Nodup.sublist (hw.sublist.map _) ?_
    rw [List.map_map]
    simpa only [Function.comp_def, placed, hkeeps.spot] using hall
  obtain ⟨front, g, back, hsplit, hg, -, hread⟩ := hs.read hf
  have hsame : g = f := List.inj_on_of_nodup_map hnodup (by simp [hsplit]) hf hg
  rw [hread, hsame]

end

/-- A site is written without loss exactly as far as its pages have places of their own. No two files
of the site have the same path, so that a host that goes by paths never gets two of one. In a file
system all that is asked for is written, but for the last file if that is refused. There a path with
`..` may name the place of another: then the file that comes later is there and the other is not,
though both are counted. Nothing else is lost, and no such path comes from sources without `..`. -/
theorem written_files_stand {name : String} {ds : List Document} {s : Site}
    (hread : ∀ d ∈ ds, ∃ path text l m, d = Document.read path text l m)
    (hb : Site.build name ds = .ok s) : ∃ files : List OutputFile, SiteFiles s files ∧
    (∀ (σ : Type) (h : Host (StateM σ)) (output : String) (w : σ), ∃ done,
      writeSite (journaled h) output s ([], w) =
        ((writeSite h output s w).1, done, (writeSite h output s w).2) ∧
      done <+: files.map (placed output) ∧
      (∀ n, (writeSite h output s w).1 = .ok n →
        done = files.map (placed output) ∧ n = pageCount s) ∧
      (Willing h → (writeSite h output s w).1 = .ok (pageCount s))) ∧
    (∀ output, ((files.map (placed output)).map (·.path)).Nodup) ∧
    (∀ (w : World) (output : String), ∃ asked written,
      writeSite (journaled World.host) output s ([], w) =
        ((writeSite World.host output s w).1, asked, (writeSite World.host output s w).2) ∧
      written <+: asked ∧ asked.length ≤ written.length + 1 ∧
      (∀ n, (writeSite World.host output s w).1 = .ok n → written = files.map (placed output)) ∧
      (∀ f ∈ written, ∃ front g back, written = front ++ g :: back ∧
        w.spot g.path = w.spot f.path ∧ (∀ e ∈ back, w.spot e.path ≠ w.spot f.path) ∧
        (writeSite World.host output s w).2.read f.path = .ok g.text) ∧
      (PagesApart w output s →
        ∀ f ∈ written, (writeSite World.host output s w).2.read f.path = .ok f.text)) ∧
    (∀ (w : World) (output : String) (r : RealPath), w.realPath output = .ok r →
      w.root.isDirectory? r = some true → (∀ f ∈ files, Welcome w output f) →
      (writeSite World.host output s w).1 = .ok (pageCount s)) ∧
    (∀ (w : World) (output : String),
      (((files.map (·.path)).filter isPagePath).map fun p => w.spot (joinPath output p)).dedup.length =
        pageCount s ↔ PagesApart w output s) ∧
    ((∀ d ∈ ds, ".." ∉ segments d.source) → ∀ w output, PagesApart w output s) := by
  obtain ⟨files, hfiles, hsite⟩ := exists_siteFiles hread hb
  refine ⟨files, hsite, fun σ h => writeSite_requests hfiles h, fun output => ?_, fun w output => ?_,
    fun w output r hr hd => writeSite_ok_of_welcome hfiles hr hd, places_count_iff hread hb hsite,
    pagesApart_of_no_parent hread hb⟩
  · have hplaced := hsite.nodup.map (joinPath_injective output)
    rw [List.map_map] at hplaced ⊢
    exact hplaced
  · obtain ⟨hkeeps, hleft⟩ := writeSite_leaves hfiles w output
    obtain ⟨asked, written, hrun, hasked, hwritten, hlength, hall, hstands⟩ := hleft []
    rw [List.nil_append] at hrun hstands
    refine ⟨asked, written, hrun, hwritten, hlength, hall, fun f hf => ?_, fun hapart f hf =>
      read_of_pagesApart hread hb hsite hapart hkeeps (hwritten.trans hasked) hstands hf⟩
    simpa only [hkeeps.spot] using hstands.read hf

/-- The page of `x/../a.md` has the place of that of `a.md`: three pages are counted, and two are
there. -/
theorem written_files_stand_in_two_places : ∃ (s : Site) (w : World) (files : List OutputFile),
    Site.build "notes" [.read "a.md" "A" (.named "Text") {},
      .read "x/../a.md" "B" (.named "Text") {}] = .ok s ∧
    SiteFiles s files ∧ ¬ PagesApart w "doc" s ∧ (writeSite World.host "doc" s w).1 = .ok 3 ∧
    (((files.map (·.path)).filter isPagePath).map fun p => w.spot (joinPath "doc" p)).dedup.length =
      2 := by
  obtain ⟨s, hb⟩ : ∃ s, Site.build "notes" [.read "a.md" "A" (.named "Text") {},
      .read "x/../a.md" "B" (.named "Text") {}] = .ok s :=
    ⟨_, Site.build_eq_ok_iff.mpr ⟨by decide, by decide, rfl⟩⟩
  have hread : ∀ d ∈ [Document.read "a.md" "A" (.named "Text") {},
      .read "x/../a.md" "B" (.named "Text") {}], ∃ path text l m, d = Document.read path text l m :=
    List.forall_mem_cons.mpr ⟨⟨_, _, _, _, rfl⟩, List.forall_mem_singleton.mpr ⟨_, _, _, _, rfl⟩⟩
  have hpages : (s.documents.map (·.page)).Perm ["a.md.html", "x/../a.md.html"] :=
    ((Site.documents_perm hb).map _).trans (by decide)
  obtain ⟨files, hsite, -, -, -, hok, -⟩ := written_files_stand hread hb
  let w : World := ⟨.directory [("doc", .directory [("x", .directory [])])], []⟩
  have hthree : pageCount s = 3 := by
    rw [hsite.countNoIndex (by rw [hpages.mem_iff]; decide), Site.size,
      (Site.documents_perm hb).length_eq]
    rfl
  have hway : ∀ p ∈ ["index.html", "a.md.html", "x/../a.md.html", "folio.css", "search.js",
      "search-index.json"], isBad (joinPath "doc" p) = false ∧ IsName (fileName p) ∧
      w.follow (w.origin (joinPath "doc" p)) (segments (joinPath "doc" p)).dropLast = .ok ["doc"] ∧
      fileName (joinPath "doc" p) = fileName p ∧ w.root.isDirectory? ["doc", fileName p] = none ∧
      w.realPath (joinPath "doc" (Path.directory p)) = .ok ["doc"] := by
    simp only [List.forall_mem_cons]
    refine ⟨?_, ?_, ?_, ?_, ?_, ?_, by simp⟩ <;>
      exact ⟨by decide, by decide, rfl, by decide, rfl, rfl⟩
  have hroom : ∀ f ∈ files, Welcome w "doc" f := by
    intro f hf
    have hpath := hsite.only f.path (List.mem_map_of_mem hf)
    rw [sitePages, List.mem_cons, hpages.mem_iff, ← List.mem_cons, ← List.mem_append] at hpath
    obtain ⟨hgood, hname, hfollow, hlast, hfree, hmade⟩ := hway f.path hpath
    have hsegments := segments_eq_dropLast_append (joinPath "doc" f.path)
    rw [hlast] at hsegments
    exact ⟨["doc"], ⟨hgood, by simpa using hname, _, hsegments, hfollow⟩, rfl, by simp [hfree],
      fun _ => hmade⟩
  refine ⟨s, w, files, hb, hsite, ?_, ?_, ?_⟩
  · intro hapart
    have hsame := hapart "a.md.html" (List.mem_cons_of_mem _ (hpages.mem_iff.mpr (by decide)))
      "x/../a.md.html" (List.mem_cons_of_mem _ (hpages.mem_iff.mpr (by decide))) rfl
    exact absurd hsame (by decide)
  · rw [hok w "doc" ["doc"] rfl rfl hroom, hthree]
  · have hperm : ((files.map (·.path)).filter isPagePath).Perm
        ["index.html", "a.md.html", "x/../a.md.html"] := by
      refine (List.perm_ext_iff_of_nodup (hsite.nodup.filter _) (by decide)).mpr fun p => ?_
      rw [mem_pages_iff hread hb hsite, sitePages, List.mem_cons, hpages.mem_iff]
      exact (List.mem_cons).symm
    exact ((hperm.map _).dedup).length_eq.trans (by decide)

end Marginalia.Command
