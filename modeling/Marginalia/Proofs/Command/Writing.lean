import Marginalia.Command.Run
import Marginalia.Proofs.Page.Files

/-! What the command asks a host to write. Whatever the host answers, it is asked for files of the
site, one after the other, and no two of them have the same path. -/
namespace Marginalia.Command
open Files Page
set_option autoImplicit false

variable {σ α β : Type}

/-! ## Journals -/

/-- An action next to a journal that it leaves alone. -/
def beside (action : StateM σ α) : StateM (List OutputFile × σ) α := fun s =>
  ((action s.2).1, s.1, (action s.2).2)

/-- The host with a journal: files that it is asked to write are entered, whatever comes of it. -/
def journaled (h : Host (StateM σ)) : Host (StateM (List OutputFile × σ)) where
  realPath path := beside (h.realPath path)
  tree real := beside (h.tree real)
  read path := beside (h.read path)
  makeDirectories path := beside (h.makeDirectories path)
  write path text := fun s => beside (h.write path text) (s.1 ++ [⟨path, text⟩], s.2)

/-- A host that refuses nothing. -/
structure Willing (h : Host (StateM σ)) : Prop where
  makeDirectories : ∀ path w, (h.makeDirectories path w).1 = .ok ()
  write : ∀ path text w, (h.write path text w).1 = .ok ()

theorem bind_ok {x : ExceptT Failure (StateM σ) α} {f : α → ExceptT Failure (StateM σ) β}
    {w w' : σ} {a : α} (h : x w = (.ok a, w')) : (x >>= f) w = f a w' := by
  change (StateT.bind x (ExceptT.bindCont f)) w = _
  rw [StateT.bind, h]
  rfl

theorem bind_error {x : ExceptT Failure (StateM σ) α} {f : α → ExceptT Failure (StateM σ) β}
    {w w' : σ} {e : Failure} (h : x w = (.error e, w')) : (x >>= f) w = (.error e, w') := by
  change (StateT.bind x (ExceptT.bindCont f)) w = _
  rw [StateT.bind, h]
  rfl

/-- The second action does what the first does and enters the files into a journal, one after the
other: all of them unless it fails, which it does not if `willing`. -/
def Logs (willing : Prop) (x : ExceptT Failure (StateM σ) α)
    (y : ExceptT Failure (StateM (List OutputFile × σ)) α) (files : List OutputFile) : Prop :=
  ∀ journal w, ∃ done, y (journal, w) = ((x w).1, journal ++ done, (x w).2) ∧ done <+: files ∧
    (∀ a, (x w).1 = .ok a → done = files) ∧ (willing → ∃ a, (x w).1 = .ok a)

section
variable {willing : Prop} {x : ExceptT Failure (StateM σ) α}
  {y : ExceptT Failure (StateM (List OutputFile × σ)) α} {f : α → ExceptT Failure (StateM σ) β}
  {g : α → ExceptT Failure (StateM (List OutputFile × σ)) β} {first second : List OutputFile}

theorem logs_pure (a : α) : Logs willing (pure a : ExceptT Failure (StateM σ) α) (pure a) [] := by
  intro journal w
  refine ⟨[], ?_, List.prefix_rfl, fun _ _ => rfl, fun _ => ⟨a, rfl⟩⟩
  rw [List.append_nil]
  rfl

theorem Logs.bind (hx : Logs willing x y first) (hf : ∀ a, Logs willing (f a) (g a) second) :
    Logs willing (x >>= f) (y >>= g) (first ++ second) := by
  intro journal w
  obtain ⟨done, hy, hdone, hall, hwilling⟩ := hx journal w
  cases hr : x w with
  | mk r w' =>
    rw [hr] at hy hall hwilling
    cases r with
    | error e =>
      refine ⟨done, ?_, hdone.trans (List.prefix_append _ _), ?_, fun hw => ?_⟩
      · rw [bind_error hy, bind_error hr]
      · rw [bind_error hr]
        nofun
      · obtain ⟨a, ha⟩ := hwilling hw
        cases ha
    | ok a =>
      obtain rfl := hall a rfl
      obtain ⟨more, hg, hmore, hrest, hwilling'⟩ := hf a (journal ++ done) w'
      rw [bind_ok hy, bind_ok hr]
      refine ⟨done ++ more, ?_, ?_, ?_, hwilling'⟩
      · rw [hg, List.append_assoc]
      · exact (List.prefix_append_right_inj done).mpr hmore
      · intro b hb
        rw [hrest b hb]

end

/-! ## Requests -/

/-- What is asked of a host, with what is said if it refuses. -/
def request {m : Type → Type} [Monad m] (message : String) (action : m (Except FileError Unit)) :
    ExceptT Failure m Unit :=
  liftM action >>= expectFile message

theorem logs_request {willing : Prop} (message : String) {a : StateM σ (Except FileError Unit)}
    {b : StateM (List OutputFile × σ) (Except FileError Unit)} {added : List OutputFile}
    (hb : ∀ journal w, b (journal, w) = ((a w).1, journal ++ added, (a w).2))
    (hw : willing → ∀ w, (a w).1 = .ok ()) :
    Logs willing (request message a) (request message b) added := by
  intro journal w
  have ha : request message a w = expectFile (m := StateM σ) message (a w).1 (a w).2 := bind_ok rfl
  have hrun : request message b (journal, w) = expectFile (m := StateM (List OutputFile × σ)) message
      (b (journal, w)).1 (b (journal, w)).2 := bind_ok rfl
  rw [ha, hrun, hb]
  refine ⟨added, ?_, List.prefix_rfl, fun _ _ => rfl, fun h => ?_⟩
  · cases (a w).1 with
    | ok u => rfl
    | error e => rfl
  · rw [hw h w]
    exact ⟨(), rfl⟩

section
variable (h : Host (StateM σ))

theorem logs_makeDirectories (message path : String) :
    Logs (Willing h) (request message (h.makeDirectories path))
      (request message ((journaled h).makeDirectories path)) [] :=
  logs_request message (fun journal w => by rw [List.append_nil]; rfl)
    fun hw => hw.makeDirectories path

theorem logs_write (message path text : String) :
    Logs (Willing h) (request message (h.write path text))
      (request message ((journaled h).write path text)) [⟨path, text⟩] :=
  logs_request message (fun _ _ => rfl) fun hw => hw.write path text

end

/-! ## Files and sites -/

section
variable {m : Type → Type} [Monad m] [LawfulMonad m] (h : Host m)

theorem writeFile_eq (output : String) (f : OutputFile) :
    writeFile h output f =
      (if Path.directory f.path ≠ "" then
        request ("Failed to create directory '" ++ joinPath output (Path.directory f.path) ++ "'")
          (h.makeDirectories (joinPath output (Path.directory f.path)))
      else pure ()) >>= fun _ =>
        request ("Failed to write '" ++ joinPath output f.path ++ "'")
          (h.write (joinPath output f.path) f.text) := by
  unfold writeFile request
  by_cases hd : Path.directory f.path = ""
  · simp only [hd, ne_eq, not_true_eq_false, if_false, pure_bind]
  · simp only [hd, ne_eq, not_false_eq_true, if_true, bind_assoc]

theorem writeSite_eq (output : String) {s : Site} {files : List OutputFile}
    (hf : outputFiles plainHighlighter s = .ok files) :
    writeSite h output s =
      (request ("Failed to create output directory '" ++ output ++ "'") (h.makeDirectories output) >>=
        fun _ => files.forM (writeFile h output)) >>= fun _ => pure (pageCount s) := by
  unfold writeSite request
  rw [hf]
  simp only [expect, bind_assoc, pure_bind]

end

/-- A file of the site where it is written. -/
def placed (output : String) (f : OutputFile) : OutputFile :=
  ⟨joinPath output f.path, f.text⟩

section
variable (h : Host (StateM σ)) (output : String)

theorem logs_writeFile (f : OutputFile) :
    Logs (Willing h) (writeFile h output f) (writeFile (journaled h) output f)
      [placed output f] := by
  rw [writeFile_eq, writeFile_eq]
  by_cases hd : Path.directory f.path ≠ ""
  · rw [if_pos hd, if_pos hd]
    exact (logs_makeDirectories h _ _).bind fun _ => logs_write h _ _ _
  · rw [if_neg hd, if_neg hd]
    exact (logs_pure ()).bind fun _ => logs_write h _ _ _

theorem logs_writeFiles (files : List OutputFile) :
    Logs (Willing h) (files.forM (writeFile h output)) (files.forM (writeFile (journaled h) output))
      (files.map (placed output)) := by
  induction files with
  | nil => exact logs_pure ()
  | cons f files ih => exact (logs_writeFile h output f).bind fun _ => ih

theorem logs_writeSite {s : Site} {files : List OutputFile}
    (hf : outputFiles plainHighlighter s = .ok files) :
    Logs (Willing h) (writeSite h output s) (writeSite (journaled h) output s)
      (files.map (placed output)) := by
  have hall := (logs_makeDirectories h ("Failed to create output directory '" ++ output ++ "'")
    output).bind fun _ => logs_writeFiles h output files
  rw [writeSite_eq h output hf, writeSite_eq (journaled h) output hf,
    ← List.append_nil (files.map (placed output))]
  exact hall.bind fun _ => logs_pure _

theorem writeSite_result {s : Site} {files : List OutputFile}
    (hf : outputFiles plainHighlighter s = .ok files) {w : σ} {n : Nat}
    (hn : (writeSite h output s w).1 = .ok n) : n = pageCount s := by
  rw [writeSite_eq h output hf] at hn
  cases hr : (request ("Failed to create output directory '" ++ output ++ "'")
      (h.makeDirectories output) >>= fun _ => files.forM (writeFile h output)) w with
  | mk r w' =>
    cases r with
    | error e =>
      rw [bind_error hr] at hn
      cases hn
    | ok u =>
      rw [bind_ok hr] at hn
      cases hn
      rfl

theorem joinPath_injective : Function.Injective (joinPath output) := by
  intro a b hab
  rw [joinPath, joinPath] at hab
  split at hab
  · exact String.toList_inj.mp (by simpa using congrArg String.toList hab)
  · exact String.toList_inj.mp (by simpa using congrArg String.toList hab)

end

/-- Whatever the host answers, it is asked for the files in order, and for all of them unless one is
refused. -/
theorem writeSite_requests {s : Site} {files : List OutputFile}
    (hf : outputFiles plainHighlighter s = .ok files) (h : Host (StateM σ)) (output : String)
    (w : σ) : ∃ done, writeSite (journaled h) output s ([], w) =
        ((writeSite h output s w).1, done, (writeSite h output s w).2) ∧
      done <+: files.map (placed output) ∧
      (∀ n, (writeSite h output s w).1 = .ok n →
        done = files.map (placed output) ∧ n = pageCount s) ∧
      (Willing h → (writeSite h output s w).1 = .ok (pageCount s)) := by
  obtain ⟨done, hrun, hstart, hall, hwilling⟩ := logs_writeSite h output hf [] w
  refine ⟨done, hrun, hstart, fun n hn => ⟨hall n hn, writeSite_result h output hf hn⟩, ?_⟩
  intro hw
  obtain ⟨n, hn⟩ := hwilling hw
  rw [hn, writeSite_result h output hf hn]

/-! ## The files of a site -/

/-- The paths of the pages of a site. -/
def sitePages (s : Site) : List String :=
  indexPage :: s.documents.map (·.page)

/-- The files are the page of each document, the index page and the files beside them, and nothing
else. No two of them have the same path, and the pages among them are as many as are counted. -/
structure SiteFiles (s : Site) (files : List OutputFile) : Prop where
  page : ∀ d ∈ s.documents, d.page ≠ indexPage →
    ∃ html, document plainHighlighter s d = .ok html ∧ ⟨d.page, html⟩ ∈ files
  index : ⟨indexPage, index plainHighlighter s⟩ ∈ files
  asset : ∀ a ∈ assets s, ⟨a.path, a.contents⟩ ∈ files
  only : ∀ path ∈ files.map (·.path), path ∈ sitePages s ∨
    path ∈ ["folio.css", "search.js", "search-index.json"]
  assetPaths : (assets s).map (·.path) = ["folio.css", "search.js", "search-index.json"]
  assetApart : ∀ a ∈ assets s, a.path ∉ sitePages s
  nodup : (files.map (·.path)).Nodup
  count : pageCount s = ((files.map (·.path)).filter isPagePath).dedup.length
  countIndex : indexPage ∈ s.documents.map (·.page) → pageCount s = s.size
  countNoIndex : indexPage ∉ s.documents.map (·.page) → pageCount s = s.size + 1

theorem SiteFiles.mem_of_page {s : Site} {files : List OutputFile} (h : SiteFiles s files)
    {path : String} (hp : path ∈ sitePages s) :
    path ∈ files.map (·.path) := by
  rcases List.mem_cons.mp hp with rfl | hp
  · exact List.mem_map_of_mem h.index
  · obtain ⟨d, hd, rfl⟩ := List.mem_map.mp hp
    by_cases hi : d.page = indexPage
    · rw [hi]
      exact List.mem_map_of_mem h.index
    · obtain ⟨html, -, hfile⟩ := h.page d hd hi
      exact List.mem_map_of_mem hfile

section
variable {name : String} {ds : List Document} {s : Site}
  (hread : ∀ d ∈ ds, ∃ path text l m, d = Document.read path text l m)
  (hb : Site.build name ds = .ok s)
include hread hb

theorem isPagePath_of_mem_pages {path : String} (h : path ∈ sitePages s) :
    isPagePath path = true := by
  rcases List.mem_cons.mp h with rfl | h
  · decide
  · obtain ⟨d, hd, rfl⟩ := List.mem_map.mp h
    obtain ⟨path, text, l, m, rfl⟩ := hread d ((Site.documents_perm hb).mem_iff.mp hd)
    exact isPagePath_page m _

theorem exists_siteFiles :
    ∃ files, outputFiles plainHighlighter s = .ok files ∧ SiteFiles s files := by
  have hpages : ∀ path ∈ sitePages s, isPagePath path = true :=
    fun path => isPagePath_of_mem_pages hread hb
  have hpage : ∀ d ∈ s.documents, isPagePath d.page = true := fun d hd =>
    hpages _ (List.mem_cons_of_mem _ (List.mem_map_of_mem hd))
  obtain ⟨html, hhtml, hfiles⟩ := outputFiles_eq hb plainHighlighter
  have hnodup := filesWith_nodup hpage hb plainHighlighter html
  refine ⟨filesWith plainHighlighter s html, hfiles,
    { page := fun d hd hp => ⟨html d, hhtml d hd, mem_filesWith_own plainHighlighter hd hp⟩
      index := mem_filesWith_index plainHighlighter s html
      asset := fun a ha => List.mem_append_right _ (List.mem_map_of_mem ha)
      only := fun path hpath => ?_
      assetPaths := asset_paths s
      assetApart := fun a ha hmem => ?_
      nodup := hnodup
      count := ?_
      countIndex := pageCount_of_index hb
      countNoIndex := pageCount_of_no_index }⟩
  · rw [filesWith_paths, asset_paths, List.mem_append, List.mem_append, List.mem_singleton] at hpath
    refine hpath.imp_left fun hown => ?_
    rcases hown with hown | rfl
    · obtain ⟨d, hd, rfl⟩ := List.mem_map.mp hown
      exact List.mem_cons_of_mem _ (List.mem_map_of_mem (List.mem_of_mem_filter hd))
    · exact List.mem_cons_self ..
  · have hno := asset_not_page (List.mem_map_of_mem (f := (·.path)) ha)
    rw [hpages _ hmem] at hno
    cases hno
  · rw [(hnodup.filter isPagePath).dedup]
    exact (filesWith_pages_length hpage plainHighlighter html).symm

end

end Marginalia.Command
