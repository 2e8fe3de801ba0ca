import Marginalia.Proofs.Command.Writing
import Marginalia.Proofs.Document.PagePath
import Marginalia.Proofs.Files.Make
import Mathlib.Data.List.Pairwise

/-! The files of a site in a file system. A file takes its place in the output directory unless a file
stands on the way to it or a directory in its place; so a site takes its place in an empty directory
exactly if none of its files lies below another. -/
namespace Marginalia.Command
open Files Page Marginalia.Path FileTree World
set_option autoImplicit false

variable {w w' : World} {r : RealPath} {output : String}

/-! ## One file -/

theorem request_run {σ : Type} (message : String) (action : StateM σ (Except FileError Unit)) (s : σ) :
    request message action s = expectFile (m := StateM σ) message (action s).1 (action s).2 :=
  bind_ok rfl

theorem request_act_ok {f : World → Except FileError World} (message : String) (h : f w = .ok w') :
    request message (act f) w = (.ok (), w') := by
  have hrun : (act f).run w = pure (.ok (), w') := by simp [act, h]
  have hact : act f w = (.ok (), w') := hrun
  rw [request_run, hact]
  rfl

theorem request_act_error {f : World → Except FileError World} (message : String) {e : FileError}
    (h : f w = .error e) : ∃ failure, request message (act f) w = (.error failure, w) := by
  have hrun : (act f).run w = pure (.error e, w) := by simp [act, h]
  have hact : act f w = (.error e, w) := hrun
  rw [request_run, hact]
  exact ⟨_, rfl⟩

/-- The second file system is the first with a file in its place. -/
structure Placed (w w' : World) (file : RealPath) : Prop where
  keeps : Keeps w w'
  sound : w.root.Sound → w'.root.Sound
  seen : ∀ x, w'.root.isDirectory? x =
    if x = file then some false else if x <+: file then some true else w.root.isDirectory? x

/-- Is there room for a file: no file on the way and no directory in its place? -/
def Room (w : World) (r : RealPath) (names : List String) : Prop :=
  (∀ front, front <+: names.dropLast → w.root.isDirectory? (r ++ front) ≠ some false) ∧
    w.root.isDirectory? (r ++ names) ≠ some true

/-- What is done before a file is written: its directory is made. -/
def prepare (output : String) (f : OutputFile) : ExceptT Failure (StateM World) Unit :=
  if Path.directory f.path ≠ "" then
    request ("Failed to create directory '" ++ joinPath output (Path.directory f.path) ++ "'")
      (World.host.makeDirectories (joinPath output (Path.directory f.path)))
  else pure ()

section
variable {f : OutputFile} (hr : w.realPath output = .ok r)
  (hd : w.root.isDirectory? r = some true) (hplain : Plain f.path) (hbad : isBad f.path = false)
include hr hplain hbad

theorem along_directory (hne : (segments f.path).dropLast ≠ []) :
    Path.directory f.path ≠ "" ∧
      Along w (joinPath output (Path.directory f.path)) r (segments f.path).dropLast := by
  have hseg : segments (Path.directory f.path) = (segments f.path).dropLast :=
    segments_ofSegments hne fun s hs => slash_not_mem_segment (List.dropLast_subset _ hs)
  have hdir : Plain (Path.directory f.path) := fun s hs => hplain.of_dropLast (hseg ▸ hs)
  refine ⟨fun he => (hdir "" ?_).1 rfl, hseg ▸ along_joinPath hr hdir ?_⟩
  · rw [he]
    exact List.mem_cons_self ..
  · rw [not_isBad_iff] at hbad ⊢
    intro hc
    rcases mem_ofSegments hc with hc | ⟨s, hs, hc⟩
    · cases hc
    · exact hbad (mem_of_mem_segment (List.dropLast_subset _ hs) hc)

include hd

theorem prepare_ok
    (hfree : ∀ front, front <+: (segments f.path).dropLast →
      w.root.isDirectory? (r ++ front) ≠ some false) :
    ∃ w', prepare output f w = (.ok (), w') ∧ Grows w w' ∧ ∀ x, w'.root.isDirectory? x =
      if x <+: r ++ (segments f.path).dropLast then some true else w.root.isDirectory? x := by
  rw [prepare]
  obtain hnil | ⟨names, name, hnames⟩ := List.eq_nil_or_concat' (segments f.path).dropLast
  · have he : Path.directory f.path = "" := by rw [Path.directory, hnil]; rfl
    rw [if_neg (by simpa using he), hnil, List.append_nil]
    exact ⟨w, rfl, .refl w, seen_on_way hd⟩
  · obtain ⟨hne, halong⟩ := along_directory hr hplain hbad (by rw [hnames]; simp)
    rw [hnames] at halong hfree ⊢
    obtain ⟨w', hmake, hview⟩ := halong.makeDirectories_ok hd hfree
    rw [if_pos hne]
    exact ⟨w', request_act_ok _ hmake, makeDirectories_grows hmake, hview⟩

theorem prepare_error {front : List String} (hfront : front <+: (segments f.path).dropLast)
    (hfile : w.root.isDirectory? (r ++ front) = some false) :
    ∃ failure, prepare output f w = (.error failure, w) := by
  rw [prepare]
  obtain hnil | ⟨names, name, hnames⟩ := List.eq_nil_or_concat' (segments f.path).dropLast
  · rw [hnil, List.prefix_nil] at hfront
    rw [hfront, List.append_nil, hd] at hfile
    cases hfile
  · obtain ⟨hne, halong⟩ := along_directory hr hplain hbad (by rw [hnames]; simp)
    rw [hnames] at halong hfront
    obtain ⟨e, he⟩ := halong.makeDirectories_error hfront hfile
    rw [if_pos hne]
    exact request_act_error _ he

theorem writeFile_ok (hroom : Room w r (segments f.path)) :
    ∃ w', writeFile World.host output f w = (.ok (), w') ∧ Placed w w' (r ++ segments f.path) := by
  obtain ⟨w₁, hprepare, hgrows, hview⟩ := prepare_ok hr hd hplain hbad hroom.1
  have halong := along_joinPath (hgrows.toKeeps.realPath hr) hplain hbad
  have hsplit := segments_eq_dropLast_append f.path
  have hfree := hroom.2
  generalize hds : (segments f.path).dropLast = ds at hview hsplit
  rw [hsplit, ← List.append_assoc] at hfree
  rw [hsplit] at halong
  have hdir : w₁.root.isDirectory? (r ++ ds) = some true := by
    rw [hview, if_pos List.prefix_rfl]
  have hthere : w₁.root.isDirectory? (r ++ ds ++ [fileName f.path]) ≠ some true := by
    rw [hview, if_neg fun hx => absurd hx.length_le (by simp)]
    exact hfree
  have hfile : ∀ x, (w₁.root.insert (r ++ ds ++ [fileName f.path])
      (.file f.text.toUTF8)).isDirectory? x =
        if x = r ++ ds ++ [fileName f.path] then some false else w₁.root.isDirectory? x :=
    isDirectory?_insert hdir hthere rfl
  refine ⟨{ w₁ with root := w₁.root.insert (r ++ ds ++ [fileName f.path]) (.file f.text.toUTF8) }, ?_,
    hgrows.toKeeps.trans (keeps_insert_file hdir hthere _), fun hw => ?_, fun x => ?_⟩
  · rw [writeFile_eq, ← prepare, bind_ok hprepare]
    exact request_act_ok _ (halong.write_ok hdir hthere f.text)
  · exact sound_insert (hgrows.sound hw) (.file _) hdir (halong.entryNames (fileName f.path) (by simp))
  · rw [hfile, hview, hsplit, ← List.append_assoc]
    by_cases hx : x = r ++ ds ++ [fileName f.path]
    · rw [if_pos hx, if_pos hx]
    · rw [if_neg hx, if_neg hx]
      simp only [List.prefix_concat_iff, hx, false_or]

theorem writeFile_error (hroom : ¬ Room w r (segments f.path)) :
    ∃ failure w', writeFile World.host output f w = (.error failure, w') ∧ Keeps w w' := by
  rw [writeFile_eq, ← prepare]
  by_cases hfree : ∀ front, front <+: (segments f.path).dropLast →
      w.root.isDirectory? (r ++ front) ≠ some false
  · obtain ⟨w₁, hprepare, hgrows, -⟩ := prepare_ok hr hd hplain hbad hfree
    have hthere : w.root.isDirectory? (r ++ segments f.path) = some true := by
      by_contra hno
      exact hroom ⟨hfree, hno⟩
    have halong := along_joinPath (hgrows.toKeeps.realPath hr) hplain hbad
    have hthere := hgrows.seen _ _ hthere
    rw [segments_eq_dropLast_append] at halong hthere
    rw [← List.append_assoc] at hthere
    obtain ⟨failure, hfail⟩ := request_act_error (f := (·.write (joinPath output f.path) f.text))
      ("Failed to write '" ++ joinPath output f.path ++ "'") (halong.write_error hthere f.text)
    exact ⟨failure, w₁, by rw [bind_ok hprepare]; exact hfail, hgrows.toKeeps⟩
  · obtain ⟨front, hfront, hfile⟩ : ∃ front, front <+: (segments f.path).dropLast ∧
        w.root.isDirectory? (r ++ front) = some false := by
      by_contra hno
      exact hfree fun front hfront hfile => hno ⟨front, hfront, hfile⟩
    obtain ⟨failure, hfail⟩ := prepare_error hr hd hplain hbad hfront hfile
    exact ⟨failure, w, bind_error hfail, .refl w⟩

end

/-! ## All files -/

/-- Neither path leads to the other or below it. -/
def Apart (a b : List String) : Prop :=
  ¬ a <+: b ∧ ¬ b <+: a

theorem Apart.symm {a b : List String} (h : Apart a b) : Apart b a :=
  ⟨h.2, h.1⟩

/-- Below the directory stand the files at the given places, and the directories that they need. -/
structure Filled (w : World) (r : RealPath) (places : List (List String)) : Prop where
  file : ∀ names, w.root.isDirectory? (r ++ names) = some false ↔ names ∈ places
  directory : ∀ names, w.root.isDirectory? (r ++ names) = some true ↔
    names = [] ∨ ∃ p ∈ places, names <+: p ∧ names ≠ p

theorem Filled.root {places : List (List String)} (h : Filled w r places) :
    w.root.isDirectory? r = some true := by
  rw [← List.append_nil r]
  exact (h.directory []).mpr (.inl rfl)

theorem filled_nil (h : w.root.at? r = some (.directory [])) : Filled w r [] := by
  have hview : ∀ names, w.root.isDirectory? (r ++ names) =
      if names = [] then some true else none := by
    intro names
    rw [isDirectory?_append, h, Option.bind_some]
    cases names with
    | nil => rfl
    | cons n names => rfl
  refine ⟨fun names => ?_, fun names => ?_⟩ <;> rw [hview] <;> split_ifs with hn <;> simp [hn]

theorem Filled.room_iff {places : List (List String)} (h : Filled w r places) {names : List String}
    (hne : names ≠ []) (hnew : names ∉ places) :
    Room w r names ↔ ∀ p ∈ places, Apart p names := by
  have hlast : names = names.dropLast ++ [names.getLast hne] :=
    (List.dropLast_append_getLast hne).symm
  constructor
  · rintro ⟨hfree, hplace⟩ p hp
    refine ⟨fun hpre => ?_, fun hpre => ?_⟩
    · rw [hlast, List.prefix_concat_iff, ← hlast] at hpre
      rcases hpre with rfl | hpre
      · exact hnew hp
      · exact hfree p hpre ((h.file p).mpr hp)
    · exact hplace ((h.directory names).mpr (.inr ⟨p, hp, hpre, fun he => hnew (he ▸ hp)⟩))
  · intro hapart
    refine ⟨fun front hfront hfile => ?_, fun hplace => ?_⟩
    · exact (hapart front ((h.file front).mp hfile)).1 (hfront.trans (List.dropLast_prefix names))
    · rcases (h.directory names).mp hplace with hnil | ⟨p, hp, hpre, -⟩
      · exact hne hnil
      · exact (hapart p hp).2 hpre

theorem Filled.placed {places : List (List String)} (h : Filled w r places) {names : List String}
    (hne : names ≠ []) (hapart : ∀ p ∈ places, Apart p names) (hw : Placed w w' (r ++ names)) :
    Filled w' r (names :: places) := by
  have hview : ∀ x, w'.root.isDirectory? (r ++ x) =
      if x = names then some false else if x <+: names then some true
      else w.root.isDirectory? (r ++ x) := by
    intro x
    rw [hw.seen]
    simp only [List.append_cancel_left_eq, List.prefix_append_right_inj]
  refine ⟨fun x => ?_, fun x => ?_⟩
  · rw [hview, List.mem_cons]
    by_cases hx : x = names
    · simp [hx]
    · by_cases hpre : x <+: names
      · have hno : x ∉ places := fun hp => (hapart x hp).1 hpre
        simp [hx, hpre, hno]
      · rw [if_neg hx, if_neg hpre, h.file]
        simp [hx]
  · simp only [hview, List.mem_cons, exists_eq_or_imp]
    by_cases hx : x = names
    · subst hx
      have hno : ¬ ∃ p ∈ places, x <+: p ∧ x ≠ p := fun ⟨p, hp, hpre, _⟩ => (hapart p hp).2 hpre
      simp [hne, hno]
    · by_cases hpre : x <+: names
      · simp [hx, hpre]
      · rw [if_neg hx, if_neg hpre, h.directory]
        simp [hpre]

theorem writeFiles_cons (output : String) (f : OutputFile) (files : List OutputFile) :
    (f :: files).forM (writeFile World.host output) =
      writeFile World.host output f >>= fun _ => files.forM (writeFile World.host output) := rfl

section
variable {files : List OutputFile} (hplain : ∀ f ∈ files, Plain f.path)
  (hbad : ∀ f ∈ files, isBad f.path = false)
include hplain hbad

/-- Files take their places one after the other exactly if they are apart from each other and from
what is there. -/
theorem writeFiles_ok_iff {places : List (List String)} (hr : w.realPath output = .ok r)
    (h : Filled w r places) (hnew : ∀ f ∈ files, segments f.path ∉ places)
    (hnodup : (files.map (·.path)).Nodup) :
    (files.forM (writeFile World.host output) w).1 = .ok () ↔
      files.Pairwise (fun f g => Apart (segments f.path) (segments g.path)) ∧
        ∀ f ∈ files, ∀ p ∈ places, Apart p (segments f.path) := by
  induction files generalizing w places with
  | nil => exact iff_of_true rfl ⟨.nil, by simp⟩
  | cons f files ih =>
    obtain ⟨hplainf, hplain⟩ := List.forall_mem_cons.mp hplain
    obtain ⟨hbadf, hbad⟩ := List.forall_mem_cons.mp hbad
    obtain ⟨hnewf, hnew⟩ := List.forall_mem_cons.mp hnew
    rw [List.map_cons, List.nodup_cons] at hnodup
    have hroom := h.room_iff (segments_ne_nil f.path) hnewf
    rw [writeFiles_cons, List.pairwise_cons, List.forall_mem_cons]
    by_cases hf : Room w r (segments f.path)
    · obtain ⟨w', hwrite, hplaced⟩ := writeFile_ok hr h.root hplainf hbadf hf
      have hfilled := h.placed (segments_ne_nil f.path) (hroom.mp hf) hplaced
      rw [bind_ok hwrite, ih hplain hbad (hplaced.keeps.realPath hr) hfilled ?_ hnodup.2]
      · constructor
        · rintro ⟨hpairs, hall⟩
          exact ⟨⟨fun g hg => (hall g hg _ (List.mem_cons_self ..)), hpairs⟩, hroom.mp hf,
            fun g hg p hp => hall g hg p (List.mem_cons_of_mem _ hp)⟩
        · rintro ⟨⟨hfirst, hpairs⟩, -, hall⟩
          exact ⟨hpairs, fun g hg => List.forall_mem_cons.mpr ⟨hfirst g hg, hall g hg⟩⟩
      · intro g hg hmem
        rcases List.mem_cons.mp hmem with he | hmem
        · exact hnodup.1 (List.mem_map.mpr ⟨g, hg, segments_injective he⟩)
        · exact hnew g hg hmem
    · obtain ⟨failure, w', hwrite, -⟩ := writeFile_error hr h.root hplainf hbadf hf
      rw [bind_error hwrite]
      exact ⟨nofun, fun hall => absurd (hroom.mpr hall.2.1) hf⟩

theorem writeFiles_keeps (hr : w.realPath output = .ok r)
    (hd : w.root.isDirectory? r = some true) :
    Keeps w (files.forM (writeFile World.host output) w).2 := by
  induction files generalizing w with
  | nil => exact .refl w
  | cons f files ih =>
    obtain ⟨hplainf, hplain⟩ := List.forall_mem_cons.mp hplain
    obtain ⟨hbadf, hbad⟩ := List.forall_mem_cons.mp hbad
    rw [writeFiles_cons]
    by_cases hf : Room w r (segments f.path)
    · obtain ⟨w', hwrite, hplaced⟩ := writeFile_ok hr hd hplainf hbadf hf
      rw [bind_ok hwrite]
      exact hplaced.keeps.trans
        (ih hplain hbad (hplaced.keeps.realPath hr) (hplaced.keeps.seen _ _ hd))
    · obtain ⟨failure, w', hwrite, hkeeps⟩ := writeFile_error hr hd hplainf hbadf hf
      rw [bind_error hwrite]
      exact hkeeps

end

/-- The first of several files is there in the end, even if another has no room. -/
theorem writeFiles_leaves {f : OutputFile} {files : List OutputFile}
    (hgood : ∀ g ∈ f :: files, Plain g.path ∧ isBad g.path = false)
    (hr : w.realPath output = .ok r) (h : Filled w r []) :
    w.root.isDirectory? (r ++ segments f.path) = none ∧
    ((f :: files).forM (writeFile World.host output) w).2.root.isDirectory? (r ++ segments f.path) =
      some false := by
  obtain ⟨hf, hgood⟩ := List.forall_mem_cons.mp hgood
  have hroom := (h.room_iff (segments_ne_nil f.path) (by simp)).mpr (by simp)
  obtain ⟨w', hwrite, hplaced⟩ := writeFile_ok hr h.root hf.1 hf.2 hroom
  refine ⟨?_, ?_⟩
  · have hfile := h.file (segments f.path)
    have hdir := h.directory (segments f.path)
    rcases hview : w.root.isDirectory? (r ++ segments f.path) with - | ⟨- | -⟩
    · rfl
    · exact absurd (hfile.mp hview) (by simp)
    · exact absurd (hdir.mp hview) (by simp [segments_ne_nil])
  · rw [writeFiles_cons, bind_ok hwrite]
    refine (writeFiles_keeps (fun g hg => (hgood g hg).1) (fun g hg => (hgood g hg).2)
      (hplaced.keeps.realPath hr) (hplaced.keeps.seen _ _ h.root)).seen _ _ ?_
    rw [hplaced.seen, if_pos rfl]

theorem pairwise_apart_iff {files : List OutputFile} (hnodup : (files.map (·.path)).Nodup) :
    files.Pairwise (fun f g => Apart (segments f.path) (segments g.path)) ↔
      ∀ p ∈ files.map (·.path), ∀ q ∈ files.map (·.path), ¬ (p ++ "/").toList <+: q.toList := by
  have hmap := List.pairwise_map (f := OutputFile.path) (l := files)
    (R := fun p q => Apart (segments p) (segments q))
  rw [← hmap]
  have : Std.Symm fun p q => Apart (segments p) (segments q) := ⟨fun _ _ h => h.symm⟩
  constructor
  · intro hpairs p hp q hq hbelow
    obtain ⟨hpre, hne⟩ := slash_below_iff.mp hbelow
    exact (hpairs.forall hp hq hne).1 hpre
  · intro hno
    refine hnodup.pairwise_of_forall_ne fun p hp q hq hne => ⟨fun hpre => ?_, fun hpre => ?_⟩
    · exact hno p hp q hq (slash_below_iff.mpr ⟨hpre, hne⟩)
    · exact hno q hq p hp (slash_below_iff.mpr ⟨hpre, hne.symm⟩)

/-! ## Sites -/

/-- The paths of all files of a site. -/
def sitePaths (s : Site) : List String :=
  s.documents.map (·.page) ++ [indexPage, "folio.css", "search.js", "search-index.json"]

theorem mem_filesWith_iff {s : Site} (html : Document → String) {path : String} :
    path ∈ (filesWith plainHighlighter s html).map (·.path) ↔ path ∈ sitePaths s := by
  rw [filesWith_paths, asset_paths, sitePaths, List.append_assoc, List.singleton_append,
    List.mem_append, List.mem_append]
  constructor
  · refine Or.imp_left fun h => ?_
    obtain ⟨d, hd, rfl⟩ := List.mem_map.mp h
    exact List.mem_map_of_mem (List.mem_of_mem_filter hd)
  · rintro (h | h)
    · obtain ⟨d, hd, rfl⟩ := List.mem_map.mp h
      by_cases hp : d.page = indexPage
      · exact .inr (by rw [hp]; exact List.mem_cons_self ..)
      · exact .inl (List.mem_map_of_mem (List.mem_filter.mpr ⟨hd, by simpa using hp⟩))
    · exact .inr h

theorem map_const_cases {ε α : Type} (result : Except ε Unit) (a : α) :
    (result = .ok () ∧ (result.map fun _ => a) = .ok a) ∨
      ∃ e, result ≠ .ok () ∧ (result.map fun _ => a) = .error e := by
  cases result with
  | error e => exact .inr ⟨e, nofun, rfl⟩
  | ok u => exact .inl ⟨rfl, rfl⟩

theorem writeSite_run {s : Site} {files : List OutputFile}
    (hf : outputFiles plainHighlighter s = .ok files) (hr : w.realPath output = .ok r)
    (hd : w.root.isDirectory? r = some true) :
    writeSite World.host output s w =
      ((files.forM (writeFile World.host output) w).1.map fun _ => pageCount s,
        (files.forM (writeFile World.host output) w).2) := by
  have hmake := request_act_ok (f := (·.makeDirectories output))
    ("Failed to create output directory '" ++ output ++ "'") (makeDirectories_of_directory hr hd)
  rw [writeSite_eq World.host output hf, bind_assoc]
  refine (bind_ok hmake).trans ?_
  cases hrun : files.forM (writeFile World.host output) w with
  | mk result w' =>
    cases result with
    | error e => exact bind_error hrun
    | ok u => exact bind_ok hrun

/-- A site is written into an empty directory exactly if none of its files lies below another; if one
does, writing fails with files left behind. A site that could be built is not safe from this: no two
of its pages have the same path, but one may lie below another or below a file beside them. -/
theorem writeSite_ok_iff_apart {name : String} {ds : List Document} {s : Site}
    (hread : ∀ d ∈ ds, ∃ path text l m, d = Document.read path text l m ∧
      ".." ∉ segments (normalize path))
    (hnul : ∀ d ∈ ds, '\x00' ∉ d.page.toList) (hb : Site.build name ds = .ok s)
    (hr : w.realPath output = .ok r) (hempty : w.root.at? r = some (.directory [])) :
    ((writeSite World.host output s w).1 = .ok (pageCount s) ↔
      ∀ p ∈ sitePaths s, ∀ q ∈ sitePaths s, ¬ (p ++ "/").toList <+: q.toList) ∧
    ((writeSite World.host output s w).1 ≠ .ok (pageCount s) →
      (∃ failure, (writeSite World.host output s w).1 = .error failure) ∧
      ∃ x bytes, w.root.at? x = none ∧
        (writeSite World.host output s w).2.root.at? x = some (.file bytes)) := by
  have hfilled := filled_nil hempty
  have hpage : ∀ d ∈ s.documents, isPagePath d.page = true ∧ Plain d.page ∧ isBad d.page = false := by
    intro d hd
    have hd := (Site.documents_perm hb).mem_iff.mp hd
    have hnul := not_isBad_iff.mpr (hnul d hd)
    obtain ⟨path, text, l, m, rfl, hup⟩ := hread d hd
    exact ⟨isPagePath_page m _, m.page_plain_of_normalize hup, hnul⟩
  obtain ⟨html, -, hfiles⟩ := outputFiles_eq hb plainHighlighter
  have hnodup := filesWith_nodup (fun d hd => (hpage d hd).1) hb plainHighlighter html
  have hgood : ∀ f ∈ filesWith plainHighlighter s html, Plain f.path ∧ isBad f.path = false := by
    intro f hf
    have hmem := (mem_filesWith_iff html).mp (List.mem_map_of_mem hf)
    rw [sitePaths, List.mem_append] at hmem
    rcases hmem with hmem | hmem
    · obtain ⟨d, hd, he⟩ := List.mem_map.mp hmem
      rw [← he]
      exact (hpage d hd).2
    · simp only [List.mem_cons, List.not_mem_nil, or_false] at hmem
      rcases hmem with he | he | he | he <;> rw [he] <;> decide
  have hiff := writeFiles_ok_iff (fun f hf => (hgood f hf).1) (fun f hf => (hgood f hf).2) hr hfilled
    (by simp) hnodup
  simp only [pairwise_apart_iff hnodup, mem_filesWith_iff, List.not_mem_nil, false_imp_iff,
    implies_true, and_true] at hiff
  rw [writeSite_run hfiles hr hfilled.root, ← hiff]
  dsimp only
  rcases map_const_cases ((filesWith plainHighlighter s html).forM (writeFile World.host output) w).1
    (pageCount s) with ⟨hok, hmap⟩ | ⟨failure, hno, hmap⟩
  · rw [hmap]
    exact ⟨iff_of_true rfl hok, fun hfail => absurd rfl hfail⟩
  · rw [hmap]
    refine ⟨iff_of_false (by simp) hno, fun _ => ⟨⟨failure, rfl⟩, ?_⟩⟩
    obtain ⟨f, rest, hcons⟩ := List.exists_cons_of_ne_nil
      (List.ne_nil_of_mem (mem_filesWith_index plainHighlighter s html))
    rw [hcons] at hgood ⊢
    obtain ⟨hnone, hfile⟩ := writeFiles_leaves hgood hr hfilled
    obtain ⟨bytes, hbytes⟩ := isDirectory?_eq_false_iff.mp hfile
    exact ⟨_, bytes, isDirectory?_eq_none_iff.mp hnone, hbytes⟩

/-- The page of `search.js/a.md` lies below the script of the site. -/
theorem writeSite_fails_below_script : ∃ s failure w',
    Site.build "notes" [.read "search.js/a.md" "" (.named "Text") {}] = .ok s ∧
    writeSite World.host "doc" s ⟨.directory [("doc", .directory [])], []⟩ = (.error failure, w') ∧
    ∃ x bytes, w'.root.at? x = some (.file bytes) := by
  obtain ⟨s, hb⟩ : ∃ s, Site.build "notes" [.read "search.js/a.md" "" (.named "Text") {}] = .ok s :=
    ⟨_, Site.build_eq_ok_iff.mpr ⟨by decide, by decide, rfl⟩⟩
  have hpages : s.documents.map (·.page) = ["search.js/a.md.html"] := by
    have hperm := (Site.documents_perm hb).map (·.page)
    rw [List.map_singleton, List.perm_singleton] at hperm
    exact hperm.trans (by decide)
  have hr : World.realPath ⟨.directory [("doc", .directory [])], []⟩ "doc" = .ok ["doc"] := rfl
  obtain ⟨hiff, hfail⟩ := writeSite_ok_iff_apart
    (List.forall_mem_singleton.mpr ⟨_, _, _, _, rfl, by decide⟩)
    (List.forall_mem_singleton.mpr (by decide)) hb hr rfl
  have hclash : (writeSite World.host "doc" s ⟨.directory [("doc", .directory [])], []⟩).1 ≠
      .ok (pageCount s) := by
    intro hok
    refine hiff.mp hok "search.js" ?_ "search.js/a.md.html" ?_ ?_
    · simp [sitePaths]
    · simp [sitePaths, hpages]
    · decide
  obtain ⟨⟨failure, herror⟩, x, bytes, -, hleft⟩ := hfail hclash
  exact ⟨s, failure, _, hb, Prod.ext herror rfl, x, bytes, hleft⟩

end Marginalia.Command
