import Marginalia.Proofs.Command.Placing
import Marginalia.Proofs.Discovery.Visible

/-! Sources before and after a build. Files that are added to the output directory are not found by
the next build exactly if no place that is documented is a directory in there, the output directory
itself included. -/
namespace Marginalia.Command
open Files Page Marginalia.Path FileTree World Discovery
set_option autoImplicit false

variable {w w' : World} {r : RealPath} {output : String} {roots : List String}

/-! ## Places -/

theorem mapM_run {σ α β : Type} {f : α → ExceptT Failure (StateM σ) β} {g : α → β} {l : List α}
    {s : σ} (h : ∀ a ∈ l, f a s = (.ok (g a), s)) : l.mapM f s = (.ok (l.map g), s) := by
  induction l with
  | nil => rfl
  | cons a l ih =>
    obtain ⟨ha, hl⟩ := List.forall_mem_cons.mp h
    rw [List.mapM_cons, bind_ok ha, bind_ok (ih hl)]
    rfl

def placeAt (w : World) (p : RealPath) : Place Unit :=
  ⟨p, ((w.root.at? p).getD (.directory [])).map fun _ => ()⟩

theorem lift_run {σ α : Type} (action : StateM σ α) (s : σ) :
    (liftM action : ExceptT Failure (StateM σ) α) s = (.ok (action s).1, (action s).2) := rfl

theorem findPlaces_eq {real : String → RealPath}
    (h : ∀ root ∈ roots, w.realPath root = .ok (real root)) :
    findPlaces World.host roots w = (.ok ((roots.map real).map (placeAt w)), w) := by
  unfold findPlaces
  refine (bind_ok (mapM_run (g := real) fun root hroot => ?_)).trans
    (mapM_run (g := placeAt w) fun p hp => ?_)
  · refine (bind_ok (lift_run _ w)).trans ?_
    change expectFile (m := StateM World) _ (w.realPath root) w = _
    rw [h root hroot]
    rfl
  · obtain ⟨root, hroot, rfl⟩ := List.mem_map.mp hp
    obtain ⟨t, ht⟩ := Option.isSome_iff_exists.mp
      (Option.isSome_map ▸ isSome_of_realPath (h root hroot))
    have hrun : (World.host.tree (real root)).run w = pure (.ok (t.map fun _ => ()), w) := by
      simp [World.host, ht]
    have htree : World.host.tree (real root) w = (.ok (t.map fun _ => ()), w) := hrun
    refine (bind_ok (by rw [lift_run, htree])).trans ?_
    rw [placeAt, ht]
    rfl

theorem findSources_eq (excluded : String → Bool) {real : String → RealPath}
    (h : ∀ root ∈ roots, w.realPath root = .ok (real root)) :
    findSources World.host excluded output roots w =
      (.ok (collect { excluded, skipped := (w.realPath output).toOption }
        ((roots.map real).map (placeAt w))), w) := by
  unfold findSources
  refine (bind_ok (lift_run _ w)).trans ?_
  exact (bind_ok (findPlaces_eq h)).trans rfl

section
variable {p : RealPath} (hp : (w.root.isDirectory? p).isSome)
include hp

theorem isDirectory?_placeAt (names : List String) :
    (placeAt w p).tree.isDirectory? names = w.root.isDirectory? (p ++ names) := by
  obtain ⟨t, ht⟩ := Option.isSome_iff_exists.mp (Option.isSome_map ▸ hp)
  rw [placeAt, ht, Option.getD_some, isDirectory?_map, isDirectory?_append, ht, Option.bind_some]

theorem isDirectory_placeAt :
    some (placeAt w p).tree.isDirectory = w.root.isDirectory? p := by
  have hroot := isDirectory?_placeAt hp []
  rwa [List.append_nil] at hroot

theorem sound_placeAt (hw : w.root.Sound) : (placeAt w p).tree.Sound := by
  obtain ⟨t, ht⟩ := Option.isSome_iff_exists.mp (Option.isSome_map ▸ hp)
  rw [placeAt, ht, Option.getD_some]
  exact (hw.at? ht).2.map _

end

/-! ## Additions -/

/-- The second file system is the first with more directories, and with more files below one place. -/
structure Adds (w w' : World) (r : RealPath) : Prop extends Keeps w w' where
  sound : w.root.Sound → w'.root.Sound
  files : ∀ x, w'.root.isDirectory? x = some false →
    w.root.isDirectory? x = some false ∨ r <+: x ∧ x ≠ r

theorem Adds.trans {w'' : World} (h : Adds w w' r) (h' : Adds w' w'' r) : Adds w w'' r :=
  ⟨h.toKeeps.trans h'.toKeeps, fun hw => h'.sound (h.sound hw),
    fun x hx => (h'.files x hx).elim (h.files x) .inr⟩

theorem adds_of_grows (h : Grows w w') (r : RealPath) : Adds w w' r :=
  ⟨h.toKeeps, h.sound, fun x hx => .inl (h.files x hx)⟩

theorem adds_of_placed {names : List String} (hne : names ≠ []) (h : Placed w w' (r ++ names)) :
    Adds w w' r := by
  refine ⟨h.keeps, h.sound, fun x hx => ?_⟩
  rw [h.seen] at hx
  split_ifs at hx with hfile habove
  · rw [hfile]
    exact .inr ⟨List.prefix_append _ _, by simpa using hne⟩
  · cases hx
  · exact .inl hx

theorem writeFiles_adds {files : List OutputFile}
    (hgood : ∀ f ∈ files, Plain f.path ∧ isBad f.path = false) (hr : w.realPath output = .ok r)
    (hd : w.root.isDirectory? r = some true)
    (hrun : files.forM (writeFile World.host output) w = (.ok (), w')) : Adds w w' r := by
  induction files generalizing w with
  | nil =>
    cases hrun
    exact adds_of_grows (.refl _) r
  | cons f files ih =>
    obtain ⟨hf, hgood⟩ := List.forall_mem_cons.mp hgood
    rw [writeFiles_cons] at hrun
    by_cases hroom : Room w r (segments f.path)
    · obtain ⟨w₁, hwrite, hplaced⟩ := writeFile_ok hr hd hf.1 hf.2 hroom
      rw [bind_ok hwrite] at hrun
      exact (adds_of_placed (segments_ne_nil f.path) hplaced).trans
        (ih hgood (hplaced.keeps.realPath hr) (hplaced.keeps.seen _ _ hd) hrun)
    · obtain ⟨failure, w₁, hwrite, -⟩ := writeFile_error hr hd hf.1 hf.2 hroom
      rw [bind_error hwrite] at hrun
      cases hrun

/-! ## The same sources -/

section
variable {excluded : String → Bool} {skipped : Option RealPath} {p : RealPath}
  (hadds : Adds w w' r)
  (hskip : skipped = some r ∨ skipped = none ∧ w.root.isDirectory? r ≠ some true)
include hadds hskip

/-- In a directory that does not lie in the output directory the same files are visible before and
after: what was added lies behind the output directory, which is not entered. -/
theorem visible_iff_of_adds (hout : ¬ r <+: p) (relative : String) (names : List String) :
    w.root.isDirectory? (p ++ names) = some false ∧
        Visible { excluded, skipped } p relative names ↔
      w'.root.isDirectory? (p ++ names) = some false ∧
        Visible { excluded, skipped := some r } p relative names := by
  constructor
  · rintro ⟨hfile, hvisible⟩
    refine ⟨hadds.seen _ _ hfile, hvisible.shown, hvisible.included, fun front n hfront hne => ?_⟩
    obtain ⟨hname, hskipped⟩ := enters_iff.mp (hvisible.entered front n hfront hne)
    refine enters_iff.mpr ⟨hname, fun he => ?_⟩
    rcases hskip with hskip | ⟨-, hno⟩
    · exact hskipped (hskip.trans he)
    · -- the directory was entered before, so it was there
      obtain ⟨rest, rfl⟩ := hfront
      have hrest : rest ≠ [] := fun hnil => hne (by rw [hnil, List.append_nil])
      rw [← List.append_assoc] at hfile
      have hdir := isDirectory?_above hfile hrest
      rw [← List.append_assoc, ← Option.some.inj he] at hdir
      exact hno hdir
  · rintro ⟨hfile, hvisible⟩
    refine ⟨?_, hvisible.shown, hvisible.included, fun front n hfront hne => ?_⟩
    · refine (hadds.files _ hfile).elim id fun ⟨hbelow, hne⟩ => ?_
      obtain hpre | hpre := List.prefix_or_prefix_of_prefix hbelow (List.prefix_append p names)
      · exact absurd hpre hout
      · obtain ⟨front, rfl⟩ := hpre
        obtain rfl | ⟨front, n, rfl⟩ := List.eq_nil_or_concat' front
        · exact absurd (by simp : p ++ [] <+: p) hout
        · rw [List.prefix_append_right_inj] at hbelow
          have henter := hvisible.entered front n hbelow fun he => hne (by rw [he])
          exact absurd (by rw [List.append_assoc]) (enters_iff.mp henter).2
    · obtain ⟨hname, hskipped⟩ := enters_iff.mp (hvisible.entered front n hfront hne)
      refine enters_iff.mpr ⟨hname, fun he => ?_⟩
      rcases hskip with hskip | ⟨hskip, -⟩
      · exact hskipped (hskip.symm.trans he)
      · cases hskip.symm.trans he

theorem alike_of_adds (hw : w.root.Sound) (hp : (w.root.isDirectory? p).isSome)
    (hout : w.root.isDirectory? p = some true → ¬ r <+: p) :
    Alike { excluded, skipped } { excluded, skipped := some r } (placeAt w p) (placeAt w' p) := by
  obtain ⟨b, hb⟩ := Option.isSome_iff_exists.mp hp
  have hb' := hadds.seen _ _ hb
  have hp' : (w'.root.isDirectory? p).isSome := by rw [hb']; rfl
  refine ⟨rfl, Option.some.inj ?_, fun relative => ?_⟩
  · rw [isDirectory_placeAt hp, isDirectory_placeAt hp', hb, hb']
  · refine walk_congr (sound_placeAt hp hw) (sound_placeAt hp' (hadds.sound hw)) fun names => ?_
    rw [isDirectory?_placeAt hp, isDirectory?_placeAt hp']
    cases b with
    | true => exact visible_iff_of_adds hadds hskip (hout hb) relative names
    | false =>
      by_cases hnames : names = []
      · rw [hnames, List.append_nil, hb, hb']
        exact iff_of_true ⟨rfl, visible_nil⟩ ⟨rfl, visible_nil⟩
      · rw [isDirectory?_below (by rw [hb]; nofun) hnames, isDirectory?_below (by rw [hb']; nofun) hnames]
        exact iff_of_false (fun h => nomatch h.1) fun h => nomatch h.1

end

/-! ## A source that was not there -/

theorem exists_longer (texts : List String) : ∃ n, ∀ s ∈ texts, s.length < n := by
  induction texts with
  | nil => exact ⟨0, by simp⟩
  | cons t texts ih =>
    obtain ⟨n, hn⟩ := ih
    refine ⟨max (t.length + 1) n, List.forall_mem_cons.mpr ⟨by omega, fun s hs => ?_⟩⟩
    have := hn s hs
    omega

/-- The name of a page that is longer than the number. -/
def longName (n : Nat) : String :=
  String.ofList (List.replicate (n + 1) 'a') ++ ".html"

theorem length_longName (n : Nat) : n < (longName n).length := by
  rw [longName, String.length_append, String.length_ofList, List.length_replicate]
  omega

theorem mem_longName {n : Nat} {c : Char} (h : c ∈ (longName n).toList) :
    c = 'a' ∨ c ∈ ".html".toList := by
  rw [longName, String.toList_append, String.toList_ofList, List.mem_append,
    List.mem_replicate] at h
  exact h.imp_left (·.2)

theorem isEntryName_longName (n : Nat) : IsEntryName (longName n) := by
  refine ⟨PageMap.isName_append_html _, fun h => ?_, fun h => ?_⟩
  · exact absurd (mem_longName h) (by decide)
  · exact absurd (mem_longName h) (by decide)

theorem isHidden_longName (n : Nat) : isHidden (longName n) = false := by
  rw [isHidden, longName, String.toList_append, String.toList_ofList, List.replicate_succ]
  rfl

/-- A page can be added to a directory that lies in the output directory. -/
theorem writeFile_longName (hw : w.root.Sound) (hr : w.realPath output = .ok r) {p : RealPath}
    (hp : w.root.isDirectory? p = some true) (hbelow : r <+: p) {n : Nat}
    (hfree : w.root.isDirectory? (p ++ [longName n]) = none) :
    ∃ path w', Plain path ∧ isBad path = false ∧ ".html".toList <:+ path.toList ∧
      [(⟨path, ""⟩ : OutputFile)].forM (writeFile World.host output) w = (.ok (), w') ∧
      Placed w w' (p ++ [longName n]) := by
  obtain ⟨names, rfl⟩ := hbelow
  obtain ⟨es, hes⟩ := isDirectory?_eq_true_iff.mp hp
  have hentry : ∀ s ∈ names ++ [longName n], IsEntryName s := by
    intro s hs
    rcases List.mem_append.mp hs with hs | hs
    · exact (hw.at? hes).1 s (List.mem_append_right _ hs)
    · rw [List.mem_singleton.mp hs]
      exact isEntryName_longName n
  have hseg : segments (ofSegments (names ++ [longName n])) = names ++ [longName n] :=
    segments_ofSegments (by simp) fun s hs => (hentry s hs).2.1
  have hplain : Plain (ofSegments (names ++ [longName n])) := by
    intro s hs
    rw [hseg] at hs
    exact (hentry s hs).1
  have hbad : isBad (ofSegments (names ++ [longName n])) = false := by
    refine not_isBad_iff.mpr fun hc => ?_
    rcases mem_ofSegments hc with hc | ⟨s, hs, hc⟩
    · cases hc
    · exact (hentry s hs).2.2 hc
  have hend : ".html".toList <:+ (ofSegments (names ++ [longName n])).toList := by
    obtain ⟨front, hfront⟩ := eq_append_fileName (ofSegments (names ++ [longName n]))
    rw [hfront, fileName, hseg, List.getLastD_concat, longName, String.toList_append]
    exact (List.suffix_append _ _).trans (List.suffix_append _ _)
  have hroom : Room w r (segments (ofSegments (names ++ [longName n]))) := by
    rw [hseg, Room, List.dropLast_concat, ← List.append_assoc, hfree]
    refine ⟨fun front hfront hfile => ?_, by simp⟩
    rw [isDirectory?_on_way hp ((List.prefix_append_right_inj r).mpr hfront)] at hfile
    cases hfile
  obtain ⟨w', hwrite, hplaced⟩ := writeFile_ok
    (f := ⟨ofSegments (names ++ [longName n]), ""⟩) hr
    (isDirectory?_on_way hp (List.prefix_append r names)) hplain hbad hroom
  refine ⟨_, w', hplain, hbad, hend, ?_, ?_⟩
  · rw [writeFiles_cons, bind_ok hwrite]
    rfl
  · rwa [List.append_assoc, ← hseg]

theorem isDirectory?_of_no_entry {t : FileTree ByteArray} {p : RealPath}
    {es : List (String × FileTree ByteArray)} (hes : t.at? p = some (.directory es)) {name : String}
    (h : name ∉ es.map (·.1)) : t.isDirectory? (p ++ [name]) = none := by
  have hlookup : es.lookup name = none := by
    refine List.lookup_eq_none_iff.mpr fun e he => bne_iff_ne.mpr fun hname => ?_
    exact h (List.mem_map.mpr ⟨e, he, hname.symm⟩)
  rw [isDirectory?_append, hes, Option.bind_some, isDirectory?_cons, entries, hlookup]
  rfl

/-- A page that is added to a directory is found there if nothing is excluded. -/
theorem longName_found {f : Filter} (hf : ∀ path, f.excluded path = false) {p : RealPath}
    (hw : w.root.Sound) (hp : w.root.isDirectory? p = some true) {n : Nat}
    (hfile : w.root.isDirectory? (p ++ [longName n]) = some false) {places : List (Place Unit)}
    (hmem : placeAt w p ∈ places) : ∃ s ∈ (collect f places).map (·.relative), n < s.length := by
  have hsome : (w.root.isDirectory? p).isSome := by rw [hp]; rfl
  have hvisible : ∀ relative, Visible f p relative [longName n] := fun relative =>
    visible_cons.mpr ⟨⟨isHidden_longName n, hf _, fun hne => absurd rfl hne⟩, visible_nil⟩
  refine ⟨_, relative_mem_collect hmem (x := ⟨p ++ [longName n], below
    (ofSegments (p.drop (base places).length)) (longName n)⟩) ?_, ?_⟩
  · rw [look, hf, Bool.and_false]
    exact (mem_walk_iff (sound_placeAt hsome hw)).mpr
      ⟨[longName n], by rw [isDirectory?_placeAt hsome, hfile], hvisible _, rfl⟩
  · have hlen := length_longName n
    dsimp only [below]
    split_ifs
    · exact hlen
    · rw [String.length_append]
      omega

/-! ## Rebuilding -/

/-- How the files of a site end. -/
def siteEndings : List String :=
  [".html", ".css", ".js", ".json"]

/-- Whatever is left out and whatever files of a site are added to the output directory, which is
there in `w₁`, a build finds what it found in `w`. -/
def SourcesStay (w w₁ : World) (output : String) (roots : List String) : Prop :=
  ∀ (excluded : String → Bool) (files : List OutputFile) (w' : World),
    (∀ f ∈ files, Plain f.path ∧ isBad f.path = false ∧
      ∃ e ∈ siteEndings, e.toList <:+ f.path.toList) →
    files.forM (writeFile World.host output) w₁ = (.ok (), w') →
    ∃ found, findSources World.host excluded output roots w = (.ok found, w) ∧
      findSources World.host excluded output roots w' = (.ok found, w')

/-- The sources stay exactly if none of the places that are documented is a directory in the output
directory, itself included. The output directory is made first if it is missing; its path leads there
already, or no directory is there yet. -/
theorem sourcesStay_iff {w₁ : World} (hw : w.root.Sound)
    (hroots : ∀ root ∈ roots, ∃ p, w.realPath root = .ok p)
    (hmake : w.makeDirectories output = .ok w₁) (hr : w₁.realPath output = .ok r)
    (hd : w₁.root.isDirectory? r = some true)
    (hlead : w.realPath output = .ok r ∨ w.root.isDirectory? r ≠ some true) :
    SourcesStay w w₁ output roots ↔ ∀ root ∈ roots, ∀ p, w.realPath root = .ok p →
      w.root.isDirectory? p = some true → ¬ r <+: p := by
  choose! real hreal using hroots
  have hgrows := makeDirectories_grows hmake
  constructor
  · intro h root hroot p hp hdir hbelow
    -- the output directory was there already
    have hthere := isDirectory?_on_way hdir hbelow
    have hr := hlead.resolve_right (absurd hthere)
    obtain rfl : w = w₁ := Except.ok.inj ((makeDirectories_of_directory hr hthere).symm.trans hmake)
    obtain ⟨found, hfound, -⟩ := h (fun _ => false) [] w (by simp) rfl
    obtain ⟨es, hes⟩ := isDirectory?_eq_true_iff.mp hdir
    obtain ⟨n, hn⟩ := exists_longer (found.map (·.relative) ++ es.map (·.1))
    have hfree := isDirectory?_of_no_entry hes fun hmem =>
      absurd (hn (longName n) (List.mem_append_right _ hmem)) (length_longName n).not_gt
    obtain ⟨path, w', hplain, hbad, hend, hrun, hplaced⟩ :=
      writeFile_longName hw hr hdir hbelow hfree
    obtain ⟨found', hbefore, hafter⟩ := h (fun _ => false) [⟨path, ""⟩] w'
      (List.forall_mem_singleton.mpr ⟨hplain, hbad, ".html", by decide, hend⟩) hrun
    obtain rfl : found = found' := Except.ok.inj (Prod.ext_iff.mp (hfound.symm.trans hbefore)).1
    rw [findSources_eq _ fun root hroot => hplaced.keeps.realPath (hreal root hroot)] at hafter
    obtain rfl := Except.ok.inj (Prod.ext_iff.mp hafter).1
    obtain rfl : real root = p := Except.ok.inj ((hreal root hroot).symm.trans hp)
    obtain ⟨s, hs, hlong⟩ := longName_found
      (f := { skipped := (w'.realPath output).toOption }) (fun _ => rfl) (hplaced.sound hw)
      (hplaced.keeps.seen _ _ hdir) (by rw [hplaced.seen, if_pos rfl])
      (List.mem_map_of_mem (List.mem_map_of_mem hroot))
    exact absurd (hn s (List.mem_append_left _ hs)) hlong.not_gt
  · intro hout excluded files w' hfiles hrun
    have hwrites := writeFiles_adds (fun f hf => ⟨(hfiles f hf).1, (hfiles f hf).2.1⟩) hr hd hrun
    have hadds := (adds_of_grows hgrows r).trans hwrites
    have hafter : (w'.realPath output).toOption = some r := by
      rw [hwrites.realPath hr]
      rfl
    have hskip : (w.realPath output).toOption = some r ∨
        (w.realPath output).toOption = none ∧ w.root.isDirectory? r ≠ some true := by
      cases hbefore : w.realPath output with
      | error e => exact .inr ⟨rfl, hlead.resolve_left (by rw [hbefore]; nofun)⟩
      | ok p => exact .inl (congrArg Except.toOption ((hgrows.realPath hbefore).symm.trans hr))
    have halike : List.Forall₂ (Alike { excluded, skipped := (w.realPath output).toOption }
        { excluded, skipped := some r }) ((roots.map real).map (placeAt w))
        ((roots.map real).map (placeAt w')) := by
      rw [List.forall₂_map_left_iff, List.forall₂_map_right_iff, List.forall₂_same]
      refine List.forall_mem_map.mpr fun root hroot => ?_
      exact alike_of_adds hadds hskip hw (isSome_of_realPath (hreal root hroot))
        (hout root hroot _ (hreal root hroot))
    have hsame := collect_congr (by rfl) halike
    refine ⟨_, findSources_eq excluded hreal, ?_⟩
    rw [findSources_eq excluded fun root hroot => hadds.realPath (hreal root hroot), hafter, hsame]

/-- With the site beside the sources its pages are taken for sources, with a directory of its own they
are not. -/
theorem sourcesStay_in_own_directory : ∃ w : World, ∃ w₁,
    w.root = .directory [("a.md", .file .empty)] ∧ ¬ SourcesStay w w "." ["."] ∧
    w.makeDirectories "doc" = .ok w₁ ∧ SourcesStay w w₁ "doc" ["."] := by
  have hsound : Sound (.directory [("a.md", .file ByteArray.empty)]) :=
    .directory (by decide) (List.forall_mem_singleton.mpr (by decide))
      (List.forall_mem_singleton.mpr (.file _))
  have hreal : World.realPath ⟨.directory [("a.md", .file .empty)], []⟩ "." = .ok [] := rfl
  have hroots : ∀ root ∈ ["."], ∃ p,
      World.realPath ⟨.directory [("a.md", .file .empty)], []⟩ root = .ok p :=
    List.forall_mem_singleton.mpr ⟨[], hreal⟩
  have hnone : isDirectory? (.directory [("a.md", .file ByteArray.empty)]) ["doc"] = none := rfl
  have halong : Along ⟨.directory [("a.md", .file .empty)], []⟩ "doc" [] ([] ++ ["doc"]) :=
    ⟨by decide, by decide, [], by decide, rfl⟩
  obtain ⟨w₁, hmake, hview⟩ := halong.makeDirectories_ok rfl (by
    intro front hfront
    rcases List.prefix_concat_iff.mp hfront with rfl | hfront
    · rw [List.nil_append, List.nil_append, hnone]
      nofun
    · rw [List.prefix_nil.mp hfront]
      nofun)
  have hthere : w₁.root.isDirectory? ["doc"] = some true := by
    rw [hview, if_pos (by simp)]
  have hdoc := (halong.keeps (makeDirectories_grows hmake).toKeeps).realPath (by
    rw [List.nil_append, List.nil_append, hthere]
    rfl)
  refine ⟨⟨_, []⟩, w₁, rfl, fun hstay => ?_, hmake, ?_⟩
  · exact (sourcesStay_iff hsound hroots (makeDirectories_of_directory hreal rfl) hreal rfl
      (.inl hreal)).mp hstay "." (by simp) [] hreal rfl List.prefix_rfl
  · refine (sourcesStay_iff hsound hroots hmake hdoc hthere (.inr ?_)).mpr
      (List.forall_mem_singleton.mpr fun p hp _ => ?_)
    · rw [List.nil_append, List.nil_append, hnone]
      nofun
    · cases hreal.symm.trans hp
      simp

end Marginalia.Command
