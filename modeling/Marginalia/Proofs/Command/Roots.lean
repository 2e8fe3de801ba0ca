import Marginalia.Proofs.Command.Rebuild
import Marginalia.Proofs.Discovery.Roots

/-! The places that a user names, in any order. What a build finds does not depend on their order, and
the paths of the files inside the project count from the deepest directory above all of them. -/
namespace Marginalia.Command
open Files Marginalia.Path FileTree World Discovery
set_option autoImplicit false

variable {w : World} {roots roots' : List String} {p : RealPath}

/-! ## Places of a file system -/

/-- The directory that a place counts as: a file counts as the directory that it is in. -/
def directoryAt (w : World) (p : RealPath) : RealPath :=
  if w.root.isDirectory? p = some true then p else p.dropLast

theorem root_isDirectory {root : String} (h : w.realPath root = .ok p) :
    w.root.isDirectory? [] = some true := by
  obtain ⟨s, rest, hs⟩ := List.exists_cons_of_ne_nil (segments_ne_nil root)
  have hfollow := (realPath_eq_ok_iff.mp h).2.2
  rw [hs] at hfollow
  exact isDirectory?_on_way (follow_eq_ok_directory hfollow) List.nil_prefix

theorem settled_placeAt (hw : w.root.Sound) {root : String} (h : w.realPath root = .ok p) :
    Settled (placeAt w p) where
  tree := sound_placeAt (isSome_of_realPath h) hw
  names := by
    obtain ⟨t, ht⟩ := Option.isSome_iff_exists.mp (Option.isSome_map ▸ isSome_of_realPath h)
    exact (hw.at? ht).1
  file hfile := by
    intro hnil
    have hdir := isDirectory_placeAt (isSome_of_realPath h)
    rw [hfile, show p = [] from hnil, root_isDirectory h] at hdir
    cases hdir

theorem directory_placeAt (h : (w.root.isDirectory? p).isSome) :
    (placeAt w p).directory = directoryAt w p := by
  rw [Place.directory, directoryAt, ← isDirectory_placeAt h]
  simp only [Option.some.injEq]
  rfl

theorem isDirectory?_directoryAt {root : String} (h : w.realPath root = .ok p) :
    w.root.isDirectory? (directoryAt w p) = some true := by
  rw [directoryAt]
  split_ifs with hdir
  · exact hdir
  · by_cases hnil : p = []
    · rw [hnil, List.dropLast_nil]
      exact root_isDirectory h
    · obtain ⟨b, hb⟩ := Option.isSome_iff_exists.mp (isSome_of_realPath h)
      rw [← List.dropLast_append_getLast hnil] at hb
      exact isDirectory?_above hb (by simp)

/-! ## The deepest directory -/

/-- The deepest directory above all roots. -/
structure Deepest (w : World) (roots : List String) (dir : RealPath) : Prop where
  directory : w.root.isDirectory? dir = some true
  above : ∀ root ∈ roots, ∀ p, w.realPath root = .ok p → dir <+: directoryAt w p
  deepest : ∀ d, (∀ root ∈ roots, ∀ p, w.realPath root = .ok p → d <+: directoryAt w p) → d <+: dir

theorem deepest_base {real : String → RealPath} (hne : roots ≠ [])
    (h : ∀ root ∈ roots, w.realPath root = .ok (real root)) :
    Deepest w roots (base ((roots.map real).map (placeAt w))) := by
  have habove : ∀ d, d <+: base ((roots.map real).map (placeAt w)) ↔
      ∀ root ∈ roots, ∀ p, w.realPath root = .ok p → d <+: directoryAt w p := by
    intro d
    rw [prefix_base_iff (by simpa using hne), List.forall_mem_map, List.forall_mem_map]
    refine forall₂_congr fun root hroot => ?_
    rw [directory_placeAt (isSome_of_realPath (h root hroot))]
    constructor
    · intro hd p hp
      rwa [Except.ok.inj ((h root hroot).symm.trans hp)] at hd
    · exact fun hd => hd _ (h root hroot)
  refine ⟨?_, (habove _).mp List.prefix_rfl, fun d => (habove d).mpr⟩
  obtain ⟨root, hroot⟩ := List.exists_mem_of_ne_nil _ hne
  exact isDirectory?_on_way (isDirectory?_directoryAt (h root hroot))
    ((habove _).mp List.prefix_rfl root hroot _ (h root hroot))

/-! ## Sources -/

/-- No two files that are collected have the same path inside the project, such a path leads from the
common directory to the file, and no file that is found at a place is lost. -/
structure Faithful (f : Filter) (places : List (Place Unit)) : Prop where
  nodup : ((collect f places).map (·.relative)).Nodup
  counts : ∀ x ∈ collect f places, x.path = base places ++ segments x.relative
  kept : ∀ p ∈ places, ∀ x ∈ look f (base places) p, x ∈ collect f places

theorem faithful_of_settled {places : List (Place Unit)} (h : ∀ p ∈ places, Settled p) (f : Filter) :
    Faithful f places :=
  ⟨nodup_firstOfEach _, fun _ hx => countsFrom_of_collect h hx,
    fun p hp _ hx => (mem_collect_iff h).mpr ⟨p, hp, hx⟩⟩

/-- Roots in another order give the same sources with the same paths. -/
theorem findSources_any_order (hw : w.root.Sound) (excluded : String → Bool) (output : String)
    (hne : roots ≠ []) (hroots : ∀ root ∈ roots, ∃ p, w.realPath root = .ok p)
    (hperm : roots.Perm roots') :
    ∃ (places places' : List (Place Unit)) (f : Filter),
      findPlaces World.host roots w = (.ok places, w) ∧
      findPlaces World.host roots' w = (.ok places', w) ∧
      f = { excluded, skipped := (w.realPath output).toOption } ∧
      findSources World.host excluded output roots w = (.ok (collect f places), w) ∧
      findSources World.host excluded output roots' w = (.ok (collect f places'), w) ∧
      (∀ x, x ∈ collect f places ↔ x ∈ collect f places') ∧
      Faithful f places ∧ Faithful f places' ∧
      base places = base places' ∧ Deepest w roots (base places) := by
  choose! real hreal using hroots
  have hreal' : ∀ root ∈ roots', w.realPath root = .ok (real root) := fun root hroot =>
    hreal root (hperm.mem_iff.mpr hroot)
  have hplaces := (hperm.map real).map (placeAt w)
  have hsettled : ∀ p ∈ (roots.map real).map (placeAt w), Settled p := by
    rw [List.forall_mem_map, List.forall_mem_map]
    exact fun root hroot => settled_placeAt hw (hreal root hroot)
  refine ⟨_, _, _, findPlaces_eq hreal, findPlaces_eq hreal', rfl, findSources_eq excluded hreal,
    findSources_eq excluded hreal', fun x => mem_collect_perm hsettled hplaces,
    faithful_of_settled hsettled _,
    faithful_of_settled (fun p hp => hsettled p (hplaces.mem_iff.mpr hp)) _, base_perm hplaces,
    deepest_base hne hreal⟩

/-- A directory that is named twice and a file in it that is named as well. -/
theorem findSources_any_order_nested : ∃ w : World, ∃ found found',
    w.root = .directory [("p", .directory [("b.md", .file .empty)])] ∧
    findSources World.host (fun _ => false) "site" ["p", "p/b.md", "p"] w = (.ok found, w) ∧
    findSources World.host (fun _ => false) "site" ["p/b.md", "p", "p"] w = (.ok found', w) ∧
    (∀ x, x ∈ found ↔ x ∈ found') ∧ ⟨["p", "b.md"], "b.md"⟩ ∈ found := by
  have hsub : ∀ n t, IsEntryName n → Sound t → Sound (.directory [(n, (t : FileTree ByteArray))]) :=
    fun n t hn ht => .directory (by simp) (List.forall_mem_singleton.mpr hn)
      (List.forall_mem_singleton.mpr ht)
  obtain ⟨w, hw, hsound, hdir, hfile⟩ : ∃ w : World,
      w.root = .directory [("p", .directory [("b.md", .file .empty)])] ∧ w.root.Sound ∧
      w.realPath "p" = .ok ["p"] ∧ w.realPath "p/b.md" = .ok ["p", "b.md"] :=
    ⟨⟨_, []⟩, rfl, hsub "p" _ (by decide) (hsub "b.md" _ (by decide) (.file _)), rfl, rfl⟩
  have hreal : ∀ root ∈ ["p", "p/b.md", "p"],
      w.realPath root = .ok (if root = "p" then ["p"] else ["p", "b.md"]) := by
    simp [hdir, hfile]
  have hperm : ["p", "p/b.md", "p"].Perm ["p/b.md", "p", "p"] := by decide
  obtain ⟨places, places', f, hplaces, -, hf, hfound, hfound', hsame, hfaithful, -, -, -⟩ :=
    findSources_any_order hsound (fun _ => false) "site" (List.cons_ne_nil _ _)
      (fun root hroot => ⟨_, hreal root hroot⟩) hperm
  obtain rfl := Except.ok.inj (Prod.ext_iff.mp ((findPlaces_eq hreal).symm.trans hplaces)).1
  refine ⟨w, _, _, hw, hfound, hfound', hsame, hfaithful.kept (placeAt w ["p", "b.md"]) ?_ _ ?_⟩
  · simp
  · have hplace : placeAt w ["p"] = ⟨["p"], .directory [("b.md", .file ())]⟩ := by
      rw [placeAt, hw]
      rfl
    have hplace' : placeAt w ["p", "b.md"] = ⟨["p", "b.md"], .file ()⟩ := by
      rw [placeAt, hw]
      rfl
    have hbase : base ((["p", "p/b.md", "p"].map fun root =>
        if root = "p" then ["p"] else ["p", "b.md"]).map (placeAt w)) = ["p"] := by
      simp [hplace, hplace', base, Place.directory, FileTree.isDirectory, commonStart]
    rw [hbase, hplace', look, hf, Bool.and_false, if_neg Bool.false_ne_true, Discovery.walk]
    exact List.mem_singleton.mpr rfl

end Marginalia.Command
