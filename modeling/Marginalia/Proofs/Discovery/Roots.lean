import Marginalia.Proofs.Discovery.Walking
import Mathlib.Data.List.Induction

/-! Several places that may overlap. Paths inside the project count from the deepest directory that
holds all places, so such a path tells where its file is: a file that is found at two places is found
with the same path, and different files have different ones. -/
namespace Marginalia.Discovery
open Files FileTree
set_option autoImplicit false

variable {α : Type} {f : Filter} {places places' : List (Place α)} {p : Place α}

/-! ## The directory that paths count from -/

theorem prefix_commonStart_iff {b x y : RealPath} : b <+: commonStart x y ↔ b <+: x ∧ b <+: y := by
  induction b generalizing x y with
  | nil => simp
  | cons n b ih =>
    cases x with
    | nil => simp [commonStart]
    | cons m x =>
      cases y with
      | nil => simp [commonStart]
      | cons k y =>
        rw [commonStart]
        split_ifs with hmk
        · subst hmk
          simp only [List.cons_prefix_cons, ih]
          tauto
        · simp only [List.cons_prefix_cons, List.prefix_nil, reduceCtorEq, false_iff]
          rintro ⟨⟨rfl, -⟩, hk, -⟩
          exact hmk hk

/-- A directory lies above all places if and only if it lies above the one that paths count from. -/
theorem prefix_base_iff (hne : places ≠ []) {b : RealPath} :
    b <+: base places ↔ ∀ p ∈ places, b <+: p.directory := by
  obtain ⟨p, places, rfl⟩ := List.exists_cons_of_ne_nil hne
  rw [base, List.forall_mem_cons]
  generalize p.directory = start
  induction places generalizing start with
  | nil => simp
  | cons q places ih =>
    rw [List.foldl_cons, ih (by simp), prefix_commonStart_iff, List.forall_mem_cons, and_assoc]

theorem base_above (hp : p ∈ places) : base places <+: p.directory :=
  (prefix_base_iff (List.ne_nil_of_mem hp)).mp List.prefix_rfl p hp

theorem base_perm (h : places.Perm places') : base places = base places' := by
  by_cases hne : places = []
  · subst hne
    rw [h.nil_eq]
  · have hne' : places' ≠ [] := fun he => hne (he ▸ h).eq_nil
    have hsame : ∀ b, b <+: base places ↔ b <+: base places' := by
      intro b
      rw [prefix_base_iff hne, prefix_base_iff hne']
      simp only [h.mem_iff]
    have hle := ((hsame _).mp List.prefix_rfl).length_le
    exact ((hsame _).mpr List.prefix_rfl).eq_of_length_le hle |>.symm

/-! ## What is found at one place -/

/-- The place is one of a file system: names lead to it, and the root is no file. -/
structure Settled (p : Place α) : Prop where
  tree : p.tree.Sound
  names : ∀ n ∈ p.path, IsEntryName n
  file : p.tree.isDirectory = false → p.path ≠ []

theorem pathBelow_ofSegments {above names : List String} (h : ∀ n ∈ above, n ≠ "")
    (hne : names ≠ []) : pathBelow (Path.ofSegments above) names = Path.ofSegments (above ++ names) := by
  by_cases hroot : above = []
  · subst hroot
    exact if_pos rfl
  · rw [pathBelow, if_neg (Path.ofSegments_ne_empty hroot h), Path.ofSegments_append hroot hne]

theorem Settled.path_eq (h : Settled p) {dir : RealPath} (hdir : dir <+: p.directory) :
    ∃ rest, p.path = dir ++ rest ∧ (p.tree.isDirectory = false → rest ≠ []) := by
  rw [Place.directory] at hdir
  split at hdir
  next hd =>
    obtain ⟨rest, hrest⟩ := hdir
    exact ⟨rest, hrest.symm, fun hfile => absurd hd (by simp [hfile])⟩
  next hd =>
    rw [Bool.not_eq_true] at hd
    obtain ⟨rest, hrest⟩ := hdir
    have hlast := List.dropLast_append_getLast (h.file hd)
    rw [← hrest, List.append_assoc] at hlast
    exact ⟨_, hlast.symm, fun _ => by simp⟩

/-- The file stands at the segments of its path inside the project, counted from the directory. -/
def CountsFrom (dir : RealPath) (x : Found) : Prop :=
  x.path = dir ++ Path.segments x.relative

theorem countsFrom_of_look (h : Settled p) {dir : RealPath} (hdir : dir <+: p.directory) {x : Found}
    (hx : x ∈ look f dir p) : CountsFrom dir x := by
  obtain ⟨rest, hrest, hfile⟩ := h.path_eq hdir
  -- it is enough that the path inside the project is made of the names below the directory
  suffices hnames : ∃ names, names ≠ [] ∧ (∀ n ∈ names, IsEntryName n) ∧
      x = ⟨dir ++ names, Path.ofSegments names⟩ by
    obtain ⟨names, hne, hentry, rfl⟩ := hnames
    rw [CountsFrom, Path.segments_ofSegments hne fun n hn => (hentry n hn).2.1]
  have hentry : ∀ n ∈ rest, IsEntryName n := fun n hn =>
    h.names n (hrest ▸ List.mem_append_right dir hn)
  rw [look, hrest, List.drop_left] at hx
  cases hd : p.tree.isDirectory with
  | true =>
    rw [hd, Bool.not_true, Bool.false_and, if_neg Bool.false_ne_true, mem_walk_directory h.tree hd] at hx
    obtain ⟨names, ⟨v, hv⟩, -, rfl⟩ := hx
    have hne : names ≠ [] := by
      rintro rfl
      rw [Option.some.inj hv] at hd
      cases hd
    refine ⟨rest ++ names, by simp [hne], List.forall_mem_append.mpr ⟨hentry, (h.tree.at? hv).1⟩, ?_⟩
    rw [pathBelow_ofSegments (fun n hn => (hentry n hn).1.1) hne, List.append_assoc]
  | false =>
    cases ht : p.tree with
    | directory es =>
      rw [ht] at hd
      cases hd
    | file v =>
      rw [ht] at hx
      split_ifs at hx
      · cases hx
      · rw [walk, List.mem_singleton] at hx
        exact ⟨rest, hfile hd, hentry, hx⟩

theorem CountsFrom.eq {dir : RealPath} {x y : Found} (hx : CountsFrom dir x) (hy : CountsFrom dir y)
    (h : x.relative = y.relative) : x = y := by
  obtain ⟨path, relative⟩ := x
  obtain ⟨path', relative'⟩ := y
  cases h
  rw [Found.mk.injEq]
  exact ⟨Eq.trans hx (Eq.symm hy), rfl⟩

/-! ## The first of each -/

theorem firstOfEach_concat (found : List Found) (x : Found) :
    firstOfEach (found ++ [x]) =
      if (firstOfEach found).any (·.relative = x.relative) then firstOfEach found
      else firstOfEach found ++ [x] := by
  rw [firstOfEach, List.foldl_append]
  rfl

theorem mem_of_mem_firstOfEach {found : List Found} {x : Found} (h : x ∈ firstOfEach found) :
    x ∈ found := by
  induction found using List.reverseRecOn with
  | nil => exact h
  | append_singleton found y ih =>
    rw [firstOfEach_concat] at h
    rw [List.mem_append]
    split_ifs at h
    · exact .inl (ih h)
    · exact (List.mem_append.mp h).imp_left ih

theorem nodup_firstOfEach (found : List Found) : ((firstOfEach found).map (·.relative)).Nodup := by
  induction found using List.reverseRecOn with
  | nil => exact List.nodup_nil
  | append_singleton found y ih =>
    rw [firstOfEach_concat]
    split_ifs with hany
    · exact ih
    · rw [List.map_append, List.nodup_append]
      refine ⟨ih, by simp, fun r hr r' hr' he => hany ?_⟩
      obtain ⟨x, hx, rfl⟩ := List.mem_map.mp hr
      rw [List.map_singleton, List.mem_singleton] at hr'
      exact List.any_eq_true.mpr ⟨x, hx, decide_eq_true (he.trans hr')⟩

/-- Where paths inside the project tell files apart, no file is lost. -/
theorem mem_firstOfEach_iff {found : List Found}
    (h : ∀ x ∈ found, ∀ y ∈ found, x.relative = y.relative → x = y) {x : Found} :
    x ∈ firstOfEach found ↔ x ∈ found := by
  refine ⟨mem_of_mem_firstOfEach, fun hx => ?_⟩
  obtain ⟨y, hy, he⟩ := List.mem_map.mp (relative_mem_firstOfEach hx)
  rwa [h x hx y (mem_of_mem_firstOfEach hy) he.symm]

/-! ## All places -/

section
variable (h : ∀ p ∈ places, Settled p)
include h

theorem countsFrom_of_mem {x : Found} (hx : x ∈ places.flatMap (look f (base places))) :
    CountsFrom (base places) x := by
  obtain ⟨p, hp, hx⟩ := List.mem_flatMap.mp hx
  exact countsFrom_of_look (h p hp) (base_above hp) hx

/-- All that is found at the places is collected. -/
theorem mem_collect_iff {x : Found} :
    x ∈ collect f places ↔ ∃ p ∈ places, x ∈ look f (base places) p := by
  rw [collect, mem_firstOfEach_iff, List.mem_flatMap]
  exact fun x hx y hy he => (countsFrom_of_mem h hx).eq (countsFrom_of_mem h hy) he

theorem countsFrom_of_collect {x : Found} (hx : x ∈ collect f places) :
    CountsFrom (base places) x :=
  countsFrom_of_mem h (mem_of_mem_firstOfEach hx)

theorem mem_collect_perm (hperm : places.Perm places') {x : Found} :
    x ∈ collect f places ↔ x ∈ collect f places' := by
  rw [mem_collect_iff h, mem_collect_iff fun p hp => h p (hperm.mem_iff.mpr hp), base_perm hperm]
  simp only [hperm.mem_iff]

end

end Marginalia.Discovery
