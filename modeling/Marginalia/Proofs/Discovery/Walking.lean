import Marginalia.Proofs.Discovery.Visible
import Marginalia.Proofs.Text.ByteOrder

/-! What a walk through a directory finds, name by name: which files, in which order, and what their
paths inside the project are. -/
namespace Marginalia.Discovery
open Files FileTree
set_option autoImplicit false

variable {α : Type} {f : Filter} {path : RealPath} {relative : String} {names : List String}

/-! ## Paths inside the project -/

/-- The path of what stands at some names below a directory, given the path of the directory. -/
def pathBelow (relative : String) (names : List String) : String :=
  if relative = "" then Path.ofSegments names else relative ++ "/" ++ Path.ofSegments names

theorem below_ne_empty {name : String} (h : name ≠ "") : below relative name ≠ "" := by
  rw [below]
  split_ifs with he
  · exact h
  · simp [he]

theorem foldl_below (hne : names ≠ []) (h : ∀ n ∈ names, n ≠ "") :
    names.foldl below relative = pathBelow relative names := by
  induction names generalizing relative with
  | nil => exact absurd rfl hne
  | cons n names ih =>
    obtain ⟨hn, h⟩ := List.forall_mem_cons.mp h
    rw [List.foldl_cons]
    by_cases hlast : names = []
    · rw [hlast, List.foldl_nil, below, pathBelow, Path.ofSegments_singleton]
    · rw [ih hlast h, pathBelow, if_neg (below_ne_empty hn), below, pathBelow,
        Path.ofSegments_cons n hlast]
      split_ifs with he
      · rfl
      · simp only [String.append_assoc]

/-! ## Conditions -/

/-- No name starts with a dot, no directory on the way has a name that is skipped or is the directory
that is skipped, and neither the file nor a directory on the way is excluded. -/
structure Admitted (f : Filter) (path : RealPath) (relative : String) (names : List String) :
    Prop where
  shown : ∀ n ∈ names, n.toList.head? ≠ some '.'
  named : ∀ n ∈ names.dropLast, n ≠ "target" ∧ n ≠ "node_modules"
  outside : ∀ i, 0 < i → i < names.length → f.skipped ≠ some (path ++ names.take i)
  included : ∀ i, 0 < i → i ≤ names.length →
    f.excluded (pathBelow relative (names.take i)) = false

theorem isHidden_eq_false_iff {n : String} : isHidden n = false ↔ n.toList.head? ≠ some '.' :=
  decide_eq_false_iff_not

theorem not_mem_skippedNames_iff {n : String} :
    n ∉ skippedNames ↔ n ≠ "target" ∧ n ≠ "node_modules" := by
  simp [skippedNames]

/-- A name on the way to a file, in both ways to say so. -/
theorem mem_dropLast_iff {n : String} :
    n ∈ names.dropLast ↔ ∃ front, front ++ [n] <+: names ∧ front ++ [n] ≠ names := by
  constructor
  · intro hn
    obtain ⟨front, back, hsplit⟩ := List.append_of_mem hn
    have hpre : front ++ [n] <+: names.dropLast := ⟨back, by rw [hsplit]; simp⟩
    refine ⟨front, hpre.trans (List.dropLast_prefix names), ?_⟩
    rintro rfl
    have hlength := hpre.length_le
    simp at hlength
  · rintro ⟨front, ⟨rest, rfl⟩, hne⟩
    have hrest : rest ≠ [] := fun he => hne (by rw [he, List.append_nil])
    rw [List.dropLast_append_of_ne_nil hrest]
    simp

theorem take_ne_nil {i : Nat} (hi : 0 < i) (hlength : i ≤ names.length) : names.take i ≠ [] := by
  apply List.ne_nil_of_length_pos
  rw [List.length_take]
  omega

theorem foldl_below_take (h : ∀ n ∈ names, n ≠ "") {i : Nat} (hi : 0 < i)
    (hlength : i ≤ names.length) :
    (names.take i).foldl below relative = pathBelow relative (names.take i) :=
  foldl_below (take_ne_nil hi hlength) fun n hn => h n (List.mem_of_mem_take hn)

theorem Visible.admitted (h : ∀ n ∈ names, n ≠ "") (hv : Visible f path relative names) :
    Admitted f path relative names where
  shown n hn := isHidden_eq_false_iff.mp (hv.shown n hn)
  named n hn := by
    obtain ⟨front, hpre, hne⟩ := mem_dropLast_iff.mp hn
    exact not_mem_skippedNames_iff.mp (enters_iff.mp (hv.entered front n hpre hne)).1
  outside i hi hlength := by
    obtain ⟨j, rfl⟩ : ∃ j, i = j + 1 := ⟨i - 1, by omega⟩
    have hj : j < names.length := by omega
    have htake : names.take j ++ [names[j]] = names.take (j + 1) := List.take_append_getElem hj
    have hne : names.take j ++ [names[j]] ≠ names := by
      intro he
      have hsame := congrArg List.length (htake.symm.trans he)
      rw [List.length_take] at hsame
      omega
    have hskip := (enters_iff.mp (hv.entered _ _ (htake ▸ List.take_prefix ..) hne)).2
    rwa [List.append_assoc, htake] at hskip
  included i hi hlength := by
    rw [← foldl_below_take h hi hlength]
    exact hv.included _ (List.take_prefix ..) (take_ne_nil hi hlength)

theorem Admitted.visible (h : ∀ n ∈ names, n ≠ "") (ha : Admitted f path relative names) :
    Visible f path relative names where
  shown n hn := isHidden_eq_false_iff.mpr (ha.shown n hn)
  included front hpre hne := by
    have hi := List.length_pos_iff.mpr hne
    rw [List.prefix_iff_eq_take.mp hpre, foldl_below_take h hi hpre.length_le]
    exact ha.included _ hi hpre.length_le
  entered front n hpre hne := by
    have hlt : (front ++ [n]).length < names.length :=
      lt_of_le_of_ne hpre.length_le fun he => hne (hpre.eq_of_length he)
    have hout := ha.outside (front ++ [n]).length (by simp) hlt
    rw [← List.prefix_iff_eq_take.mp hpre, ← List.append_assoc] at hout
    have hnamed := ha.named n (mem_dropLast_iff.mpr ⟨front, hpre, hne⟩)
    exact enters_iff.mpr ⟨not_mem_skippedNames_iff.mpr hnamed, hout⟩

/-! ## Walks -/

/-- What a walk through a directory finds. -/
theorem mem_walk_directory {t : FileTree α} (ht : t.Sound) (hd : t.isDirectory = true) {x : Found} :
    x ∈ walk f path relative t ↔ ∃ names, (∃ v, t.at? names = some (.file v)) ∧
      Admitted f path relative names ∧ x = ⟨path ++ names, pathBelow relative names⟩ := by
  rw [mem_walk_iff ht]
  refine exists_congr fun names => ?_
  rw [isDirectory?_eq_false_iff]
  refine and_congr_right fun ⟨v, hv⟩ => ?_
  have hnames : ∀ n ∈ names, n ≠ "" := fun n hn => ((ht.at? hv).1 n hn).1.1
  have hne : names ≠ [] := by
    rintro rfl
    cases Option.some.inj hv
    cases hd
  rw [foldl_below hne hnames]
  exact and_congr_left fun _ => ⟨Visible.admitted hnames, Admitted.visible hnames⟩

theorem lt_of_append_lt {xs ys : List String} (h : path ++ xs < path ++ ys) : xs < ys := by
  rcases lt_trichotomy xs ys with hlt | heq | hgt
  · exact hlt
  · exact absurd (heq ▸ h) (lt_irrefl _)
  · exact absurd h (lt_asymm (List.append_left_lt hgt))

/-- A walk through a directory finds each file that is admitted once, at the end of its names and with
these names after the path of the directory, and goes through them in the order of the bytes of their
names. -/
theorem walk_admitted_in_order (f : Filter) (path : RealPath) (relative : String) {t : FileTree α}
    (ht : t.Sound) (hd : t.isDirectory = true) :
    ∃ order : List (List String),
      walk f path relative t = order.map (fun names => ⟨path ++ names, pathBelow relative names⟩) ∧
      (order.Pairwise fun a b => a.map Text.bytes < b.map Text.bytes) ∧ order.Nodup ∧
      ∀ names, names ∈ order ↔
        (∃ v, t.at? names = some (.file v)) ∧ Admitted f path relative names := by
  have hfound : ∀ x ∈ walk f path relative t, ∃ names, (∃ v, t.at? names = some (.file v)) ∧
      Admitted f path relative names ∧ x = ⟨path ++ names, pathBelow relative names⟩ :=
    fun x hx => (mem_walk_directory ht hd).mp hx
  have hincreasing : ((walk f path relative t).map fun x => x.path.drop path.length).Pairwise
      fun a b => a < b := by
    rw [List.pairwise_map]
    refine (walk_increasing ht).imp_of_mem fun {x y} hx hy hlt => ?_
    obtain ⟨xs, -, -, rfl⟩ := hfound x hx
    obtain ⟨ys, -, -, rfl⟩ := hfound y hy
    rw [List.drop_left, List.drop_left]
    exact lt_of_append_lt hlt
  refine ⟨(walk f path relative t).map fun x => x.path.drop path.length, ?_, ?_, ?_, fun names => ?_⟩
  · rw [List.map_map]
    refine (List.map_id'' (fun _ => rfl) _).symm.trans (List.map_congr_left fun x hx => ?_)
    obtain ⟨names, -, -, rfl⟩ := hfound x hx
    rw [Function.comp_apply, List.drop_left]
  · exact hincreasing.imp fun h => List.map_lt (fun _ _ => Text.bytes_lt) h
  · exact hincreasing.imp fun h => ne_of_lt h
  · rw [List.mem_map]
    constructor
    · rintro ⟨x, hx, rfl⟩
      obtain ⟨names, hfile, hadmitted, rfl⟩ := hfound x hx
      rw [List.drop_left]
      exact ⟨hfile, hadmitted⟩
    · rintro ⟨hfile, hadmitted⟩
      exact ⟨_, (mem_walk_directory ht hd).mpr ⟨names, hfile, hadmitted, rfl⟩, List.drop_left⟩

/-- A file may be called `target`, but a directory with that name is not entered. -/
theorem walk_admitted_in_order_target :
    ∃ order : List (List String),
      walk {} ["r"] "p" (.directory [("b", .directory [("target", .file ())]),
        ("target", .directory [("x", .file ())])]) =
        order.map (fun names => ⟨["r"] ++ names, pathBelow "p" names⟩) ∧
      ["b", "target"] ∈ order ∧ ["target", "x"] ∉ order := by
  have hsub : ∀ n, IsEntryName n → Sound (.directory [(n, .file ())]) := fun n hn =>
    .directory (by simp) (List.forall_mem_singleton.mpr hn) (List.forall_mem_singleton.mpr (.file _))
  have hsound : Sound (.directory [("b", .directory [("target", .file ())]),
      ("target", .directory [("x", .file ())])]) :=
    .directory (by decide) (List.forall_mem_cons.mpr ⟨by decide, by decide⟩)
      (List.forall_mem_cons.mpr ⟨hsub _ (by decide), List.forall_mem_singleton.mpr (hsub _ (by decide))⟩)
  obtain ⟨order, hwalk, -, -, hmem⟩ := walk_admitted_in_order {} ["r"] "p" hsound rfl
  refine ⟨order, hwalk, (hmem _).mpr ⟨⟨(), rfl⟩, by decide, by decide, ?_, fun _ _ _ => rfl⟩, ?_⟩
  · simp
  · exact fun h => (((hmem _).mp h).2.named "target" (by decide)).1 rfl

end Marginalia.Discovery
