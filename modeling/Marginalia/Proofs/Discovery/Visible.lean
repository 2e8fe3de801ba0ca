import Marginalia.Discovery
import Marginalia.Proofs.Files.Tree
import Mathlib.Data.List.Lex
import Mathlib.Data.List.Sort
import Mathlib.Data.String.Basic

/-! What a walk finds: the visible files of a tree, each of them once, in the order of their paths. So
two trees in which the same files are visible are walked alike, whatever else they hold. -/
namespace Marginalia.Discovery
open Files FileTree
set_option autoImplicit false

variable {α β : Type} {f g : Filter} {path : RealPath} {relative : String}

/-! ## Visible places -/

theorem enters_iff {name : String} :
    enters f path name = true ↔ name ∉ skippedNames ∧ f.skipped ≠ some (path ++ [name]) := by
  simp [enters]

/-- No name on the way to a place is hidden, nothing on the way is excluded, and every directory on
the way may be entered. -/
structure Visible (f : Filter) (path : RealPath) (relative : String) (names : List String) :
    Prop where
  shown : ∀ n ∈ names, isHidden n = false
  included : ∀ front, front <+: names → front ≠ [] → f.excluded (front.foldl below relative) = false
  entered : ∀ front n, front ++ [n] <+: names → front ++ [n] ≠ names →
    enters f (path ++ front) n = true

theorem visible_nil : Visible f path relative [] := by
  refine ⟨by simp, fun front hfront hne => ?_, fun front n hfront => ?_⟩
  · exact absurd (List.prefix_nil.mp hfront) hne
  · simp at hfront

theorem visible_cons {n : String} {names : List String} :
    Visible f path relative (n :: names) ↔
      (isHidden n = false ∧ f.excluded (below relative n) = false ∧
        (names ≠ [] → enters f path n = true)) ∧
      Visible f (path ++ [n]) (below relative n) names := by
  constructor
  · intro h
    refine ⟨⟨h.shown n (List.mem_cons_self ..), ?_, fun hne => ?_⟩, ?_, fun front hfront hne => ?_,
      fun front m hfront hne => ?_⟩
    · exact h.included [n] (by simp) (by simp)
    · have hfirst := h.entered [] n (by simp) (by simpa using Ne.symm hne)
      rwa [List.append_nil] at hfirst
    · exact fun m hm => h.shown m (List.mem_cons_of_mem n hm)
    · exact h.included (n :: front) (List.cons_prefix_cons.mpr ⟨rfl, hfront⟩) (by simp)
    · have hnext := h.entered (n :: front) m (List.cons_prefix_cons.mpr ⟨rfl, hfront⟩)
        (by simpa using hne)
      rwa [← List.singleton_append, ← List.append_assoc] at hnext
  · rintro ⟨⟨hshown, hincluded, hentered⟩, h⟩
    refine ⟨List.forall_mem_cons.mpr ⟨hshown, h.shown⟩, fun front hfront hne => ?_,
      fun front m hfront hne => ?_⟩
    · obtain ⟨k, front, rfl⟩ := List.exists_cons_of_ne_nil hne
      obtain ⟨rfl, hrest⟩ := List.cons_prefix_cons.mp hfront
      by_cases he : front = []
      · rw [he]
        exact hincluded
      · exact h.included front hrest he
    · cases front with
      | nil =>
        rw [List.nil_append] at hfront hne
        obtain ⟨rfl, -⟩ := List.cons_prefix_cons.mp hfront
        rw [List.append_nil]
        exact hentered fun he => hne (by rw [he])
      | cons k front =>
        rw [List.cons_append] at hfront hne
        obtain ⟨rfl, hrest⟩ := List.cons_prefix_cons.mp hfront
        have hnext := h.entered front m hrest fun he => hne (by rw [he])
        rwa [List.append_assoc, List.singleton_append] at hnext

/-! ## Walks -/

theorem mem_walkEntries {es : List (String × FileTree α)} {name : String} {found : List Found} :
    (name, found) ∈ walkEntries f path relative es ↔ ∃ t, (name, t) ∈ es ∧ isHidden name = false ∧
      f.excluded (below relative name) = false ∧ (t.isDirectory = true → enters f path name = true) ∧
      found = walk f (path ++ [name]) (below relative name) t := by
  induction es with
  | nil => simp [walkEntries]
  | cons d es ih =>
    obtain ⟨n, t⟩ := d
    rw [walkEntries]
    simp only [List.mem_cons, Prod.mk.injEq, or_and_right, exists_or, ← ih]
    split_ifs with hout hno
    · rw [Bool.or_eq_true] at hout
      rw [iff_or_self]
      rintro ⟨u, ⟨rfl, rfl⟩, hh, he, -⟩
      simp [hh, he] at hout
    · rw [Bool.and_eq_true, Bool.not_eq_true'] at hno
      rw [iff_or_self]
      rintro ⟨u, ⟨rfl, rfl⟩, -, -, henter, -⟩
      simp [henter hno.1] at hno
    · rw [List.mem_cons, Prod.mk.injEq]
      refine or_congr_left ⟨?_, ?_⟩
      · rintro ⟨rfl, rfl⟩
        rw [Bool.or_eq_true, not_or, Bool.not_eq_true, Bool.not_eq_true] at hout
        rw [Bool.and_eq_true, not_and, Bool.not_eq_true', Bool.not_eq_false] at hno
        exact ⟨t, ⟨rfl, rfl⟩, hout.1, hout.2, hno, rfl⟩
      · rintro ⟨u, ⟨rfl, rfl⟩, -, -, -, rfl⟩
        exact ⟨rfl, rfl⟩

theorem names_walkEntries (es : List (String × FileTree α)) :
    ((walkEntries f path relative es).map (·.1)).Sublist (es.map (·.1)) := by
  induction es with
  | nil => simp [walkEntries]
  | cons d es ih =>
    obtain ⟨n, t⟩ := d
    rw [walkEntries, List.map_cons]
    split_ifs
    · exact ih.cons n
    · exact ih.cons n
    · exact ih.cons_cons n

theorem mem_inOrder {found : List (String × List Found)} {x : Found} :
    x ∈ inOrder found ↔ ∃ e ∈ found, x ∈ e.2 := by
  rw [inOrder, List.mem_flatMap]
  simp only [(List.mergeSort_perm _ _).mem_iff]

/-- A walk finds the files that are visible, and nothing else. -/
theorem mem_walk_iff {t : FileTree α} (ht : t.Sound) {x : Found} :
    x ∈ walk f path relative t ↔ ∃ names, t.isDirectory? names = some false ∧
      Visible f path relative names ∧ x = ⟨path ++ names, names.foldl below relative⟩ := by
  induction ht generalizing path relative with
  | file v =>
    rw [walk, List.mem_singleton]
    constructor
    · rintro rfl
      exact ⟨[], rfl, visible_nil, by rw [List.append_nil]; rfl⟩
    · rintro ⟨names, hfile, -, rfl⟩
      cases names with
      | nil => rw [List.append_nil]; rfl
      | cons n names => cases hfile
  | @directory es nodup names below ih =>
    rw [walk, mem_inOrder]
    constructor
    · rintro ⟨⟨n, found⟩, he, hx⟩
      obtain ⟨t, ht, hh, hexcluded, henter, rfl⟩ := mem_walkEntries.mp he
      obtain ⟨rest, hfile, hvisible, rfl⟩ := (ih _ ht).mp hx
      refine ⟨n :: rest, ?_, visible_cons.mpr ⟨⟨hh, hexcluded, fun hne => henter ?_⟩, hvisible⟩, ?_⟩
      · rw [isDirectory?_cons, entries, (lookup_eq_some_iff_mem nodup).mpr ht]
        exact hfile
      · obtain ⟨m, rest, rfl⟩ := List.exists_cons_of_ne_nil hne
        exact Option.some.inj (isDirectory?_above (p := []) hfile (by simp))
      · simp
    · rintro ⟨ns, hfile, hvisible, rfl⟩
      cases ns with
      | nil => cases hfile
      | cons n rest =>
        rw [isDirectory?_cons, Option.bind_eq_some_iff] at hfile
        obtain ⟨t, hlookup, hfile⟩ := hfile
        have ht := (lookup_eq_some_iff_mem nodup).mp hlookup
        obtain ⟨⟨hh, hexcluded, henter⟩, hvisible⟩ := visible_cons.mp hvisible
        refine ⟨(n, _), mem_walkEntries.mpr ⟨t, ht, hh, hexcluded, fun hdir => henter ?_, rfl⟩,
          (ih _ ht).mpr ⟨rest, hfile, hvisible, by simp⟩⟩
        rintro rfl
        cases hdir.symm.trans (Option.some.inj hfile)

/-! ## Order -/

theorem mergeSort_names {found : List (String × List Found)} (h : (found.map (·.1)).Nodup) :
    (found.mergeSort fun a b => a.1 ≤ b.1).Pairwise fun a b => a.1 < b.1 := by
  have hle : (found.mergeSort fun a b => a.1 ≤ b.1).Pairwise fun a b => decide (a.1 ≤ b.1) :=
    List.pairwise_mergeSort
      (fun a b c hab hbc => by
        rw [decide_eq_true_eq] at hab hbc ⊢
        exact hab.trans hbc)
      (fun a b => by
        rw [Bool.or_eq_true, decide_eq_true_eq, decide_eq_true_eq]
        exact le_total _ _) found
  have hne := ((List.mergeSort_perm found fun a b => a.1 ≤ b.1).map (·.1)).nodup_iff.mpr h
  rw [List.Nodup, List.pairwise_map] at hne
  refine hle.imp₂ (fun a b hab hab' => ?_) hne
  exact lt_of_le_of_ne (of_decide_eq_true hab) hab'

theorem append_lt_append (path : RealPath) {a b : String} (h : a < b) (xs ys : List String) :
    path ++ [a] ++ xs < path ++ [b] ++ ys := by
  rw [List.append_assoc, List.append_assoc]
  exact List.append_left_lt (List.cons_lt_cons_iff.mpr (.inl h))

/-- A walk goes through the files in the order of their paths. -/
theorem walk_increasing {t : FileTree α} (ht : t.Sound) :
    (walk f path relative t).Pairwise fun x y => x.path < y.path := by
  induction ht generalizing path relative with
  | file v => simp [walk]
  | @directory es nodup names below ih =>
    rw [walk, inOrder, List.pairwise_flatMap]
    refine ⟨fun ⟨n, found⟩ he => ?_, ?_⟩
    · rw [(List.mergeSort_perm _ _).mem_iff] at he
      obtain ⟨t, ht, -, -, -, rfl⟩ := mem_walkEntries.mp he
      exact ih _ ht
    · refine (mergeSort_names (nodup.sublist (names_walkEntries es))).imp_of_mem ?_
      rintro ⟨a, as⟩ ⟨b, bs⟩ ha hb hab x hx y hy
      rw [(List.mergeSort_perm _ _).mem_iff] at ha hb
      obtain ⟨t, ht, -, -, -, rfl⟩ := mem_walkEntries.mp ha
      obtain ⟨u, hu, -, -, -, rfl⟩ := mem_walkEntries.mp hb
      obtain ⟨xs, -, -, rfl⟩ := (mem_walk_iff (below _ ht)).mp hx
      obtain ⟨ys, -, -, rfl⟩ := (mem_walk_iff (below _ hu)).mp hy
      exact append_lt_append path hab xs ys

/-- Trees in which the same files are visible are walked alike. -/
theorem walk_congr {t : FileTree α} {u : FileTree β} (ht : t.Sound) (hu : u.Sound)
    (h : ∀ names, t.isDirectory? names = some false ∧ Visible f path relative names ↔
      u.isDirectory? names = some false ∧ Visible g path relative names) :
    walk f path relative t = walk g path relative u := by
  have hirrefl : Std.Irrefl fun x y : Found => x.path < y.path := ⟨fun x => lt_irrefl x.path⟩
  have hanti : Std.Antisymm fun x y : Found => x.path < y.path :=
    ⟨fun x y hxy hyx => absurd hyx (lt_asymm hxy)⟩
  refine (walk_increasing ht).eq_of_mem_iff (walk_increasing hu) fun x => ?_
  rw [mem_walk_iff ht, mem_walk_iff hu]
  simp only [← and_assoc, h]

/-! ## Several places -/

/-- Two places at one path that are walked alike. -/
structure Alike (f g : Filter) (p : Place α) (q : Place β) : Prop where
  path : p.path = q.path
  isDirectory : p.tree.isDirectory = q.tree.isDirectory
  walk : ∀ relative, walk f p.path relative p.tree = walk g q.path relative q.tree

theorem base_congr {ps : List (Place α)} {qs : List (Place β)}
    (h : List.Forall₂ (Alike f g) ps qs) : base ps = base qs := by
  have hdir : ∀ (p : Place α) (q : Place β), Alike f g p q → p.directory = q.directory := by
    intro p q hpq
    rw [Place.directory, Place.directory, hpq.path, hpq.isDirectory]
  cases h with
  | nil => rfl
  | cons hpq hrest =>
    rw [base, base, hdir _ _ hpq]
    generalize Place.directory _ = start
    induction hrest generalizing start with
    | nil => rfl
    | cons hpq hrest ih =>
      rw [List.foldl_cons, List.foldl_cons, hdir _ _ hpq]
      exact ih _

theorem look_congr (he : f.excluded = g.excluded) {p : Place α} {q : Place β} (h : Alike f g p q)
    (base : RealPath) : look f base p = look g base q := by
  rw [look, look, he, h.isDirectory, h.walk, h.path]

theorem collect_congr (he : f.excluded = g.excluded) {ps : List (Place α)} {qs : List (Place β)}
    (h : List.Forall₂ (Alike f g) ps qs) : collect f ps = collect g qs := by
  rw [collect, collect, base_congr h]
  congr 1
  generalize base qs = start
  induction h with
  | nil => rfl
  | cons hpq hrest ih => rw [List.flatMap_cons, List.flatMap_cons, look_congr he hpq, ih]

/-- Of the files with one path inside the project one is kept. -/
theorem relative_mem_firstOfEach {found : List Found} {x : Found} (h : x ∈ found) :
    x.relative ∈ (firstOfEach found).map (·.relative) := by
  have hrun : ∀ kept : List Found, x.relative ∈ kept.map (·.relative) ∨ x ∈ found →
      x.relative ∈ (found.foldl (fun kept y =>
        if kept.any (·.relative = y.relative) then kept else kept ++ [y]) kept).map (·.relative) := by
    clear h
    induction found with
    | nil => simp
    | cons y found ih =>
      intro kept hx
      rw [List.foldl_cons]
      apply ih
      rcases hx with hx | hx
      · left
        split_ifs
        · exact hx
        · rw [List.map_append]
          exact List.mem_append_left _ hx
      · rcases List.mem_cons.mp hx with rfl | hx
        · left
          split_ifs with hany
          · obtain ⟨z, hz, he⟩ := List.any_eq_true.mp hany
            exact List.mem_map.mpr ⟨z, hz, of_decide_eq_true he⟩
          · simp
        · exact .inr hx
  exact hrun [] (.inr h)

theorem relative_mem_collect {ps : List (Place α)} {p : Place α} (hp : p ∈ ps) {x : Found}
    (hx : x ∈ look f (base ps) p) : x.relative ∈ (collect f ps).map (·.relative) :=
  relative_mem_firstOfEach (List.mem_flatMap.mpr ⟨p, hp, hx⟩)

end Marginalia.Discovery
