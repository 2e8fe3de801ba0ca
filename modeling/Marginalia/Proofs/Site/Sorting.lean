import Marginalia.Proofs.Site.Places

/-! The order of a site's documents is a plain sort of their paths. The tree of contents, which is
sorted level by level, gives the same order as comparing the segments of the paths one by one. -/
namespace Marginalia.Site
open Marginalia.Path
set_option autoImplicit false

/-! ## Keys of paths -/

/-- What a segment is sorted by: directories come before files, then counts the name in lower case,
then the name. -/
def segmentKey (isFile : Bool) (name : String) : Bool ×ₗ String ×ₗ String :=
  toLex (isFile, toLex (Text.lower name, name))

/-- What a path is sorted by: its segments one after the other, of which all but the last are
directories. -/
def sortKey (path : String) : List (Bool ×ₗ String ×ₗ String) :=
  (segments path).dropLast.map (segmentKey false) ++ [segmentKey true (fileName path)]

theorem pathKey_append_singleton (dirs : List String) (file : String) :
    Contents.pathKey (dirs ++ [file]) = dirs.map (segmentKey false) ++ [segmentKey true file] := by
  induction dirs with
  | nil => rfl
  | cons dir dirs ih =>
    have hdir : Contents.labelRank (Contents.headLabel (dir :: (dirs ++ [file]))) =
        segmentKey false dir := by
      simp [Contents.headLabel, Contents.labelRank, segmentKey]
    rw [List.cons_append, Contents.pathKey, ih, hdir, List.map_cons, List.cons_append]

theorem pathKey_segments (path : String) : Contents.pathKey (segments path) = sortKey path := by
  rw [segments_eq_dropLast_append, pathKey_append_singleton, sortKey]

/-! ## Documents in order -/

/-- The files in the contents of a site are its documents, each at its path. -/
theorem arrange_entries (name : String) (ds : List Document) :
    Contents.entriesAll (Contents.rootChildren (ds.map fun d => (d.source, d))) =
      (arrange name ds).documents.map fun d => (segments d.source, d) := by
  have hdocuments : (arrange name ds).documents =
      (Contents.entriesAll (Contents.rootChildren (ds.map fun d => (d.source, d)))).map (·.2) := by
    rw [arrange_eq]
    exact Contents.valuesAll_eq _
  rw [hdocuments, List.map_map]
  symm
  refine (List.map_congr_left fun e he => ?_).trans (List.map_id _)
  have hmem := (Contents.rootChildren_entries _).mem_iff.mp he
  simp only [List.map_map, List.mem_map, Function.comp_apply] at hmem
  obtain ⟨d, -, rfl⟩ := hmem
  rfl

theorem nodup_paths {ds : List Document} (hn : (ds.map (·.source)).Nodup) :
    ((ds.map fun d => (d.source, d)).map (·.1)).Nodup := by
  rw [List.map_map]
  exact hn

theorem arrange_increasing (name : String) {ds : List Document} (hn : (ds.map (·.source)).Nodup) :
    (arrange name ds).documents.Pairwise fun d e => sortKey d.source < sortKey e.source := by
  have hentries := Contents.rootChildren_increasing (nodup_paths hn)
  rw [arrange_entries name, List.pairwise_map] at hentries
  simpa only [pathKey_segments] using hentries

theorem arrange_eq_mergeSort (name : String) {ds : List Document}
    (hn : (ds.map (·.source)).Nodup) : (arrange name ds).documents =
      ds.mergeSort fun d e => sortKey d.source ≤ sortKey e.source := by
  have hsorted : (ds.mergeSort fun d e => sortKey d.source ≤ sortKey e.source).Pairwise
      fun d e => decide (sortKey d.source ≤ sortKey e.source) := List.pairwise_mergeSort
    (fun a b c hab hbc => by
      rw [decide_eq_true_eq] at hab hbc ⊢
      exact hab.trans hbc)
    (fun a b => by
      rw [Bool.or_eq_true, decide_eq_true_eq, decide_eq_true_eq]
      exact le_total _ _) ds
  have hincreasing := arrange_increasing name hn
  have hkeys : ((arrange name ds).documents.map fun d => sortKey d.source).Nodup := by
    rw [List.Nodup, List.pairwise_map]
    exact hincreasing.imp fun h => h.ne
  have hperm := (arrange_documents_perm name ds).trans
    (List.mergeSort_perm ds fun d e => decide (sortKey d.source ≤ sortKey e.source)).symm
  refine hperm.eq_of_pairwise ?_ (hincreasing.imp fun h => h.le)
    (hsorted.imp fun h => of_decide_eq_true h)
  -- the keys differ, so the two orders leave no choice
  intro d e hd he hde hed
  exact List.inj_on_of_nodup_map hkeys hd (hperm.mem_iff.mpr he) (le_antisymm hde hed)

/-! ## One file before another -/

theorem pair_sublist_iff {α : Type} {R : α → α → Prop} (hR : ∀ a b, R a b → ¬ R b a) {l : List α}
    (h : l.Pairwise R) {a b : α} (ha : a ∈ l) (hb : b ∈ l) : [a, b].Sublist l ↔ R a b := by
  constructor
  · intro hsub
    exact (List.pairwise_cons.mp (h.sublist hsub)).1 b (List.mem_singleton_self b)
  · intro hab
    obtain ⟨front, back, rfl⟩ := List.append_of_mem ha
    obtain ⟨-, hback, hcross⟩ := List.pairwise_append.mp h
    rcases List.mem_append.mp hb with hb | hb
    · exact absurd (hcross b hb a (List.mem_cons_self ..)) (hR a b hab)
    · rcases List.mem_cons.mp hb with rfl | hb
      · exact absurd hab (hR b b hab)
      · exact ((List.singleton_sublist.mpr hb).cons_cons a).trans (List.sublist_append_right _ _)

theorem arrange_before_iff (name : String) {ds : List Document} (hn : (ds.map (·.source)).Nodup)
    {p q : String} (hp : p ∈ ds.map (·.source)) (hq : q ∈ ds.map (·.source)) :
    [p, q].Sublist ((arrange name ds).documents.map (·.source)) ↔ sortKey p < sortKey q := by
  have hperm := (arrange_documents_perm name ds).map (·.source)
  have hincreasing := List.pairwise_map (R := fun p q => sortKey p < sortKey q) |>.mpr
    (arrange_increasing name hn)
  exact pair_sublist_iff (fun _ _ => lt_asymm) hincreasing (hperm.mem_iff.mpr hp)
    (hperm.mem_iff.mpr hq)

/-- The documents of a site are the given ones, sorted by their paths. So which of two files comes
first does not depend on the other files of the site. -/
theorem documents_sorted_by_path (name : String) {ds : List Document}
    (hn : (ds.map (·.source)).Nodup) :
    (arrange name ds).documents.Perm ds ∧
    ((arrange name ds).documents.Pairwise fun d e => sortKey d.source < sortKey e.source) ∧
    ((arrange name ds).documents = ds.mergeSort fun d e => sortKey d.source ≤ sortKey e.source) ∧
    ∀ (name' : String) (es : List Document), (es.map (·.source)).Nodup → ∀ p q : String,
      p ∈ ds.map (·.source) → q ∈ ds.map (·.source) →
      p ∈ es.map (·.source) → q ∈ es.map (·.source) →
      ([p, q].Sublist ((arrange name ds).documents.map (·.source)) ↔
        [p, q].Sublist ((arrange name' es).documents.map (·.source))) := by
  refine ⟨arrange_documents_perm name ds, arrange_increasing name hn, arrange_eq_mergeSort name hn,
    ?_⟩
  intro name' es hn' p q hp hq hp' hq'
  rw [arrange_before_iff name hn hp hq, arrange_before_iff name' hn' hp' hq']

/-- A directory comes before a file of the same name, whatever else there is. -/
theorem documents_sorted_among_others :
    [.read "a" "" (.named "Text") {}, .read "a/b.md" "" (.named "Text") {}].Pairwise
      (fun d e : Document => d.source ≠ e.source) ∧
    (arrange "notes" [.read "a" "" (.named "Text") {},
      .read "a/b.md" "" (.named "Text") {}]).documents.Pairwise
        (fun d e => sortKey d.source < sortKey e.source) ∧
    (["a/b.md", "a"].Sublist ((arrange "notes" [.read "a" "" (.named "Text") {},
        .read "a/b.md" "" (.named "Text") {}]).documents.map (·.source)) ↔
      ["a/b.md", "a"].Sublist ((arrange "more" [.read "a/b.md" "" (.named "Text") {},
        .read "A/B/c.md" "" (.named "Text") {},
        .read "a" "" (.named "Text") {}]).documents.map (·.source))) := by
  obtain ⟨-, hincreasing, -, hsame⟩ := @documents_sorted_by_path "notes"
    [.read "a" "" (.named "Text") {}, .read "a/b.md" "" (.named "Text") {}] (by decide)
  exact ⟨by decide, hincreasing, hsame "more" _ (by decide) "a/b.md" "a" (by decide) (by decide)
    (by decide) (by decide)⟩

end Marginalia.Site
