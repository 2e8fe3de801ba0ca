import Marginalia.Proofs.Site.Entries
import Mathlib.Data.List.Lex
import Mathlib.Data.List.Nodup
import Mathlib.Data.Prod.Lex
import Mathlib.Data.String.Basic

/-! The order of a tree of contents. Sorting a sound tree level by level puts its files in the order
of one key of their paths, and a sound tree is known by its files; so a sorted tree depends on
nothing but the set of files in it. -/
namespace Marginalia.Contents
set_option autoImplicit false

variable {α : Type}

/-! ## Ranks and keys -/

/-- Where a label comes among its siblings: directories first, then by name in lower case, then by
name. -/
def labelRank (l : Bool × String) : Bool ×ₗ String ×ₗ String :=
  toLex (!l.1, toLex (Text.lower l.2, l.2))

/-- What the files of a site are sorted by: the ranks along their paths. -/
def pathKey : List String → List (Bool ×ₗ String ×ₗ String)
  | [] => []
  | s :: rest => labelRank (headLabel (s :: rest)) :: pathKey rest

theorem labelRank_injective : Function.Injective labelRank := by
  intro a b h
  have h1 := congrArg (fun r => (ofLex r).1) h
  have h2 := congrArg (fun r => (ofLex (ofLex r).2).2) h
  simp only [labelRank, ofLex_toLex, Bool.not_inj_iff] at h1 h2
  exact Prod.ext h1 h2

theorem precedes_iff (a b : Contents α) :
    precedes a b = true ↔ labelRank a.label ≤ labelRank b.label := by
  have hname : (if Text.lower a.name = Text.lower b.name then decide (a.name ≤ b.name)
      else decide (Text.lower a.name < Text.lower b.name)) = true ↔
      Text.lower a.name < Text.lower b.name ∨
        Text.lower a.name = Text.lower b.name ∧ a.name ≤ b.name := by
    split
    next he => simp [he]
    next hne => simp [hne]
  simp only [labelRank, label, Prod.Lex.toLex_le_toLex]
  rw [← hname, precedes]
  cases a.isDirectory <;> cases b.isDirectory <;> simp

theorem pathKey_lt_of_rank {a b : Contents α} (h : labelRank a.label < labelRank b.label)
    {x y : List String × α} (hx : x ∈ a.entries) (hy : y ∈ b.entries) :
    pathKey x.1 < pathKey y.1 := by
  obtain ⟨s, p, hp⟩ := List.exists_cons_of_ne_nil (path_ne_nil_of_mem_entries hx)
  obtain ⟨t, q, hq⟩ := List.exists_cons_of_ne_nil (path_ne_nil_of_mem_entries hy)
  rw [← headLabel_of_mem_entries hx, ← headLabel_of_mem_entries hy, hp, hq] at h
  rw [hp, hq, pathKey, pathKey, List.cons_lt_cons_iff]
  exact .inl h

theorem pathKey_cons_lt {dir : String} {p q : List String} (hp : p ≠ []) (hq : q ≠ [])
    (h : pathKey p < pathKey q) : pathKey (dir :: p) < pathKey (dir :: q) := by
  rw [pathKey, pathKey, List.cons_lt_cons_iff, headLabel, headLabel,
    List.isEmpty_eq_false_iff.mpr hp, List.isEmpty_eq_false_iff.mpr hq]
  exact .inr ⟨rfl, h⟩

/-! ## Sorting -/

theorem sortAll_eq_map (cs : List (Contents α)) : sortAll cs = cs.map sort := by
  induction cs with
  | nil => rfl
  | cons c cs ih => rw [sortAll, List.map_cons, ih]

theorem label_sort (c : Contents α) : c.sort.label = c.label := by
  cases c <;> rfl

theorem map_label_sortAll (cs : List (Contents α)) : (sortAll cs).map label = cs.map label := by
  rw [sortAll_eq_map, List.map_map]
  exact List.map_congr_left fun c _ => label_sort c

mutual

theorem entries_sort (c : Contents α) : c.sort.entries.Perm c.entries := by
  match c with
  | .file name value => exact .refl _
  | .directory name path children =>
    rw [sort, entries, entries]
    have hm := entriesAll_perm (List.mergeSort_perm (sortAll children) precedes)
    exact (hm.trans (entriesAll_sortAll children)).map _

theorem entriesAll_sortAll (cs : List (Contents α)) :
    (entriesAll (sortAll cs)).Perm (entriesAll cs) := by
  match cs with
  | [] => exact .refl _
  | c :: cs =>
    rw [sortAll, entriesAll, entriesAll]
    exact (entries_sort c).append (entriesAll_sortAll cs)

end

mutual

theorem Sound.sort {path : String} (c : Contents α) (h : c.Sound path) : c.sort.Sound path := by
  match c, h with
  | .file name value, _ => trivial
  | .directory name below children, h =>
    rw [Contents.sort]
    refine ⟨h.1, ?_, ?_⟩
    · intro he
      have hl := (List.mergeSort_perm (sortAll children) precedes).length_eq
      rw [he, sortAll_eq_map, List.length_map] at hl
      exact h.2.1 (List.length_eq_zero_iff.mp hl.symm)
    · exact (SoundAll.sortAll children h.2.2).perm (List.mergeSort_perm _ _).symm

theorem SoundAll.sortAll {path : String} (cs : List (Contents α)) (h : SoundAll path cs) :
    SoundAll path (sortAll cs) := by
  match cs, h with
  | [], _ => trivial
  | c :: cs, h =>
    rw [Contents.sortAll]
    refine ⟨Sound.sort c h.1, ?_, SoundAll.sortAll cs h.2.2⟩
    rw [map_label_sortAll, label_sort]
    exact h.2.1

end

/-- Sorted siblings come in strictly increasing rank, since no two share a label. -/
theorem mergeSort_increasing {path : String} {cs : List (Contents α)} (h : SoundAll path cs) :
    (cs.mergeSort precedes).Pairwise (fun a b => labelRank a.label < labelRank b.label) := by
  have hle : (cs.mergeSort precedes).Pairwise (fun a b => precedes a b) := List.pairwise_mergeSort
    (fun a b c hab hbc => by
      rw [precedes_iff] at hab hbc ⊢
      exact hab.trans hbc)
    (fun a b => by
      rw [Bool.or_eq_true, precedes_iff, precedes_iff]
      exact le_total _ _) cs
  have hne := (soundAll_iff.mp (h.perm (List.mergeSort_perm cs precedes).symm)).2
  rw [List.Nodup, List.pairwise_map] at hne
  refine hle.imp₂ ?_ hne
  intro a b hab hn
  rw [precedes_iff] at hab
  exact lt_of_le_of_ne hab (fun e => hn (labelRank_injective e))

/-- Sorted siblings hold their files in the order of their keys, if each of them does. -/
theorem mergeSort_entries_increasing {path : String} {cs : List (Contents α)}
    (h : SoundAll path cs)
    (heach : ∀ c ∈ cs, c.entries.Pairwise (fun x y => pathKey x.1 < pathKey y.1)) :
    (entriesAll (cs.mergeSort precedes)).Pairwise (fun x y => pathKey x.1 < pathKey y.1) := by
  rw [entriesAll_eq_flatMap, List.pairwise_flatMap]
  refine ⟨fun c hc => heach c ((List.mergeSort_perm _ _).mem_iff.mp hc), ?_⟩
  exact (mergeSort_increasing h).imp fun hab x hx y hy => pathKey_lt_of_rank hab hx hy

mutual

theorem entries_sort_increasing {path : String} (c : Contents α) (h : c.Sound path) :
    c.sort.entries.Pairwise (fun x y => pathKey x.1 < pathKey y.1) := by
  match c, h with
  | .file name value, _ => simp [Contents.sort, entries]
  | .directory name below children, h =>
    have hall := mergeSort_entries_increasing (SoundAll.sortAll children h.2.2)
      (sortAll_increasing children h.2.2)
    rw [Contents.sort, entries, List.pairwise_map]
    refine hall.imp_of_mem ?_
    intro x y hx hy hxy
    exact pathKey_cons_lt (path_ne_nil_of_mem_entriesAll hx) (path_ne_nil_of_mem_entriesAll hy) hxy

theorem sortAll_increasing {path : String} (cs : List (Contents α)) (h : SoundAll path cs) :
    ∀ d ∈ sortAll cs, d.entries.Pairwise (fun x y => pathKey x.1 < pathKey y.1) := by
  match cs, h with
  | [], _ => simp [sortAll]
  | c :: cs, h =>
    rw [sortAll, List.forall_mem_cons]
    exact ⟨entries_sort_increasing c h.1, sortAll_increasing cs h.2.2⟩

end

/-! ## A sound tree is known by its entries -/

theorem filter_headLabel {path : String} {c : Contents α} {cs : List (Contents α)}
    (h : SoundAll path (c :: cs)) :
    (entriesAll (c :: cs)).filter (fun e => headLabel e.1 = c.label) = c.entries := by
  have hc : c.entries.filter (fun e => headLabel e.1 = c.label) = c.entries := by
    rw [List.filter_eq_self]
    intro e he
    simpa using headLabel_of_mem_entries he
  have hcs : (entriesAll cs).filter (fun e => headLabel e.1 = c.label) = [] := by
    rw [List.filter_eq_nil_iff]
    intro e he
    rw [entriesAll_eq_flatMap, List.mem_flatMap] at he
    obtain ⟨d, hd, hed⟩ := he
    rw [headLabel_of_mem_entries hed, decide_eq_true_eq]
    intro hl
    exact h.2.1 (hl ▸ List.mem_map_of_mem hd)
  rw [entriesAll, List.filter_append, hc, hcs, List.append_nil]

theorem label_eq_of_entriesAll_eq {path : String} {c d : Contents α} {cs ds : List (Contents α)}
    (hc : c.Sound path) (hd : d.Sound path)
    (h : entriesAll (c :: cs) = entriesAll (d :: ds)) : c.label = d.label := by
  obtain ⟨x, xs, hx⟩ := List.exists_cons_of_ne_nil hc.entries_ne_nil
  obtain ⟨y, ys, hy⟩ := List.exists_cons_of_ne_nil hd.entries_ne_nil
  rw [entriesAll, entriesAll, hx, hy, List.cons_append, List.cons_append, List.cons.injEq] at h
  have hxc := headLabel_of_mem_entries (c := c) (e := x) (by simp [hx])
  have hyd := headLabel_of_mem_entries (c := d) (e := y) (by simp [hy])
  rw [← hxc, ← hyd, h.1]

mutual

theorem eq_of_entries_eq {path : String} (c d : Contents α) (hc : c.Sound path) (hd : d.Sound path)
    (hl : c.label = d.label) (h : c.entries = d.entries) : c = d := by
  match c, d, hc, hd with
  | .file name value, .file name' value', _, _ =>
    simp only [entries, List.cons.injEq, Prod.mk.injEq, and_true] at h
    rw [h.1, h.2]
  | .file .., .directory .., _, _ => simp [label, isDirectory] at hl
  | .directory .., .file .., _, _ => simp [label, isDirectory] at hl
  | .directory name below children, .directory name' below' children', hc, hd =>
    have hn : name = name' := by simpa [label, Contents.name, isDirectory] using hl
    subst hn
    have hb : below = below' := hc.1.trans hd.1.symm
    subst hb
    rw [entries, entries] at h
    have hinj : Function.Injective (fun e : List String × α => (name :: e.1, e.2)) := by
      rintro ⟨p, v⟩ ⟨q, w⟩ he
      simpa using he
    rw [eq_of_entriesAll_eq children children' hc.2.2 hd.2.2 (hinj.list_map h)]

/-- Sound trees that hold the same files in the same order are equal. -/
theorem eq_of_entriesAll_eq {path : String} (cs ds : List (Contents α)) (hc : SoundAll path cs)
    (hd : SoundAll path ds) (h : entriesAll cs = entriesAll ds) : cs = ds := by
  match cs, ds, hc, hd with
  | [], [], _, _ => rfl
  | [], d :: ds, _, hd =>
    have hne := hd.1.entries_ne_nil
    rw [entriesAll, entriesAll] at h
    exact absurd (List.append_eq_nil_iff.mp h.symm).1 hne
  | c :: cs, [], hc, _ =>
    have hne := hc.1.entries_ne_nil
    rw [entriesAll, entriesAll] at h
    exact absurd (List.append_eq_nil_iff.mp h).1 hne
  | c :: cs, d :: ds, hc, hd =>
    have hl := label_eq_of_entriesAll_eq hc.1 hd.1 h
    -- labels tell siblings apart, so the first tree's entries can be picked out of all of them
    have hfirst : c.entries = d.entries := by
      rw [← filter_headLabel hc, ← filter_headLabel hd, h, hl]
    have hrest : entriesAll cs = entriesAll ds := by
      rw [entriesAll, entriesAll, hfirst] at h
      exact List.append_cancel_left h
    rw [eq_of_entries_eq c d hc.1 hd.1 hl hfirst, eq_of_entriesAll_eq cs ds hc.2.2 hd.2.2 hrest]

end

/-! ## The tree of files -/

def rootChildren (files : List (String × α)) : List (Contents α) :=
  (sortAll (hold files [])).mergeSort precedes

theorem ofFiles_eq (files : List (String × α)) :
    ofFiles files = .directory "" "" (rootChildren files) := rfl

theorem rootChildren_entries (files : List (String × α)) :
    (entriesAll (rootChildren files)).Perm
      (files.map fun file => (Path.segments file.1, file.2)) := by
  have hm := entriesAll_perm (List.mergeSort_perm (sortAll (hold files [])) precedes)
  have he := hold_entries files []
  rw [entriesAll, List.append_nil] at he
  exact (hm.trans (entriesAll_sortAll _)).trans he

theorem values_ofFiles (files : List (String × α)) :
    (ofFiles files).values.Perm (files.map (·.2)) := by
  have he := (rootChildren_entries files).map (·.2)
  rw [List.map_map] at he
  rw [ofFiles_eq, values, valuesAll_eq]
  exact he

theorem hold_sound_of_nodup {files : List (String × α)} (hn : (files.map (·.1)).Nodup) :
    SoundAll "" (hold files []) := by
  have hs := List.Nodup.map Path.segments_injective hn
  rw [List.map_map] at hs
  apply hold_sound [] trivial
  rw [entriesAll, List.map_nil, List.append_nil]
  exact hs

theorem rootChildren_sound {files : List (String × α)} (hn : (files.map (·.1)).Nodup) :
    SoundAll "" (rootChildren files) :=
  (SoundAll.sortAll _ (hold_sound_of_nodup hn)).perm (List.mergeSort_perm _ _).symm

theorem rootChildren_increasing {files : List (String × α)} (hn : (files.map (·.1)).Nodup) :
    (entriesAll (rootChildren files)).Pairwise (fun x y => pathKey x.1 < pathKey y.1) :=
  mergeSort_entries_increasing (SoundAll.sortAll _ (hold_sound_of_nodup hn))
    (sortAll_increasing _ (hold_sound_of_nodup hn))

/-- The tree of files does not depend on the order in which they are added. -/
theorem ofFiles_perm {files files' : List (String × α)} (h : files.Perm files')
    (hn : (files.map (·.1)).Nodup) : ofFiles files = ofFiles files' := by
  have hn' : (files'.map (·.1)).Nodup := (h.map _).nodup_iff.mp hn
  have hp : (entriesAll (rootChildren files)).Perm (entriesAll (rootChildren files')) :=
    (rootChildren_entries files).trans ((h.map _).trans (rootChildren_entries files').symm)
  have he : entriesAll (rootChildren files) = entriesAll (rootChildren files') :=
    hp.eq_of_pairwise (fun x y _ _ hxy hyx => absurd hyx (lt_asymm hxy))
      (rootChildren_increasing hn) (rootChildren_increasing hn')
  rw [ofFiles_eq, ofFiles_eq,
    eq_of_entriesAll_eq _ _ (rootChildren_sound hn) (rootChildren_sound hn') he]

end Marginalia.Contents
