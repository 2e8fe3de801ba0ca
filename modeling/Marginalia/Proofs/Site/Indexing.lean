import Marginalia.Proofs.Site.Order
import Marginalia.Site.Basic

/-! Documents are put in order by their places: a tree of old places is sorted, a table gives each old
place its new one, and the documents are taken out of their slots. The outcome is that of a tree which
carries the documents themselves. -/
namespace Marginalia
set_option autoImplicit false

/-! ## Trees with other values -/

namespace Contents
variable {α β : Type}

theorem mapAll_eq_map (f : α → β) (cs : List (Contents α)) : mapAll f cs = cs.map (map f) := by
  induction cs with
  | nil => rfl
  | cons c cs ih => rw [mapAll, List.map_cons, ih]

theorem mapAll_append (f : α → β) (cs ds : List (Contents α)) :
    mapAll f (cs ++ ds) = mapAll f cs ++ mapAll f ds := by
  rw [mapAll_eq_map, mapAll_eq_map, mapAll_eq_map, List.map_append]

mutual

theorem values_map (f : α → β) (c : Contents α) : (c.map f).values = c.values.map f := by
  match c with
  | .file name value => rfl
  | .directory name path children => exact valuesAll_mapAll f children

theorem valuesAll_mapAll (f : α → β) (cs : List (Contents α)) :
    valuesAll (mapAll f cs) = (valuesAll cs).map f := by
  match cs with
  | [] => rfl
  | c :: cs =>
    rw [mapAll, valuesAll, values_map f c, valuesAll_mapAll f cs, valuesAll, List.map_append]

end

theorem update_mapAll (f : α → β) (dir : String) {g : List (Contents α) → List (Contents α)}
    {g' : List (Contents β) → List (Contents β)} (hg : ∀ cs, g' (mapAll f cs) = mapAll f (g cs))
    (held : List (Contents α)) :
    update dir g' (mapAll f held) = (update dir g held).map (mapAll f) := by
  induction held with
  | nil => rfl
  | cons c held ih =>
    cases c with
    | file name value =>
      rw [mapAll, map, update, update, ih, Option.map_map, Option.map_map]
      rfl
    | directory name path children =>
      rw [mapAll, map, update, update]
      split
      next => rw [hg]; rfl
      next =>
        rw [ih, Option.map_map, Option.map_map]
        rfl

theorem insert_mapAll (f : α → β) (path : String) (segs : List String) (value : α)
    (held : List (Contents α)) :
    insert path segs (f value) (mapAll f held) = mapAll f (insert path segs value held) := by
  induction segs generalizing path held with
  | nil => rfl
  | cons s segs ih =>
    cases segs with
    | nil => rw [insert, insert, mapAll_append]; rfl
    | cons t segs =>
      simp only [insert]
      rw [update_mapAll f s (fun cs => ih _ cs)]
      cases update s (insert (if path = "" then s else path ++ "/" ++ s) (t :: segs) value) held with
      | some held' => rfl
      | none =>
        dsimp only [Option.map_none]
        have hnew := ih (if path = "" then s else path ++ "/" ++ s) []
        rw [mapAll] at hnew
        rw [mapAll_append, hnew]
        rfl

theorem precedes_map (f : α → β) (a b : Contents α) :
    precedes (a.map f) (b.map f) = precedes a b := by
  cases a <;> cases b <;> rfl

mutual

theorem sort_map (f : α → β) (c : Contents α) : (c.map f).sort = c.sort.map f := by
  match c with
  | .file name value => rfl
  | .directory name path children =>
    have hsort : ((sortAll children).mergeSort precedes).map (map f) =
        ((sortAll children).map (map f)).mergeSort precedes :=
      List.map_mergeSort fun a _ b _ => (precedes_map f a b).symm
    rw [map, sort, sort, map, sortAll_mapAll f children, mapAll_eq_map, mapAll_eq_map, hsort]

theorem sortAll_mapAll (f : α → β) (cs : List (Contents α)) :
    sortAll (mapAll f cs) = mapAll f (sortAll cs) := by
  match cs with
  | [] => rfl
  | c :: cs => rw [mapAll, sortAll, sort_map f c, sortAll_mapAll f cs, sortAll, mapAll]

end

theorem hold_mapAll (f : α → β) (files : List (String × α)) (held : List (Contents α)) :
    hold (files.map fun file => (file.1, f file.2)) (mapAll f held) = mapAll f (hold files held) := by
  induction files generalizing held with
  | nil => rfl
  | cons file files ih =>
    have hfirst := insert_mapAll f "" (Path.segments file.1) file.2 held
    rw [List.map_cons, hold, List.foldl_cons, hfirst]
    exact ih _

theorem ofFiles_map (f : α → β) (files : List (String × α)) :
    ofFiles (files.map fun file => (file.1, f file.2)) = (ofFiles files).map f := by
  rw [ofFiles, ofFiles, ← sort_map, map]
  exact congrArg (fun held => (directory "" "" held).sort) (hold_mapAll f files [])

/-! ## Numbered trees -/

mutual

/-- The tree with the files counted in order from `n`, and the next number. -/
def number (n : Nat) : Contents α → Contents Nat × Nat
  | .file name _ => (.file name n, n + 1)
  | .directory name path children =>
    let (children, m) := numberAll n children
    (.directory name path children, m)

/-- Counts the files of several. -/
def numberAll (n : Nat) : List (Contents α) → List (Contents Nat) × Nat
  | [] => ([], n)
  | c :: cs =>
    let (c, m) := c.number n
    let (cs, k) := numberAll m cs
    (c :: cs, k)

end

theorem numberAll_cons (n : Nat) (c : Contents α) (cs : List (Contents α)) :
    numberAll n (c :: cs) = ((c.number n).1 :: (numberAll (c.number n).2 cs).1,
      (numberAll (c.number n).2 cs).2) := rfl

mutual

theorem number_spec (n : Nat) (c : Contents α) :
    (c.number n).1.values = List.range' n c.values.length ∧
      (c.number n).2 = n + c.values.length := by
  cases c with
  | file name value => exact ⟨rfl, rfl⟩
  | directory name path children => exact numberAll_spec n children

theorem numberAll_spec (n : Nat) (cs : List (Contents α)) :
    valuesAll (numberAll n cs).1 = List.range' n (valuesAll cs).length ∧
      (numberAll n cs).2 = n + (valuesAll cs).length := by
  cases cs with
  | nil => exact ⟨rfl, rfl⟩
  | cons c cs =>
    obtain ⟨hc, hm⟩ := number_spec n c
    obtain ⟨hcs, hk⟩ := numberAll_spec (c.number n).2 cs
    rw [numberAll_cons, valuesAll, valuesAll, List.length_append]
    refine ⟨?_, ?_⟩
    · rw [hc, hcs, hm, List.range'_append_1]
    · rw [hk, hm, Nat.add_assoc]

end

mutual

theorem number_map (f : α → β) (n : Nat) (c : Contents α) : (c.map f).number n = c.number n := by
  match c with
  | .file name value => rfl
  | .directory name path children => rw [map, number, number, numberAll_mapAll f n children]

theorem numberAll_mapAll (f : α → β) (n : Nat) (cs : List (Contents α)) :
    numberAll n (mapAll f cs) = numberAll n cs := by
  match cs with
  | [] => rfl
  | c :: cs =>
    rw [mapAll, numberAll_cons, numberAll_cons, number_map f n c, numberAll_mapAll f _ cs]

end

mutual

/-- Values that count the files in order number the tree. -/
theorem eq_number {n : Nat} (c : Contents Nat) (h : c.values = List.range' n c.values.length) :
    c = (c.number n).1 := by
  match c with
  | .file name value =>
    have hv : value = n := by simpa [values] using h
    rw [number, hv]
  | .directory name path children =>
    conv_lhs => rw [eq_numberAll children h]
    rfl

theorem eq_numberAll {n : Nat} (cs : List (Contents Nat))
    (h : valuesAll cs = List.range' n (valuesAll cs).length) : cs = (numberAll n cs).1 := by
  match cs with
  | [] => rfl
  | c :: cs =>
    rw [valuesAll, List.length_append, ← List.range'_append_1] at h
    obtain ⟨hc, hcs⟩ := List.append_inj h (by simp)
    rw [numberAll_cons, (number_spec n c).2, ← eq_number c hc, ← eq_numberAll cs hcs]

end

end Contents

/-! ## Tables and slots -/

namespace Site
variable {α : Type}

/-- A table filled in pair by pair. -/
def fillIn (table : List Nat) (pairs : List (Nat × Nat)) : List Nat :=
  pairs.foldl (fun table (old, new) => table.set old new) table

theorem fillIn_of_not_mem {table : List Nat} {pairs : List (Nat × Nat)} {i : Nat}
    (h : i ∉ pairs.map (·.1)) : (fillIn table pairs)[i]? = table[i]? := by
  induction pairs generalizing table with
  | nil => rfl
  | cons p pairs ih =>
    rw [List.map_cons, List.mem_cons, not_or] at h
    rw [fillIn, List.foldl_cons]
    exact (ih h.2).trans (List.getElem?_set_ne (Ne.symm h.1))

theorem fillIn_of_mem (table : List Nat) {pairs : List (Nat × Nat)} (hn : (pairs.map (·.1)).Nodup)
    {p : Nat × Nat} (hp : p ∈ pairs) (hlt : p.1 < table.length) :
    (fillIn table pairs)[p.1]? = some p.2 := by
  induction pairs generalizing table with
  | nil => cases hp
  | cons q pairs ih =>
    rw [List.map_cons, List.nodup_cons] at hn
    rw [fillIn, List.foldl_cons]
    cases hp with
    | head => exact (fillIn_of_not_mem hn.1).trans (List.getElem?_set_self hlt)
    | tail _ hp => exact ih _ hn.2 hp (by rwa [List.length_set])

/-- The table sends the places of the new order to the numbers from zero on. -/
theorem map_newPlaces {count : Nat} {order : List Nat} (hn : order.Nodup)
    (hlt : ∀ i ∈ order, i < count) :
    order.map (fun i => (newPlaces count order).getD i 0) = List.range order.length := by
  have hkeys : order.zipIdx.map (·.1) = order := List.zipIdx_map_fst ..
  refine List.ext_getElem (by simp) fun k hk hk' => ?_
  rw [List.length_map] at hk
  have hmem : (order[k], k) ∈ order.zipIdx :=
    List.mem_zipIdx_iff_getElem?.mpr (List.getElem?_eq_getElem hk)
  have hplace := fillIn_of_mem (List.replicate count 0) (by rwa [hkeys]) hmem
    (by rw [List.length_replicate]; exact hlt _ (List.getElem_mem hk))
  rw [List.getElem_map, List.getElem_range, List.getD_eq_getElem?_getD]
  exact congrArg (Option.getD · 0) hplace

/-- Things that stand in slots of their own are all found. -/
theorem takeOut_map {slots : List (Option α)} {ps : List (α × Nat)}
    (hs : ∀ p ∈ ps, slots[p.2]? = some (some p.1)) (hn : (ps.map (·.2)).Nodup) :
    takeOut slots (ps.map (·.2)) = ps.map (·.1) := by
  induction ps generalizing slots with
  | nil => rfl
  | cons p ps ih =>
    rw [List.map_cons, List.nodup_cons] at hn
    have hp := hs p (List.mem_cons_self ..)
    have hrest : ∀ q ∈ ps, (slots.set p.2 none)[q.2]? = some (some q.1) := by
      intro q hq
      have hne : p.2 ≠ q.2 := fun he => hn.1 (he ▸ List.mem_map_of_mem hq)
      rw [List.getElem?_set_ne hne]
      exact hs q (List.mem_cons_of_mem p hq)
    rw [List.map_cons, takeOut, hp, Option.join_some]
    dsimp only
    rw [ih hrest hn.2, List.map_cons]

/-! ## Documents in order -/

/-- The documents stand in the order of a tree that carries them, and the contents are that tree with
its files numbered. -/
theorem arrange_eq (name : String) (ds : List Document) :
    arrange name ds =
      { name
        documents := (Contents.ofFiles (ds.map fun d => (d.source, d))).values
        contents := ((Contents.ofFiles (ds.map fun d => (d.source, d))).number 0).1 } := by
  -- one tree that carries the documents with their old places stands behind both
  let both := Contents.ofFiles (ds.zipIdx.map fun p => (p.1.source, p))
  have holds : both.values.Perm ds.zipIdx := by
    have h := Contents.values_ofFiles (ds.zipIdx.map fun p => (p.1.source, p))
    rwa [List.map_map, Function.comp_def, List.map_id'] at h
  have hplaces : Contents.ofFiles (ds.zipIdx.map fun p => (p.1.source, p.2)) = both.map (·.2) := by
    rw [← Contents.ofFiles_map, List.map_map]
    rfl
  have hdocuments : Contents.ofFiles (ds.map fun d => (d.source, d)) = both.map (·.1) := by
    rw [← Contents.ofFiles_map, List.map_map]
    conv_lhs => rw [← List.zipIdx_map_fst 0 ds, List.map_map]
    rfl
  have hn : (both.values.map (·.2)).Nodup := by
    rw [(holds.map _).nodup_iff, List.zipIdx_map_snd]
    exact List.nodup_range'
  have hget : ∀ p ∈ both.values, ds[p.2]? = some p.1 := fun p hp =>
    List.mem_zipIdx_iff_getElem?.mp (holds.mem_iff.mp hp)
  have htaken : takeOut (ds.map some) (both.values.map (·.2)) = both.values.map (·.1) :=
    takeOut_map (fun p hp => by rw [List.getElem?_map, hget p hp, Option.map_some]) hn
  have hlt : ∀ i ∈ both.values.map (·.2), i < ds.length := by
    intro i hi
    obtain ⟨p, hp, rfl⟩ := List.mem_map.mp hi
    exact (List.getElem?_eq_some_iff.mp (hget p hp)).1
  -- the renewed places count the files from zero, and that numbers any tree of this shape
  have hcount := map_newPlaces hn hlt
  rw [← Contents.values_map, ← Contents.values_map, List.range_eq_range'] at hcount
  have hnumber := Contents.eq_number (n := 0) _ (hcount.trans (by simp [Contents.values_map]))
  rw [Contents.number_map, Contents.number_map] at hnumber
  rw [arrange, hplaces, hdocuments, Contents.number_map]
  simp only [Contents.values_map] at hnumber ⊢
  rw [htaken, ← hnumber]

end Site

end Marginalia
