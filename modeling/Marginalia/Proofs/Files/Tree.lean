import Marginalia.Files.Tree
import Marginalia.Proofs.Path.Segments

/-! What stands where in a tree of files. A program that looks at a place sees nothing, a file or a
directory; a file or an empty directory that is put into a directory changes what is seen there and
nowhere else. -/
namespace Marginalia.Files.FileTree
open Marginalia.Path
set_option autoImplicit false

variable {α β : Type}

/-! ## Entries -/

theorem lookup_put (name n : String) (t : FileTree α) (es : List (String × FileTree α)) :
    (put name t es).lookup n = if n = name then some t else es.lookup n := by
  induction es with
  | nil =>
    rw [put, List.lookup_cons]
    by_cases h : n = name
    · simp [h]
    · simp [h, beq_eq_false_iff_ne.mpr h]
  | cons e es ih =>
    obtain ⟨m, u⟩ := e
    rw [put]
    by_cases hm : m = name
    · subst hm
      rw [if_pos rfl, List.lookup_cons, List.lookup_cons]
      by_cases h : n = m
      · simp [h]
      · simp [h, beq_eq_false_iff_ne.mpr h]
    · rw [if_neg hm, List.lookup_cons, List.lookup_cons, ih]
      by_cases h : n = m
      · subst h
        simp [hm]
      · simp [beq_eq_false_iff_ne.mpr h]

theorem mem_put {name : String} {t : FileTree α} {es : List (String × FileTree α)}
    {e : String × FileTree α} (h : e ∈ put name t es) : e = (name, t) ∨ e ∈ es := by
  induction es with
  | nil => exact .inl (List.mem_singleton.mp h)
  | cons d es ih =>
    obtain ⟨m, u⟩ := d
    rw [put] at h
    split at h
    next hm =>
      subst hm
      exact (List.mem_cons.mp h).imp_right (List.mem_cons_of_mem _)
    next hm =>
      rcases List.mem_cons.mp h with rfl | h
      · exact .inr (List.mem_cons_self ..)
      · exact (ih h).imp_right (List.mem_cons_of_mem _)

theorem nodup_put (name : String) (t : FileTree α) {es : List (String × FileTree α)}
    (h : (es.map (·.1)).Nodup) : ((put name t es).map (·.1)).Nodup := by
  induction es with
  | nil => simp [put]
  | cons d es ih =>
    obtain ⟨m, u⟩ := d
    obtain ⟨hm, hes⟩ := List.nodup_cons.mp h
    rw [put]
    split
    next he => exact List.nodup_cons.mpr ⟨hm, hes⟩
    next he =>
      refine List.nodup_cons.mpr ⟨fun hmem => ?_, ih hes⟩
      obtain ⟨e, hput, hname⟩ := List.mem_map.mp hmem
      rcases mem_put hput with rfl | hold
      · exact he hname.symm
      · exact hm (List.mem_map.mpr ⟨e, hold, hname⟩)

theorem lookup_eq_some_iff_mem {es : List (String × FileTree α)} (h : (es.map (·.1)).Nodup)
    {name : String} {t : FileTree α} : es.lookup name = some t ↔ (name, t) ∈ es := by
  induction es with
  | nil => simp
  | cons d es ih =>
    obtain ⟨m, u⟩ := d
    obtain ⟨hm, hes⟩ := List.nodup_cons.mp h
    rw [List.lookup_cons, List.mem_cons, Prod.mk.injEq]
    by_cases hn : name = m
    · subst hn
      have hno : (name, t) ∉ es := fun hmem => hm (List.mem_map_of_mem (f := (·.1)) hmem)
      simp [hno, eq_comm]
    · simp [hn, beq_eq_false_iff_ne.mpr hn, ih hes]

/-! ## Places -/

theorem at?_cons (t : FileTree α) (name : String) (path : RealPath) :
    t.at? (name :: path) = (t.entries.lookup name).bind (·.at? path) := by
  rw [at?]
  cases t.entries.lookup name with
  | none => rfl
  | some child => rfl

theorem at?_append (t : FileTree α) (p q : RealPath) :
    t.at? (p ++ q) = (t.at? p).bind (·.at? q) := by
  induction p generalizing t with
  | nil => rfl
  | cons name p ih =>
    rw [List.cons_append, at?_cons, at?_cons]
    cases t.entries.lookup name with
    | none => rfl
    | some child => exact ih child

/-- Is what stands at a path a directory? -/
def isDirectory? (t : FileTree α) (path : RealPath) : Option Bool :=
  (t.at? path).map isDirectory

theorem isDirectory?_cons (t : FileTree α) (name : String) (path : RealPath) :
    t.isDirectory? (name :: path) = (t.entries.lookup name).bind (·.isDirectory? path) := by
  rw [isDirectory?, at?_cons, Option.map_bind]
  rfl

theorem isDirectory?_append (t : FileTree α) (p q : RealPath) :
    t.isDirectory? (p ++ q) = (t.at? p).bind (·.isDirectory? q) := by
  rw [isDirectory?, at?_append, Option.map_bind]
  rfl

theorem isDirectory?_eq_true_iff {t : FileTree α} {p : RealPath} :
    t.isDirectory? p = some true ↔ ∃ es, t.at? p = some (.directory es) := by
  rw [isDirectory?]
  rcases t.at? p with - | ⟨v⟩ | ⟨es⟩ <;> simp [isDirectory]

theorem isDirectory?_eq_false_iff {t : FileTree α} {p : RealPath} :
    t.isDirectory? p = some false ↔ ∃ v, t.at? p = some (.file v) := by
  rw [isDirectory?]
  rcases t.at? p with - | ⟨v⟩ | ⟨es⟩ <;> simp [isDirectory]

theorem isDirectory?_eq_none_iff {t : FileTree α} {p : RealPath} :
    t.isDirectory? p = none ↔ t.at? p = none := by
  rw [isDirectory?, Option.map_eq_none_iff]

theorem isDirectory?_below {t : FileTree α} {p q : RealPath} (h : t.isDirectory? p ≠ some true)
    (hq : q ≠ []) : t.isDirectory? (p ++ q) = none := by
  obtain ⟨name, q, rfl⟩ := List.exists_cons_of_ne_nil hq
  rw [isDirectory?_append]
  cases hp : t.at? p with
  | none => rfl
  | some u =>
    cases u with
    | file v => rfl
    | directory es => exact absurd (isDirectory?_eq_true_iff.mpr ⟨es, hp⟩) h

theorem isDirectory?_above {t : FileTree α} {p q : RealPath} {b : Bool}
    (h : t.isDirectory? (p ++ q) = some b) (hq : q ≠ []) : t.isDirectory? p = some true := by
  by_contra hp
  rw [isDirectory?_below hp hq] at h
  cases h

theorem isDirectory?_on_way {t : FileTree α} {p x : RealPath}
    (h : t.isDirectory? p = some true) (hx : x <+: p) : t.isDirectory? x = some true := by
  obtain ⟨q, rfl⟩ := hx
  by_cases hq : q = []
  · subst hq
    rwa [List.append_nil] at h
  · exact isDirectory?_above h hq

/-! ## Insertion -/

theorem at?_insert_append (t new : FileTree α) (p q : RealPath) :
    (t.insert p new).at? (p ++ q) = new.at? q := by
  induction p generalizing t with
  | nil => rfl
  | cons name p ih =>
    rw [List.cons_append, at?_cons, insert, entries, lookup_put, if_pos rfl]
    exact ih _

theorem isDirectory?_insert_elsewhere {t : FileTree α} (new : FileTree α) {dir x : RealPath}
    {name : String} (hdir : t.isDirectory? dir = some true) (hx : ¬ dir ++ [name] <+: x) :
    (t.insert (dir ++ [name]) new).isDirectory? x = t.isDirectory? x := by
  induction dir generalizing t x with
  | nil =>
    cases x with
    | nil => exact hdir.symm
    | cons m x =>
      have hm : m ≠ name := fun he => hx (by simp [he])
      rw [List.nil_append, isDirectory?_cons, isDirectory?_cons, insert, entries, lookup_put,
        if_neg hm]
  | cons c dir ih =>
    rw [isDirectory?_cons, Option.bind_eq_some_iff] at hdir
    obtain ⟨child, hchild, hdir⟩ := hdir
    rw [List.cons_append, insert]
    cases x with
    | nil =>
      cases t with
      | file v => cases hchild
      | directory es => rfl
    | cons m x =>
      rw [isDirectory?_cons, isDirectory?_cons, entries, lookup_put]
      by_cases hm : m = c
      · subst hm
        rw [if_pos rfl, hchild, Option.getD_some, Option.bind_some, Option.bind_some]
        exact ih hdir fun h => hx (by simpa using h)
      · rw [if_neg hm]

/-- A file or an empty directory that is put into a directory, where no directory stood before, is
seen in its place. All else looks as before. -/
theorem isDirectory?_insert {t new : FileTree α} {dir : RealPath} {name : String}
    (hdir : t.isDirectory? dir = some true) (hname : t.isDirectory? (dir ++ [name]) ≠ some true)
    (hnew : new.entries = []) (x : RealPath) :
    (t.insert (dir ++ [name]) new).isDirectory? x =
      if x = dir ++ [name] then some new.isDirectory else t.isDirectory? x := by
  by_cases hx : dir ++ [name] <+: x
  · obtain ⟨y, rfl⟩ := hx
    rw [isDirectory?, at?_insert_append]
    cases y with
    | nil => simp [at?]
    | cons m y =>
      rw [if_neg (by simp), isDirectory?_below hname (by simp), at?_cons, hnew]
      rfl
  · rw [isDirectory?_insert_elsewhere new hdir hx, if_neg]
    rintro rfl
    exact hx List.prefix_rfl

/-- A file stays as it is when something is put into another place, where no directory stood. -/
theorem at?_insert_of_file {t : FileTree α} (new : FileTree α) {dir x : RealPath} {name : String}
    {v : α} (hdir : t.isDirectory? dir = some true)
    (hname : t.isDirectory? (dir ++ [name]) ≠ some true) (hx : t.at? x = some (.file v))
    (hne : x ≠ dir ++ [name]) : (t.insert (dir ++ [name]) new).at? x = some (.file v) := by
  have hfile := isDirectory?_eq_false_iff.mpr ⟨v, hx⟩
  induction dir generalizing t x with
  | nil =>
    cases x with
    | nil =>
      rw [hfile] at hdir
      cases hdir
    | cons m x =>
      have hm : m ≠ name := by
        rintro rfl
        refine hname (isDirectory?_above (p := [m]) (q := x) hfile ?_)
        rintro rfl
        exact hne rfl
      rwa [List.nil_append, at?_cons, insert, entries, lookup_put, if_neg hm, ← at?_cons]
  | cons c dir ih =>
    rw [isDirectory?_cons, Option.bind_eq_some_iff] at hdir
    obtain ⟨child, hchild, hdir⟩ := hdir
    rw [List.cons_append, isDirectory?_cons, hchild, Option.bind_some] at hname
    cases x with
    | nil =>
      rw [isDirectory?_eq_false_iff] at hfile
      obtain ⟨v, hv⟩ := hfile
      cases hv
      cases hchild
    | cons m x =>
      rw [List.cons_append, insert, at?_cons, entries, lookup_put]
      rw [at?_cons] at hx
      by_cases hm : m = c
      · subst hm
        rw [hchild, Option.bind_some] at hx
        rw [if_pos rfl, hchild, Option.getD_some, Option.bind_some]
        exact ih hdir hname hx (fun he => hne (by rw [he]; rfl))
          (isDirectory?_eq_false_iff.mpr ⟨v, hx⟩)
      · rw [if_neg hm]
        exact hx

/-! ## Sound trees -/

/-- May an entry of a directory have this name? -/
def IsEntryName (name : String) : Prop :=
  IsName name ∧ '/' ∉ name.toList ∧ '\x00' ∉ name.toList

instance (name : String) : Decidable (IsEntryName name) :=
  inferInstanceAs (Decidable (_ ∧ _))

/-- The entries of each directory have names, and no two have the same. -/
inductive Sound : FileTree α → Prop
  | file (value : α) : Sound (.file value)
  | directory {es : List (String × FileTree α)} (nodup : (es.map (·.1)).Nodup)
      (names : ∀ e ∈ es, IsEntryName e.1) (below : ∀ e ∈ es, Sound e.2) : Sound (.directory es)

theorem Sound.entry {t child : FileTree α} {name : String} (h : t.Sound)
    (hc : t.entries.lookup name = some child) : IsEntryName name ∧ child.Sound := by
  cases h with
  | file v => cases hc
  | directory nodup names below =>
    have hmem := (lookup_eq_some_iff_mem nodup).mp hc
    exact ⟨names _ hmem, below _ hmem⟩

theorem Sound.at? {t u : FileTree α} {p : RealPath} (h : t.Sound) (hp : t.at? p = some u) :
    (∀ n ∈ p, IsEntryName n) ∧ u.Sound := by
  induction p generalizing t with
  | nil =>
    cases hp
    exact ⟨by simp, h⟩
  | cons name p ih =>
    rw [at?_cons, Option.bind_eq_some_iff] at hp
    obtain ⟨child, hc, hp⟩ := hp
    obtain ⟨hname, hchild⟩ := h.entry hc
    obtain ⟨hnames, hu⟩ := ih hchild hp
    exact ⟨List.forall_mem_cons.mpr ⟨hname, hnames⟩, hu⟩

theorem Sound.insert {t new : FileTree α} {p : RealPath} (h : t.Sound) (hnew : new.Sound)
    (hp : ∀ n ∈ p, IsEntryName n) : (t.insert p new).Sound := by
  induction p generalizing t with
  | nil => exact hnew
  | cons name p ih =>
    obtain ⟨hname, hp⟩ := List.forall_mem_cons.mp hp
    have hchild : ((t.entries.lookup name).getD (.directory [])).Sound := by
      cases hc : t.entries.lookup name with
      | none => exact .directory (by simp) (by simp) (by simp)
      | some child => exact (h.entry hc).2
    have hentries : (t.entries.map (·.1)).Nodup ∧ ∀ e ∈ t.entries, IsEntryName e.1 ∧ e.2.Sound := by
      cases h with
      | file v => exact ⟨List.nodup_nil, by simp [entries]⟩
      | directory nodup names below => exact ⟨nodup, fun e he => ⟨names e he, below e he⟩⟩
    rw [FileTree.insert]
    refine .directory (nodup_put _ _ hentries.1) (fun e he => ?_) (fun e he => ?_)
    · rcases mem_put he with rfl | he
      · exact hname
      · exact (hentries.2 e he).1
    · rcases mem_put he with rfl | he
      · exact ih hchild hp
      · exact (hentries.2 e he).2

/-! ## Other values -/

theorem mapEntries_eq (f : α → β) (es : List (String × FileTree α)) :
    mapEntries f es = es.map fun e => (e.1, e.2.map f) := by
  induction es with
  | nil => rw [mapEntries, List.map_nil]
  | cons e es ih => rw [mapEntries, ih, List.map_cons]

theorem isDirectory_map (f : α → β) (t : FileTree α) : (t.map f).isDirectory = t.isDirectory := by
  cases t <;> simp [map, isDirectory]

theorem lookup_entries_map (f : α → β) (t : FileTree α) (name : String) :
    (t.map f).entries.lookup name = (t.entries.lookup name).map (·.map f) := by
  cases t with
  | file v => simp [map, entries]
  | directory es =>
    rw [map, entries, entries, mapEntries_eq]
    induction es with
    | nil => rfl
    | cons e es ih =>
      rw [List.map_cons, List.lookup_cons, List.lookup_cons, ih]
      cases name == e.1 <;> rfl

theorem isDirectory?_map (f : α → β) (t : FileTree α) (p : RealPath) :
    (t.map f).isDirectory? p = t.isDirectory? p := by
  induction p generalizing t with
  | nil => exact congrArg some (isDirectory_map f t)
  | cons name p ih =>
    rw [isDirectory?_cons, isDirectory?_cons, lookup_entries_map]
    cases t.entries.lookup name with
    | none => rfl
    | some child => exact ih child

theorem Sound.map {t : FileTree α} (h : t.Sound) (f : α → β) : (t.map f).Sound := by
  induction h with
  | file v =>
    rw [FileTree.map]
    exact .file _
  | directory nodup names below ih =>
    rw [FileTree.map, mapEntries_eq]
    refine .directory (by simpa [Function.comp_def] using nodup) ?_ ?_ <;>
      exact List.forall_mem_map.mpr (by assumption)

end Marginalia.Files.FileTree
