import Marginalia.Proofs.Site.Order

/-! Ways down a tree of contents. In a sound tree the names on the way decide where it leads: a file
is reached by the segments of its path, a directory knows the names on the way to it, and looking a
directory up finds it if and only if files stand below it. -/
namespace Marginalia.Contents
set_option autoImplicit false

variable {α : Type}

/-! ## Ways down -/

/-- From the first tree the way through children of the given names leads to the second one. -/
inductive Reaches : Contents α → List String → Contents α → Prop where
  | here (c : Contents α) : Reaches c [] c
  | down {name path : String} {children : List (Contents α)} {child node : Contents α}
      {names : List String} (mem : child ∈ children) (rest : Reaches child names node) :
      Reaches (.directory name path children) (child.name :: names) node

theorem reaches_from_file {name : String} {value : α} {names : List String} {node : Contents α}
    (h : Reaches (.file name value) names node) : names = [] ∧ node = .file name value := by
  cases h with
  | here => exact ⟨rfl, rfl⟩

theorem Reaches.getLast? {c node : Contents α} {names : List String} (h : Reaches c names node)
    (hne : names ≠ []) : names.getLast? = some node.name := by
  induction h with
  | here c => exact absurd rfl hne
  | @down name path children child node names mem rest ih =>
    cases names with
    | nil =>
      cases rest
      rfl
    | cons s names => exact ih (by simp)

/-- The files of a part are a stretch of the files of the whole. -/
theorem Reaches.values_infix {c node : Contents α} {names : List String} (h : Reaches c names node) :
    node.values <:+: c.values := by
  induction h with
  | here c => exact List.infix_refl _
  | @down name path children child node names mem rest ih =>
    refine ih.trans ?_
    obtain ⟨front, back, rfl⟩ := List.append_of_mem mem
    refine ⟨valuesAll front, valuesAll back, ?_⟩
    rw [values, valuesAll_eq, valuesAll_eq, valuesAll_eq, entriesAll_append, entriesAll, values_eq,
      List.map_append, List.map_append, List.append_assoc]

/-! ## Files -/

theorem mem_entriesAll {cs : List (Contents α)} {e : List String × α} :
    e ∈ entriesAll cs ↔ ∃ c ∈ cs, e ∈ c.entries := by
  rw [entriesAll_eq_flatMap, List.mem_flatMap]

theorem mem_entries_directory {name path : String} {children : List (Contents α)} {s : String}
    {rest : List String} {value : α} :
    (s :: rest, value) ∈ (directory name path children).entries ↔
      s = name ∧ (rest, value) ∈ entriesAll children := by
  rw [entries, List.mem_map]
  constructor
  · rintro ⟨e, he, heq⟩
    cases heq
    exact ⟨rfl, he⟩
  · rintro ⟨rfl, he⟩
    exact ⟨(rest, value), he, rfl⟩

theorem reaches_file_iff {name path last : String} {children : List (Contents α)}
    {names : List String} {value : α} :
    Reaches (.directory name path children) names (.file last value) ↔
      (names, value) ∈ entriesAll children ∧ names.getLast? = some last := by
  induction names generalizing name path children with
  | nil =>
    refine iff_of_false ?_ fun h => path_ne_nil_of_mem_entriesAll h.1 rfl
    intro h
    cases h
  | cons s rest ih =>
    rw [mem_entriesAll]
    constructor
    · intro h
      cases h with
      | @down _ _ _ child _ _ mem hrest =>
        cases child with
        | file n w =>
          obtain ⟨rfl, he⟩ := reaches_from_file hrest
          cases he
          exact ⟨⟨_, mem, List.mem_singleton_self _⟩, rfl⟩
        | directory n below grandchildren =>
          obtain ⟨he, hlast⟩ := ih.mp hrest
          refine ⟨⟨_, mem, mem_entries_directory.mpr ⟨rfl, he⟩⟩, ?_⟩
          rw [List.getLast?_cons, hlast]
          rfl
    · rintro ⟨⟨child, mem, he⟩, hlast⟩
      cases child with
      | file n w =>
        rw [entries, List.mem_singleton] at he
        cases he
        cases hlast
        exact .down mem (.here _)
      | directory n below grandchildren =>
        obtain ⟨rfl, hbelow⟩ := mem_entries_directory.mp he
        refine .down mem (ih.mpr ⟨hbelow, ?_⟩)
        rwa [List.getLast?_cons_of_ne_nil (path_ne_nil_of_mem_entriesAll hbelow)] at hlast

/-! ## Directories -/

theorem reaches_directory_cons {name below dir path s : String} {cs children : List (Contents α)}
    {names : List String} (hs : SoundAll below cs)
    (h : Reaches (.directory name below cs) (s :: names) (.directory dir path children)) :
    ∃ inner, .directory s (under below s) inner ∈ cs ∧ inner ≠ [] ∧
      SoundAll (under below s) inner ∧
      Reaches (.directory s (under below s) inner) names (.directory dir path children) := by
  cases h with
  | @down _ _ _ child _ _ mem hrest =>
    have hchild := (soundAll_iff.mp hs).1 child mem
    cases child with
    | file n w => exact absurd (reaches_from_file hrest).2 (by simp)
    | directory n below' inner =>
      obtain ⟨rfl, hne, hall⟩ := hchild
      exact ⟨inner, mem, hne, hall, hrest⟩

/-- A directory has the path that the names on the way to it spell, and it is not empty. -/
theorem Reaches.directory_sound {name below dir path : String} {cs children : List (Contents α)}
    {names : List String} (h : Reaches (.directory name below cs) names (.directory dir path children))
    (hs : SoundAll below cs) :
    path = names.foldl under below ∧ SoundAll path children ∧ (names ≠ [] → children ≠ []) := by
  induction names generalizing name below cs with
  | nil =>
    cases h
    exact ⟨rfl, hs, fun hne => absurd rfl hne⟩
  | cons s rest ih =>
    obtain ⟨inner, -, hne, hall, hrest⟩ := reaches_directory_cons hs h
    obtain ⟨hpath, hsound, hsome⟩ := ih hrest hall
    refine ⟨hpath, hsound, fun _ => ?_⟩
    cases rest with
    | nil =>
      cases hrest
      exact hne
    | cons t rest => exact hsome (by simp)

theorem mem_entries_iff {path : String} {cs : List (Contents α)} {c : Contents α}
    (hs : SoundAll path cs) (hc : c ∈ cs) {e : List String × α} :
    e ∈ c.entries ↔ e ∈ entriesAll cs ∧ headLabel e.1 = c.label := by
  constructor
  · intro he
    exact ⟨mem_entriesAll.mpr ⟨c, hc, he⟩, headLabel_of_mem_entries he⟩
  · rintro ⟨he, hlabel⟩
    obtain ⟨d, hd, hed⟩ := mem_entriesAll.mp he
    rw [headLabel_of_mem_entries hed] at hlabel
    -- siblings of one label are one child
    rwa [List.inj_on_of_nodup_map (soundAll_iff.mp hs).2 hd hc hlabel] at hed

/-- The files below a directory are those whose paths go on after the names on the way to it. -/
theorem Reaches.mem_entriesAll_iff {name below dir path : String} {cs children : List (Contents α)}
    {names : List String} (h : Reaches (.directory name below cs) names (.directory dir path children))
    (hs : SoundAll below cs) {rest : List String} (hrest : rest ≠ []) {value : α} :
    (rest, value) ∈ entriesAll children ↔ (names ++ rest, value) ∈ entriesAll cs := by
  induction names generalizing name below cs with
  | nil =>
    cases h
    rfl
  | cons s names ih =>
    obtain ⟨inner, mem, -, hall, hdown⟩ := reaches_directory_cons hs h
    -- more names follow, so `s` counts as a directory
    have hhead : headLabel (s :: (names ++ rest)) = (true, s) := by simp [headLabel, hrest]
    have hmem := mem_entries_iff hs mem (e := (s :: (names ++ rest), value))
    rw [mem_entries_directory, hhead] at hmem
    rw [ih hdown hall, List.cons_append]
    simpa [label, isDirectory, Contents.name] using hmem

/-! ## Looking a directory up -/

theorem find?_directory_eq_some_iff {path s : String} {cs : List (Contents α)} {c : Contents α}
    (hs : SoundAll path cs) :
    cs.find? (fun child => child.isDirectory && child.name = s) = some c ↔
      c ∈ cs ∧ c.label = (true, s) := by
  have htest : ∀ d : Contents α,
      (d.isDirectory && decide (d.name = s)) = true ↔ d.label = (true, s) := by
    intro d
    simp [label]
  constructor
  · intro h
    have hc := List.find?_some h
    exact ⟨List.mem_of_find?_eq_some h, (htest c).mp hc⟩
  · rintro ⟨hc, hlabel⟩
    cases hf : cs.find? (fun child => child.isDirectory && child.name = s) with
    | none => exact absurd ((htest c).mpr hlabel) (List.find?_eq_none.mp hf c hc)
    | some d =>
      have hd := List.find?_some hf
      rw [List.inj_on_of_nodup_map (soundAll_iff.mp hs).2 (List.mem_of_find?_eq_some hf) hc
        (((htest d).mp hd).trans hlabel.symm)]

/-- Looking up follows the way through the directories of the given names. -/
theorem descend_eq_some_iff {name path : String} {cs : List (Contents α)} {names : List String}
    {node : Contents α} (hs : SoundAll path cs) :
    (directory name path cs).descend names = some node ↔
      Reaches (.directory name path cs) names node ∧ node.isDirectory = true := by
  induction names generalizing name path cs with
  | nil =>
    rw [descend, Option.some.injEq]
    constructor
    · rintro rfl
      exact ⟨.here _, rfl⟩
    · rintro ⟨h, -⟩
      cases h
      rfl
  | cons s rest ih =>
    rw [descend, children]
    constructor
    · intro h
      split at h
      next child hfind =>
        obtain ⟨mem, hlabel⟩ := (find?_directory_eq_some_iff hs).mp hfind
        have hchild := (soundAll_iff.mp hs).1 child mem
        cases child with
        | file n w => simp [label, isDirectory] at hlabel
        | directory n below grandchildren =>
          obtain ⟨hreach, hdir⟩ := (ih hchild.2.2).mp h
          obtain rfl : n = s := congrArg Prod.snd hlabel
          exact ⟨.down mem hreach, hdir⟩
      next => cases h
    · rintro ⟨h, hdir⟩
      cases h with
      | @down _ _ _ child _ _ mem hrest =>
        have hchild := (soundAll_iff.mp hs).1 child mem
        cases child with
        | file n w =>
          rw [(reaches_from_file hrest).2] at hdir
          cases hdir
        | directory n below grandchildren =>
          rw [(find?_directory_eq_some_iff hs).mpr ⟨mem, rfl⟩]
          exact (ih hchild.2.2).mpr ⟨hrest, hdir⟩

/-- There is a directory on the way to every file below it. -/
theorem exists_reaches_directory (name path : String) {cs : List (Contents α)}
    {names rest : List String} {value : α} (hrest : rest ≠ [])
    (h : (names ++ rest, value) ∈ entriesAll cs) :
    ∃ dir below children, Reaches (.directory name path cs) names (.directory dir below children) := by
  induction names generalizing name path cs with
  | nil => exact ⟨name, path, cs, .here _⟩
  | cons s names ih =>
    obtain ⟨child, mem, he⟩ := mem_entriesAll.mp h
    rw [List.cons_append] at he
    cases child with
    | file n w =>
      rw [entries, List.mem_singleton, Prod.mk.injEq, List.cons.injEq, List.append_eq_nil_iff] at he
      exact absurd he.1.2.2 hrest
    | directory n below grandchildren =>
      obtain ⟨rfl, hbelow⟩ := mem_entries_directory.mp he
      obtain ⟨dir, below', children, hreach⟩ := ih s below hbelow
      exact ⟨dir, below', children, .down mem hreach⟩

end Marginalia.Contents
