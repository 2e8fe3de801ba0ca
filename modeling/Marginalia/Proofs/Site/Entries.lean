import Marginalia.Proofs.Path.Segments
import Marginalia.Site.Contents
import Mathlib.Data.List.Perm.Basic

/-! What a tree of contents holds: its files, each with the segments of its path. Adding a file adds
one entry, wherever the file goes, and keeps the tree sound: directories know their paths, none is
empty, and no two of one directory's children share a name. -/
namespace Marginalia.Contents
set_option autoImplicit false

variable {α : Type}

/-! ## Entries -/

mutual

/-- The files of a tree with the segments of their paths. -/
def entries : Contents α → List (List String × α)
  | .file name value => [([name], value)]
  | .directory name _ children => (entriesAll children).map fun e => (name :: e.1, e.2)

def entriesAll : List (Contents α) → List (List String × α)
  | [] => []
  | c :: cs => c.entries ++ entriesAll cs

end

theorem entriesAll_eq_flatMap (cs : List (Contents α)) : entriesAll cs = cs.flatMap entries := by
  induction cs with
  | nil => rfl
  | cons c cs ih => rw [entriesAll, List.flatMap_cons, ih]

theorem entriesAll_append (cs ds : List (Contents α)) :
    entriesAll (cs ++ ds) = entriesAll cs ++ entriesAll ds := by
  simp only [entriesAll_eq_flatMap, List.flatMap_append]

theorem entriesAll_perm {cs ds : List (Contents α)} (h : cs.Perm ds) :
    (entriesAll cs).Perm (entriesAll ds) := by
  simp only [entriesAll_eq_flatMap]
  exact h.flatMap_right entries

/-- What tells the children of a directory apart. -/
def label (c : Contents α) : Bool × String :=
  (c.isDirectory, c.name)

/-- The label of the child of the root under which the file at a path stands. -/
def headLabel : List String → Bool × String
  | [] => (false, "")
  | s :: rest => (!rest.isEmpty, s)

theorem path_ne_nil_of_mem_entries {c : Contents α} {e : List String × α} (h : e ∈ c.entries) :
    e.1 ≠ [] := by
  cases c with
  | file name value =>
    rw [entries, List.mem_singleton] at h
    simp [h]
  | directory name path children =>
    rw [entries, List.mem_map] at h
    obtain ⟨e', -, rfl⟩ := h
    simp

theorem path_ne_nil_of_mem_entriesAll {cs : List (Contents α)} {e : List String × α}
    (h : e ∈ entriesAll cs) : e.1 ≠ [] := by
  rw [entriesAll_eq_flatMap, List.mem_flatMap] at h
  obtain ⟨c, -, hc⟩ := h
  exact path_ne_nil_of_mem_entries hc

theorem headLabel_of_mem_entries {c : Contents α} {e : List String × α} (h : e ∈ c.entries) :
    headLabel e.1 = c.label := by
  cases c with
  | file name value =>
    rw [entries, List.mem_singleton] at h
    rw [h]
    rfl
  | directory name path children =>
    rw [entries, List.mem_map] at h
    obtain ⟨e', he', rfl⟩ := h
    have hne := path_ne_nil_of_mem_entriesAll he'
    simp [headLabel, label, isDirectory, Contents.name, hne]

mutual

theorem values_eq (c : Contents α) : c.values = c.entries.map (·.2) := by
  match c with
  | .file name value => rfl
  | .directory name path children =>
    rw [values, entries, valuesAll_eq children, List.map_map]
    rfl

theorem valuesAll_eq (cs : List (Contents α)) : valuesAll cs = (entriesAll cs).map (·.2) := by
  match cs with
  | [] => rfl
  | c :: cs => rw [valuesAll, entriesAll, values_eq c, valuesAll_eq cs, List.map_append]

end

/-! ## Sound trees -/

/-- The path of what a directory at `path` holds under a name. -/
def under (path name : String) : String :=
  if path = "" then name else path ++ "/" ++ name

mutual

/-- Is the tree sound, standing in the directory at `path`? -/
def Sound (path : String) : Contents α → Prop
  | .file .. => True
  | .directory name below children => below = under path name ∧ children ≠ [] ∧ SoundAll below children

/-- Are the trees sound, and can they be told apart? -/
def SoundAll (path : String) : List (Contents α) → Prop
  | [] => True
  | c :: cs => c.Sound path ∧ c.label ∉ cs.map label ∧ SoundAll path cs

end

theorem soundAll_iff {path : String} {cs : List (Contents α)} :
    SoundAll path cs ↔ (∀ c ∈ cs, c.Sound path) ∧ (cs.map label).Nodup := by
  induction cs with
  | nil => simp [SoundAll]
  | cons c cs ih =>
    rw [SoundAll, ih, List.map_cons, List.nodup_cons, List.forall_mem_cons]
    tauto

theorem SoundAll.perm {path : String} {cs ds : List (Contents α)} (h : SoundAll path cs)
    (hp : cs.Perm ds) : SoundAll path ds := by
  rw [soundAll_iff] at h ⊢
  exact ⟨fun c hc => h.1 c (hp.mem_iff.mpr hc), (hp.map label).nodup_iff.mp h.2⟩

theorem Sound.entries_ne_nil {path : String} {c : Contents α} (h : c.Sound path) :
    c.entries ≠ [] := by
  match c, h with
  | .file name value, _ => simp [entries]
  | .directory name below (child :: children), h =>
    rw [Sound, SoundAll] at h
    have hc := Sound.entries_ne_nil h.2.2.1
    rw [entries, entriesAll]
    simp [hc]

/-! ## Adding a file -/

/-- What an update does: it changes the first directory of the name, or finds none. -/
theorem update_cases (dir : String) (f : List (Contents α) → List (Contents α))
    (held : List (Contents α)) :
    (∃ front path children back, held = front ++ .directory dir path children :: back ∧
      update dir f held = some (front ++ .directory dir path (f children) :: back)) ∨
    ((∀ c ∈ held, c.label ≠ (true, dir)) ∧ update dir f held = none) := by
  induction held with
  | nil => exact .inr ⟨by simp, rfl⟩
  | cons c rest ih =>
    cases c with
    | file name value =>
      obtain ⟨front, path, children, back, rfl, hu⟩ | ⟨hne, hu⟩ := ih
      · exact .inl ⟨.file name value :: front, path, children, back, rfl, by simp [update, hu]⟩
      · refine .inr ⟨?_, by simp [update, hu]⟩
        simpa [label, isDirectory] using hne
    | directory name path children =>
      by_cases hn : name = dir
      · subst hn
        exact .inl ⟨[], path, children, rest, rfl, by simp [update]⟩
      · obtain ⟨front, path', children', back, rfl, hu⟩ | ⟨hne, hu⟩ := ih
        · exact .inl ⟨.directory name path children :: front, path', children', back, rfl,
            by simp [update, hn, hu]⟩
        · refine .inr ⟨?_, by simp [update, hn, hu]⟩
          rw [List.forall_mem_cons]
          exact ⟨by simp [label, Contents.name, hn], hne⟩

/-- What adding a file further down does: it goes into the directory of that name, or into a new
one. -/
theorem insert_cases (path dir : String) {rest : List String} (hr : rest ≠ []) (value : α)
    (held : List (Contents α)) :
    (∃ front below children back, held = front ++ .directory dir below children :: back ∧
      insert path (dir :: rest) value held =
        front ++ .directory dir below (insert (under path dir) rest value children) :: back) ∨
    ((∀ c ∈ held, c.label ≠ (true, dir)) ∧
      insert path (dir :: rest) value held =
        held ++ [.directory dir (under path dir) (insert (under path dir) rest value [])]) := by
  obtain ⟨next, rest, rfl⟩ := List.exists_cons_of_ne_nil hr
  obtain ⟨front, below, children, back, he, hu⟩ | ⟨hne, hu⟩ :=
    update_cases dir (insert (under path dir) (next :: rest) value) held
  · refine .inl ⟨front, below, children, back, he, ?_⟩
    rw [under] at hu ⊢
    rw [insert, hu]
    exact List.cons_ne_nil next rest
  · refine .inr ⟨hne, ?_⟩
    rw [under] at hu ⊢
    rw [insert, hu]
    exact List.cons_ne_nil next rest

theorem insert_ne_nil {path : String} {segs : List String} (hs : segs ≠ []) (value : α)
    (held : List (Contents α)) : insert path segs value held ≠ [] := by
  match segs, hs with
  | [last], _ => simp [insert]
  | dir :: next :: rest, _ =>
    obtain ⟨front, below, children, back, -, hi⟩ | ⟨-, hi⟩ :=
      insert_cases path dir (List.cons_ne_nil next rest) value held
    · simp [hi]
    · simp [hi]

theorem insert_entries (path : String) {segs : List String} (hs : segs ≠ []) (value : α)
    (held : List (Contents α)) :
    (entriesAll (insert path segs value held)).Perm ((segs, value) :: entriesAll held) := by
  induction segs generalizing path held with
  | nil => exact absurd rfl hs
  | cons dir rest ih =>
    by_cases hr : rest = []
    · subst hr
      rw [insert, entriesAll_append]
      exact List.perm_append_singleton _ _
    · obtain ⟨front, below, children, back, rfl, hi⟩ | ⟨-, hi⟩ :=
        insert_cases path dir hr value held
      · have hc := (ih (under path dir) hr children).map
          (fun e : List String × α => (dir :: e.1, e.2))
        rw [hi, entriesAll_append, entriesAll_append, entriesAll, entriesAll, entries, entries]
        refine ((hc.append_right _).append_left _).trans ?_
        exact List.perm_middle
      · have hc := (ih (under path dir) hr []).map
          (fun e : List String × α => (dir :: e.1, e.2))
        rw [hi, entriesAll_append, entriesAll, entries, entriesAll, List.append_nil]
        exact (hc.append_left _).trans (List.perm_append_singleton _ _)

theorem mem_entriesAll_of_label_file {cs : List (Contents α)} {c : Contents α} {last : String}
    (hc : c ∈ cs) (hl : c.label = (false, last)) : [last] ∈ (entriesAll cs).map (·.1) := by
  cases c with
  | directory name path children => simp [label, isDirectory] at hl
  | file name value =>
    have hn : name = last := by simpa [label, isDirectory, Contents.name] using hl
    rw [List.mem_map]
    refine ⟨([name], value), ?_, by rw [hn]⟩
    rw [entriesAll_eq_flatMap, List.mem_flatMap]
    exact ⟨_, hc, by simp [entries]⟩

theorem insert_sound {path : String} {segs : List String} {value : α} {held : List (Contents α)}
    (hs : segs ≠ []) (hh : SoundAll path held) (hnew : segs ∉ (entriesAll held).map (·.1)) :
    SoundAll path (insert path segs value held) := by
  induction segs generalizing path held with
  | nil => exact absurd rfl hs
  | cons dir rest ih =>
    by_cases hr : rest = []
    · subst hr
      have hlabel : (false, dir) ∉ held.map label := by
        intro hm
        obtain ⟨c, hc, hl⟩ := List.mem_map.mp hm
        exact hnew (mem_entriesAll_of_label_file hc hl)
      have hfile : SoundAll path (.file dir value :: held) := ⟨trivial, hlabel, hh⟩
      exact hfile.perm (List.perm_append_singleton _ _).symm
    · obtain ⟨front, below, children, back, rfl, hi⟩ | ⟨hne, hi⟩ :=
        insert_cases path dir hr value held
      · rw [hi]
        rw [soundAll_iff] at hh ⊢
        have hd := hh.1 (.directory dir below children) (by simp)
        rw [Sound] at hd
        have hnew' : rest ∉ (entriesAll children).map (·.1) := by
          intro hm
          obtain ⟨e, he, rfl⟩ := List.mem_map.mp hm
          apply hnew
          rw [entriesAll_append, entriesAll, entries, List.mem_map]
          exact ⟨(dir :: e.1, e.2), by simp [he], rfl⟩
        have hc := ih hr (hd.1 ▸ hd.2.2) hnew'
        refine ⟨?_, by simpa [label, isDirectory, Contents.name] using hh.2⟩
        intro c hm
        rw [List.mem_append, List.mem_cons] at hm
        rcases hm with hm | rfl | hm
        · exact hh.1 c (by simp [hm])
        · exact ⟨hd.1, insert_ne_nil hr value children, hd.1 ▸ hc⟩
        · exact hh.1 c (by simp [hm])
      · have hc : SoundAll (under path dir) (insert (under path dir) rest value []) :=
          ih hr trivial (by simp [entriesAll])
        have hlabel : (true, dir) ∉ held.map label := by
          intro hm
          obtain ⟨c, hm, hl⟩ := List.mem_map.mp hm
          exact hne c hm hl
        have hdir : SoundAll path
            (.directory dir (under path dir) (insert (under path dir) rest value []) :: held) :=
          ⟨⟨rfl, insert_ne_nil hr value [], hc⟩, hlabel, hh⟩
        rw [hi]
        exact hdir.perm (List.perm_append_singleton _ _).symm

/-! ## All files -/

/-- What the root holds when the files are added one after the other. -/
def hold (files : List (String × α)) (held : List (Contents α)) : List (Contents α) :=
  files.foldl (fun held file => insert "" (Path.segments file.1) file.2 held) held

theorem hold_entries (files : List (String × α)) (held : List (Contents α)) :
    (entriesAll (hold files held)).Perm
      (files.map (fun file => (Path.segments file.1, file.2)) ++ entriesAll held) := by
  induction files generalizing held with
  | nil => exact .refl _
  | cons file files ih =>
    have hfile := insert_entries "" (Path.segments_ne_nil file.1) file.2 held
    refine (ih (insert "" (Path.segments file.1) file.2 held)).trans ?_
    refine (hfile.append_left _).trans ?_
    exact List.perm_middle

theorem hold_sound {files : List (String × α)} (held : List (Contents α))
    (hh : SoundAll "" held)
    (hn : (files.map (fun file => Path.segments file.1) ++ (entriesAll held).map (·.1)).Nodup) :
    SoundAll "" (hold files held) := by
  induction files generalizing held with
  | nil => exact hh
  | cons file files ih =>
    rw [List.map_cons, List.cons_append, List.nodup_cons, List.mem_append, not_or] at hn
    have hp := (insert_entries "" (Path.segments_ne_nil file.1) file.2 held).map (·.1)
    apply ih _ (insert_sound (Path.segments_ne_nil file.1) hh hn.1.2)
    rw [(hp.append_left _).nodup_iff, List.map_cons, List.perm_middle.nodup_iff, List.nodup_cons,
      List.mem_append, not_or]
    exact hn

end Marginalia.Contents
