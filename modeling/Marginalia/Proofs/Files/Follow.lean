import Marginalia.Files.World
import Marginalia.Proofs.Files.Tree
import Mathlib.Data.List.Induction

/-! Where paths lead. A path is followed by what is seen on its way, so it still leads where it did
when files and directories are added; names at its end lead down from the directory before them. -/
namespace Marginalia

/-! ## Paths in pieces -/

namespace Path
set_option autoImplicit false

theorem head_slash_iff {path : String} :
    path.toList.head? = some '/' ↔ ∃ rest, rest ≠ [] ∧ segments path = "" :: rest := by
  constructor
  · intro h
    obtain ⟨cs, hcs⟩ := List.head?_eq_some_iff.mp h
    refine ⟨segments (String.ofList cs), segments_ne_nil _, ?_⟩
    rw [segments, hcs, Text.split_self, segments, String.toList_ofList]
    rfl
  · rintro ⟨rest, hne, hs⟩
    rw [← ofSegments_segments path, hs, ofSegments_cons "" hne]
    simp

theorem eq_append_fileName (path : String) :
    ∃ front : List Char, path.toList = front ++ (fileName path).toList := by
  have hp := ofSegments_segments path
  rw [segments_eq_dropLast_append path] at hp
  by_cases hd : (segments path).dropLast = []
  · rw [hd, List.nil_append, ofSegments_singleton] at hp
    exact ⟨[], by rw [hp, List.nil_append]⟩
  · rw [ofSegments_append hd (by simp), ofSegments_singleton] at hp
    refine ⟨(ofSegments (segments path).dropLast ++ "/").toList, ?_⟩
    rw [← String.toList_append, hp]

theorem last_slash_of_fileName {path : String} (hne : path ≠ "") (h : fileName path = "") :
    path.toList.getLast? = some '/' := by
  have hp := ofSegments_segments path
  rw [segments_eq_dropLast_append path, h] at hp
  by_cases hd : (segments path).dropLast = []
  · rw [hd, List.nil_append, ofSegments_singleton] at hp
    exact absurd hp.symm hne
  · rw [ofSegments_append hd (by simp), ofSegments_singleton] at hp
    rw [← hp]
    simp

theorem segments_append_slashes (path : String) (n : Nat) :
    segments (path ++ String.ofList (List.replicate n '/')) =
      segments path ++ List.replicate n "" := by
  induction n with
  | zero => simp
  | succ n ih =>
    have hlast : path ++ String.ofList (List.replicate (n + 1) '/') =
        path ++ String.ofList (List.replicate n '/') ++ "/" ++ "" := by
      rw [← String.toList_inj]
      simp [List.replicate_succ']
    rw [hlast, segments_append_slash, ih, List.replicate_succ', ← List.append_assoc]
    rfl

end Path

/-! ## Following -/

namespace Files.World
open Marginalia.Path FileTree
set_option autoImplicit false

variable {w w' : World} {dir dir' : RealPath}

theorem follow_of_nothing (h : w.root.isDirectory? dir = none) (s : String) (rest : List String) :
    w.follow dir (s :: rest) = .error .notFound := by
  rw [follow, isDirectory?_eq_none_iff.mp h]

theorem follow_of_file (h : w.root.isDirectory? dir = some false) (s : String)
    (rest : List String) : w.follow dir (s :: rest) = .error .notDirectory := by
  obtain ⟨v, hv⟩ := isDirectory?_eq_false_iff.mp h
  rw [follow, hv]

theorem follow_of_directory (h : w.root.isDirectory? dir = some true) (s : String)
    (rest : List String) :
    w.follow dir (s :: rest) =
      if s = "" || s = "." then w.follow dir rest
      else if s = ".." then w.follow dir.dropLast rest
      else if (w.root.isDirectory? (dir ++ [s])).isSome then w.follow (dir ++ [s]) rest
      else .error .notFound := by
  obtain ⟨es, hes⟩ := isDirectory?_eq_true_iff.mp h
  have hs : (w.root.isDirectory? (dir ++ [s])).isSome = (es.lookup s).isSome := by
    rw [isDirectory?, Option.isSome_map, at?_append, hes, Option.bind_some, at?_cons, entries]
    cases es.lookup s with
    | none => rfl
    | some child => rfl
  rw [follow, hes, hs]

theorem follow_eq_ok_directory {s : String} {rest : List String}
    (h : w.follow dir (s :: rest) = .ok dir') : w.root.isDirectory? dir = some true := by
  rcases hd : w.root.isDirectory? dir with - | b
  · rw [follow_of_nothing hd] at h
    cases h
  · cases b with
    | true => rfl
    | false =>
      rw [follow_of_file hd] at h
      cases h

theorem follow_blank {s : String} (hs : s = "" ∨ s = ".")
    (h : w.root.isDirectory? dir = some true) (rest : List String) :
    w.follow dir (s :: rest) = w.follow dir rest := by
  rw [follow_of_directory h, if_pos (by simpa using hs)]

theorem follow_name {s : String} (hs : IsName s) (h : (w.root.isDirectory? (dir ++ [s])).isSome)
    (rest : List String) : w.follow dir (s :: rest) = w.follow (dir ++ [s]) rest := by
  obtain ⟨b, hb⟩ := Option.isSome_iff_exists.mp h
  rw [follow_of_directory (isDirectory?_above hb (by simp)), if_neg (by simp [hs.1, hs.2.1]),
    if_neg hs.2.2, if_pos h]

theorem follow_append (w : World) (dir : RealPath) (front back : List String) :
    w.follow dir (front ++ back) = w.follow dir front >>= fun dir => w.follow dir back := by
  induction front generalizing dir with
  | nil => rfl
  | cons s front ih =>
    rw [List.cons_append]
    rcases hd : w.root.isDirectory? dir with - | b
    · rw [follow_of_nothing hd, follow_of_nothing hd]
      rfl
    · cases b with
      | false =>
        rw [follow_of_file hd, follow_of_file hd]
        rfl
      | true =>
        rw [follow_of_directory hd, follow_of_directory hd, ih, ih, ih]
        split_ifs <;> rfl

theorem follow_append_ok {front : List String} (h : w.follow dir front = .ok dir')
    (back : List String) : w.follow dir (front ++ back) = w.follow dir' back := by
  rw [follow_append, h]
  rfl

theorem follow_split {front back : List String} {last : RealPath}
    (h : w.follow dir (front ++ back) = .ok last) :
    ∃ mid, w.follow dir front = .ok mid ∧ w.follow mid back = .ok last := by
  rw [follow_append] at h
  cases hf : w.follow dir front with
  | error e =>
    rw [hf] at h
    cases h
  | ok mid =>
    rw [hf] at h
    exact ⟨mid, rfl, h⟩

theorem follow_names {names : List String} (hn : ∀ n ∈ names, IsName n)
    (h : (w.root.isDirectory? (dir ++ names)).isSome) :
    w.follow dir names = .ok (dir ++ names) := by
  induction names generalizing dir with
  | nil => rw [List.append_nil, follow]
  | cons n names ih =>
    obtain ⟨hname, hn⟩ := List.forall_mem_cons.mp hn
    rw [← List.singleton_append, ← List.append_assoc] at h ⊢
    have hstep : (w.root.isDirectory? (dir ++ [n])).isSome := by
      by_cases he : names = []
      · rwa [he, List.append_nil] at h
      · obtain ⟨b, hb⟩ := Option.isSome_iff_exists.mp h
        rw [isDirectory?_above hb he]
        rfl
    rw [List.singleton_append, follow_name hname hstep, ih hn h]

theorem isSome_of_follow {segments : List String} (hne : segments ≠ [])
    (h : w.follow dir segments = .ok dir') : (w.root.isDirectory? dir').isSome := by
  induction segments generalizing dir with
  | nil => exact absurd rfl hne
  | cons s rest ih =>
    have hd := follow_eq_ok_directory h
    -- it stands already at the end of the first segment
    have hgoal : ∀ next, (w.root.isDirectory? next).isSome → w.follow next rest = .ok dir' →
        (w.root.isDirectory? dir').isSome := by
      intro next hnext hrest
      by_cases he : rest = []
      · rw [he, follow] at hrest
        cases hrest
        exact hnext
      · exact ih he hrest
    rw [follow_of_directory hd] at h
    split_ifs at h with hblank hup hsome
    · exact hgoal dir (by rw [hd]; rfl) h
    · exact hgoal _ (by rw [isDirectory?_on_way hd (List.dropLast_prefix dir)]; rfl) h
    · exact hgoal _ hsome h

theorem follow_filter {segments : List String} (h : w.follow dir segments = .ok dir') :
    w.follow dir (segments.filter fun s => s ≠ "" && s ≠ ".") = .ok dir' := by
  induction segments generalizing dir with
  | nil => exact h
  | cons s rest ih =>
    have hd := follow_eq_ok_directory h
    rw [follow_of_directory hd] at h
    by_cases hblank : s = "" || s = "."
    · rw [if_pos hblank] at h
      rw [List.filter_cons_of_neg (by simpa [or_iff_not_imp_left] using hblank)]
      exact ih h
    · rw [if_neg hblank] at h
      rw [List.filter_cons_of_pos (by simpa using hblank), follow_of_directory hd, if_neg hblank]
      split_ifs at h ⊢ with hup hsome
      · exact ih h
      · exact ih h

/-! ## Growing -/

/-- What is seen in the first file system is seen in the second. -/
structure Keeps (w w' : World) : Prop where
  here : w'.here = w.here
  seen : ∀ x b, w.root.isDirectory? x = some b → w'.root.isDirectory? x = some b

theorem Keeps.refl (w : World) : Keeps w w :=
  ⟨rfl, fun _ _ h => h⟩

theorem Keeps.trans {w'' : World} (h : Keeps w w') (h' : Keeps w' w'') : Keeps w w'' :=
  ⟨h'.here.trans h.here, fun x b hb => h'.seen x b (h.seen x b hb)⟩

theorem Keeps.origin (h : Keeps w w') (path : String) : w'.origin path = w.origin path := by
  rw [World.origin, World.origin, h.here]

theorem Keeps.follow (h : Keeps w w') {segments : List String}
    (hf : w.follow dir segments = .ok dir') : w'.follow dir segments = .ok dir' := by
  induction segments generalizing dir with
  | nil => exact hf
  | cons s rest ih =>
    have hd := follow_eq_ok_directory hf
    rw [follow_of_directory hd] at hf
    rw [follow_of_directory (h.seen _ _ hd)]
    split_ifs at hf with hblank hup hsome
    · rw [if_pos hblank, ih hf]
    · rw [if_neg hblank, if_pos hup, ih hf]
    · obtain ⟨b, hb⟩ := Option.isSome_iff_exists.mp hsome
      rw [if_neg hblank, if_neg hup, h.seen _ _ hb, Option.isSome_some, if_pos rfl, ih hf]

theorem origin_append {path : String} (hne : path ≠ "") (rest : String) :
    w.origin (path ++ rest) = w.origin path := by
  rw [origin, origin, String.toList_append, List.head?_append_of_ne_nil _ (by simpa using hne)]

theorem realPath_eq_ok_iff {path : String} :
    w.realPath path = .ok dir ↔
      isBad path = false ∧ path ≠ "" ∧ w.follow (w.origin path) (segments path) = .ok dir := by
  rw [realPath]
  split_ifs with hbad he
  · simp [hbad]
  · simp [he]
  · rw [Bool.not_eq_true] at hbad
    exact ⟨fun h => ⟨hbad, he, h⟩, fun h => h.2.2⟩

theorem Keeps.realPath (h : Keeps w w') {path : String} (hp : w.realPath path = .ok dir) :
    w'.realPath path = .ok dir := by
  obtain ⟨hbad, hne, hf⟩ := realPath_eq_ok_iff.mp hp
  rw [← h.origin] at hf
  exact realPath_eq_ok_iff.mpr ⟨hbad, hne, h.follow hf⟩

theorem isSome_of_realPath {path : String} (h : w.realPath path = .ok dir) :
    (w.root.isDirectory? dir).isSome :=
  isSome_of_follow (segments_ne_nil path) (realPath_eq_ok_iff.mp h).2.2

theorem isDirectory_of_realPath {path : String} (h : w.realPath path = .ok dir) :
    w.isDirectory path = true ↔ w.root.isDirectory? dir = some true := by
  rw [isDirectory, find, h]
  obtain ⟨t, ht⟩ := Option.isSome_iff_exists.mp (Option.isSome_map ▸ isSome_of_realPath h)
  simp [bind, Except.bind, pure, Except.pure, ht, isDirectory?]

theorem trimSlashes_slashes (cs : List Char) {c : Char} (hc : c ≠ '/') (n : Nat) :
    trimSlashes (String.ofList (cs ++ c :: List.replicate n '/')) = String.ofList (cs ++ [c]) := by
  have hdrop : ((String.ofList (cs ++ c :: List.replicate n '/')).toList.reverse.dropWhile
      (· = '/')).reverse = cs ++ [c] := by
    simp [List.dropWhile_append_of_pos, hc]
  rw [trimSlashes, hdrop]
  split
  next he => simp at he
  next => rfl

/-! ## Paths that end in names -/

/-- The path leads to a directory and from there along names. -/
structure Along (w : World) (path : String) (dir : RealPath) (names : List String) : Prop where
  good : isBad path = false
  isName : ∀ n ∈ names, IsName n
  way : ∃ front, segments path = front ++ names ∧ w.follow (w.origin path) front = .ok dir

theorem Along.keeps {path : String} {names : List String} (h : Along w path dir names)
    (hk : Keeps w w') : Along w' path dir names := by
  obtain ⟨front, hs, hf⟩ := h.way
  exact ⟨h.good, h.isName, front, hs, by rw [hk.origin]; exact hk.follow hf⟩

theorem not_isBad_iff {path : String} : isBad path = false ↔ '\x00' ∉ path.toList := by
  rw [isBad, ← Bool.not_eq_true, List.contains_iff_mem]

theorem Along.entryNames {path : String} {names : List String} (h : Along w path dir names) :
    ∀ n ∈ names, IsEntryName n := by
  obtain ⟨front, hs, -⟩ := h.way
  intro n hn
  have hmem : n ∈ segments path := hs ▸ List.mem_append_right front hn
  exact ⟨h.isName n hn, slash_not_mem_segment hmem,
    fun hc => not_isBad_iff.mp h.good (mem_of_mem_segment hmem hc)⟩

theorem parent_eq {path : String} (hbad : isBad path = false) (hne : path ≠ "") :
    w.parent path = w.follow (w.origin path) (segments path).dropLast >>= fun d =>
      if w.root.isDirectory? d = some true then
        .ok (d, if fileName path = "" || fileName path = "." || fileName path = ".." then none
          else some (fileName path))
      else if w.root.isDirectory? d = some false then .error .notDirectory
      else .error .notFound := by
  unfold parent
  simp only [hbad, hne, Bool.false_eq_true, if_false]
  cases w.follow (w.origin path) (segments path).dropLast with
  | error e => rfl
  | ok d =>
    rcases hat : w.root.at? d with - | ⟨v⟩ | ⟨es⟩ <;>
      simp only [bind, Except.bind, isDirectory?, hat] <;> rfl

section
variable {path name : String} {names : List String}

theorem Along.fileName_eq (h : Along w path dir (names ++ [name])) : fileName path = name := by
  obtain ⟨front, hs, -⟩ := h.way
  rw [fileName, hs, ← List.append_assoc]
  simp

theorem Along.ne_empty (h : Along w path dir (names ++ [name])) : path ≠ "" := by
  rintro rfl
  exact (h.isName name (by simp)).1 (h.fileName_eq ▸ rfl)

theorem Along.realPath (h : Along w path dir (names ++ [name]))
    (hs : (w.root.isDirectory? (dir ++ (names ++ [name]))).isSome) :
    w.realPath path = .ok (dir ++ (names ++ [name])) := by
  obtain ⟨front, hseg, hf⟩ := h.way
  refine realPath_eq_ok_iff.mpr ⟨h.good, h.ne_empty, ?_⟩
  rw [hseg, follow_append_ok hf, follow_names h.isName hs]

theorem Along.trimSlashes (h : Along w path dir (names ++ [name])) :
    World.trimSlashes path = path := by
  obtain ⟨front, hfront⟩ := eq_append_fileName path
  have hname := h.entryNames name (by simp)
  rw [h.fileName_eq] at hfront
  obtain ⟨cs, c, hcs⟩ : ∃ cs c, name.toList = cs ++ [c] := by
    have hne : name.toList ≠ [] := fun he => hname.1.1 (by simpa using he)
    exact ⟨_, _, (List.dropLast_append_getLast hne).symm⟩
  have hc : c ≠ '/' := fun he => hname.2.1 (by simp [hcs, he])
  have hpath : path = String.ofList (front ++ cs ++ [c]) := by
    rw [← String.toList_inj, hfront, hcs]
    simp
  rw [hpath]
  exact trimSlashes_slashes (front ++ cs) hc 0

/-! ## The directory that a path leads into -/

theorem Along.parent_eq (h : Along w path dir (names ++ [name])) :
    w.parent path = w.follow dir names >>= fun d =>
      if w.root.isDirectory? d = some true then .ok (d, some name)
      else if w.root.isDirectory? d = some false then .error .notDirectory
      else .error .notFound := by
  obtain ⟨front, hseg, hf⟩ := h.way
  have hname := h.isName name (by simp)
  have hdrop : (segments path).dropLast = front ++ names := by
    rw [hseg, ← List.append_assoc, List.dropLast_concat]
  rw [World.parent_eq h.good h.ne_empty, hdrop, follow_append_ok hf, h.fileName_eq]
  simp only [hname.1, hname.2.1, hname.2.2, decide_false, Bool.or_false, Bool.false_eq_true,
    if_false]

theorem Along.parent_of_directory (h : Along w path dir (names ++ [name]))
    (hd : w.root.isDirectory? (dir ++ names) = some true) :
    w.parent path = .ok (dir ++ names, some name) := by
  have hnames : ∀ n ∈ names, IsName n := fun n hn => h.isName n (by simp [hn])
  rw [h.parent_eq, follow_names hnames (by rw [hd]; rfl)]
  exact if_pos hd

theorem Along.parent_of_file (h : Along w path dir (names ++ [name])) {front : List String}
    (hfront : front <+: names) (hd : w.root.isDirectory? (dir ++ front) = some false) :
    w.parent path = .error .notDirectory := by
  obtain ⟨back, rfl⟩ := hfront
  have hnames : ∀ n ∈ front, IsName n := fun n hn => h.isName n (by simp [hn])
  rw [h.parent_eq, follow_append, follow_names hnames (by rw [hd]; rfl)]
  cases back with
  | nil => simp [bind, Except.bind, follow, hd]
  | cons s back => simp [bind, Except.bind, follow_of_file hd]

theorem Along.parent_of_nothing (h : Along w path dir (names ++ [name])) {front : List String}
    {s : String} (hfront : front ++ [s] <+: names)
    (hd : w.root.isDirectory? (dir ++ front) = some true)
    (hs : w.root.isDirectory? (dir ++ (front ++ [s])) = none) :
    w.parent path = .error .notFound := by
  obtain ⟨back, rfl⟩ := hfront
  have hnames : ∀ n ∈ front, IsName n := fun n hn => h.isName n (by simp [hn])
  have hname : IsName s := h.isName s (by simp)
  rw [h.parent_eq, List.append_assoc, follow_append, follow_names hnames (by rw [hd]; rfl)]
  simp [bind, Except.bind, follow_of_directory hd, hname.1, hname.2.1, hname.2.2, hs]

end

end Files.World

end Marginalia
