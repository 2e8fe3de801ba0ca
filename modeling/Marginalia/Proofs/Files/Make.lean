import Marginalia.Proofs.Files.Follow

/-! Making directories and writing files. Directories on a path of names are made exactly if no file
stands on it, and a file is written exactly if its directory is there and it is no directory itself;
nothing else is seen to change. -/
namespace Marginalia.Files.World
open Marginalia.Path FileTree
set_option autoImplicit false

variable {w w' : World} {dir : RealPath} {path name : String} {names : List String}

/-! ## What stands along names -/

/-- Names lead from a directory to a directory, or into a file, or to where nothing stands. -/
theorem along_cases (hd : w.root.isDirectory? dir = some true) (names : List String) :
    w.root.isDirectory? (dir ++ names) = some true ∨
    (∃ front, front <+: names ∧ w.root.isDirectory? (dir ++ front) = some false) ∨
    ∃ front n back, names = front ++ n :: back ∧ w.root.isDirectory? (dir ++ front) = some true ∧
      w.root.isDirectory? (dir ++ (front ++ [n])) = none := by
  induction names using List.reverseRecOn with
  | nil => exact .inl (by rwa [List.append_nil])
  | append_singleton names n ih =>
    rcases ih with htrue | ⟨front, hfront, hfile⟩ | ⟨front, m, back, rfl, hfront, hm⟩
    · rcases hn : w.root.isDirectory? (dir ++ (names ++ [n])) with - | b
      · exact .inr (.inr ⟨names, n, [], rfl, htrue, hn⟩)
      · cases b with
        | true => exact .inl rfl
        | false => exact .inr (.inl ⟨_, List.prefix_rfl, hn⟩)
    · exact .inr (.inl ⟨front, hfront.trans (List.prefix_append _ _), hfile⟩)
    · exact .inr (.inr ⟨front, m, back ++ [n], by simp, hfront, hm⟩)

theorem isDirectory?_new {p : RealPath} {seen : RealPath → Option Bool}
    (h : ∀ x, w.root.isDirectory? x = if x <+: p then some true else seen x)
    (hn : w.root.isDirectory? (p ++ [name]) = none) (x : RealPath) :
    (w.root.insert (p ++ [name]) (.directory [])).isDirectory? x =
      if x <+: p ++ [name] then some true else seen x := by
  have hp : w.root.isDirectory? p = some true := by rw [h, if_pos List.prefix_rfl]
  rw [isDirectory?_insert hp (by simp [hn]) rfl, h]
  simp only [List.prefix_concat_iff]
  by_cases hx : x = p ++ [name] <;> simp [hx, FileTree.isDirectory]

theorem seen_on_way {p : RealPath} (hp : w.root.isDirectory? p = some true) (x : RealPath) :
    w.root.isDirectory? x = if x <+: p then some true else w.root.isDirectory? x := by
  split_ifs with hx
  · exact isDirectory?_on_way hp hx
  · rfl

/-! ## More directories -/

/-- The second file system is the first with more directories. -/
structure Grows (w w' : World) : Prop extends Keeps w w' where
  files : ∀ x, w'.root.isDirectory? x = some false → w.root.isDirectory? x = some false
  holds : ∀ x v, w.root.at? x = some (.file v) → w'.root.at? x = some (.file v)
  sound : w.root.Sound → w'.root.Sound

theorem Grows.refl (w : World) : Grows w w :=
  ⟨.refl w, fun _ h => h, fun _ _ h => h, fun h => h⟩

theorem Grows.trans {w'' : World} (h : Grows w w') (h' : Grows w' w'') : Grows w w'' :=
  ⟨h.toKeeps.trans h'.toKeeps, fun x hx => h.files x (h'.files x hx),
    fun x v hx => h'.holds x v (h.holds x v hx), fun hs => h'.sound (h.sound hs)⟩

theorem sound_insert (hw : w.root.Sound) {t : FileTree ByteArray} (ht : t.Sound)
    (hd : w.root.isDirectory? dir = some true) (hn : IsEntryName name) :
    (w.root.insert (dir ++ [name]) t).Sound := by
  obtain ⟨es, hes⟩ := isDirectory?_eq_true_iff.mp hd
  refine hw.insert ht fun n hmem => ?_
  rcases List.mem_append.mp hmem with hmem | hmem
  · exact (hw.at? hes).1 n hmem
  · rw [List.mem_singleton.mp hmem]
    exact hn

theorem grows_insert (hd : w.root.isDirectory? dir = some true)
    (hnone : w.root.isDirectory? (dir ++ [name]) = none) (hn : IsEntryName name) :
    Grows w { w with root := w.root.insert (dir ++ [name]) (.directory []) } := by
  have hview := isDirectory?_new (seen_on_way hd) hnone
  refine ⟨⟨rfl, fun x b hb => ?_⟩, fun x hx => ?_, fun x v hx => ?_, fun hw => ?_⟩
  · rw [hview]
    split_ifs with hx
    · rcases List.prefix_concat_iff.mp hx with rfl | hx
      · rw [hnone] at hb
        cases hb
      · rw [← hb, isDirectory?_on_way hd hx]
    · exact hb
  · rw [hview] at hx
    split_ifs at hx
    · cases hx
    · exact hx
  · refine at?_insert_of_file _ hd (by simp [hnone]) hx ?_
    rintro rfl
    rw [isDirectory?_eq_none_iff.mp hnone] at hx
    cases hx
  · exact sound_insert hw (.directory (by simp) (by simp) (by simp)) hd hn

theorem parent_eq_ok (h : w.parent path = .ok (dir, some name)) :
    isBad path = false ∧ path ≠ "" ∧
      w.follow (w.origin path) (segments path).dropLast = .ok dir ∧
      w.root.isDirectory? dir = some true ∧ fileName path = name ∧ IsEntryName name := by
  by_cases hbad : isBad path = true
  · unfold parent at h
    rw [if_pos hbad] at h
    cases h
  by_cases hne : path = ""
  · unfold parent at h
    rw [if_neg hbad, if_pos hne] at h
    cases h
  rw [parent_eq (by simpa using hbad) hne] at h
  cases hf : w.follow (w.origin path) (segments path).dropLast with
  | error e =>
    rw [hf] at h
    cases h
  | ok d =>
    simp only [hf, bind, Except.bind] at h
    split_ifs at h with hd hlast
    · cases h
    · cases h
      refine ⟨by simpa using hbad, hne, rfl, hd, rfl, by simpa [IsName, and_assoc] using hlast,
        slash_not_mem_fileName path, fun hc => ?_⟩
      refine not_isBad_iff.mp (by simpa using hbad) (mem_of_mem_segment ?_ hc)
      rw [segments_eq_dropLast_append]
      simp

theorem makeDirectory_grows (h : w.makeDirectory path = .ok w') : Grows w w' := by
  unfold makeDirectory at h
  rcases hp : w.parent (trimSlashes path) with e | ⟨d, - | n⟩ <;> rw [hp] at h
  · cases h
  · cases h
  · simp only [bind, Except.bind] at h
    split_ifs at h with hsome
    cases h
    obtain ⟨-, -, -, hd, -, hn⟩ := parent_eq_ok hp
    exact grows_insert hd (isDirectory?_eq_none_iff.mpr (by simpa using hsome)) hn

theorem makeNearest_grows {missing more dirs : List String}
    (h : w.makeNearest missing dirs = .ok (w', more)) : Grows w w' := by
  induction dirs generalizing missing with
  | nil =>
    cases h
    exact .refl _
  | cons dir dirs ih =>
    rw [makeNearest] at h
    split at h
    next hm =>
      cases h
      exact makeDirectory_grows hm
    next => exact ih h
    next =>
      split_ifs at h
      cases h
      exact .refl _
    next => cases h

theorem makeEach_grows {dirs : List String} (h : w.makeEach dirs = .ok w') : Grows w w' := by
  induction dirs generalizing w with
  | nil =>
    cases h
    exact .refl _
  | cons dir dirs ih =>
    rw [makeEach] at h
    split at h
    next hm => exact (makeDirectory_grows hm).trans (ih h)
    next =>
      split_ifs at h
      exact ih h

/-- Directories that are made are new, and nothing else is. -/
theorem makeDirectories_grows (h : w.makeDirectories path = .ok w') : Grows w w' := by
  rw [makeDirectories] at h
  split_ifs at h
  · cases h
    exact .refl _
  · rcases hn : w.makeNearest [] (path :: above path) with e | ⟨w₁, missing⟩ <;> rw [hn] at h
    · cases h
    · exact (makeNearest_grows hn).trans (makeEach_grows h)

theorem makeEach_append (w : World) (front back : List String) :
    w.makeEach (front ++ back) = w.makeEach front >>= fun w => w.makeEach back := by
  induction front generalizing w with
  | nil => rfl
  | cons dir front ih =>
    rw [List.cons_append, makeEach, makeEach]
    cases w.makeDirectory dir with
    | ok w' => exact ih w'
    | error e =>
      dsimp only
      split_ifs
      · exact ih w
      · rfl

/-! ## One directory -/

theorem Along.makeDirectory_of_directory (h : Along w path dir (names ++ [name]))
    (hd : w.root.isDirectory? (dir ++ names) = some true) :
    w.makeDirectory path =
      if (w.root.isDirectory? (dir ++ names ++ [name])).isSome then .error .exists
      else .ok { w with root := w.root.insert (dir ++ names ++ [name]) (.directory []) } := by
  rw [isDirectory?, Option.isSome_map]
  unfold makeDirectory
  rw [h.trimSlashes, h.parent_of_directory hd]
  simp only [bind, Except.bind]
  split_ifs <;> rfl

theorem Along.makeDirectory_of_error (h : Along w path dir (names ++ [name])) {e : FileError}
    (hp : w.parent path = .error e) : w.makeDirectory path = .error e := by
  unfold makeDirectory
  rw [h.trimSlashes, hp]
  rfl

/-! ## The directories above a path -/

/-- Paths that lead to a place below a directory, to what is above it and so on; what follows the
first step down does not matter. -/
inductive Ladder (w : World) (dir : RealPath) : List String → List String → Prop
  | nil (paths : List String) : Ladder w dir [] paths
  | snoc {path name : String} {names paths : List String} (top : Along w path dir (names ++ [name]))
      (below : Ladder w dir names paths) : Ladder w dir (names ++ [name]) (path :: paths)

theorem Ladder.top {paths : List String} (h : Ladder w dir (names ++ [name]) paths) :
    ∃ path rest, paths = path :: rest ∧ Along w path dir (names ++ [name]) ∧
      Ladder w dir names rest := by
  generalize hn : names ++ [name] = ns at h
  cases h with
  | nil => simp at hn
  | snoc top below =>
    obtain ⟨rfl, hname⟩ := List.append_inj' hn rfl
    cases hname
    exact ⟨_, _, rfl, top, below⟩

def aboveParts (root : String) (parts : List String) : List String :=
  ((List.range parts.length).drop 1).reverse.map fun n => root ++ ofSegments (parts.take n)

theorem aboveParts_concat (root : String) {parts : List String} (hne : parts ≠ []) (part : String) :
    aboveParts root (parts ++ [part]) =
      (root ++ ofSegments parts) :: aboveParts root parts := by
  have hlen : 1 ≤ (List.range parts.length).length := by
    rw [List.length_range]
    exact List.length_pos_of_ne_nil hne
  rw [aboveParts, aboveParts, List.length_append, List.length_singleton, List.range_succ,
    List.drop_append_of_le_length hlen, List.reverse_concat, List.map_cons, List.take_left]
  congr 1
  refine List.map_congr_left fun n hn => ?_
  have hn := List.mem_range.mp (List.mem_of_mem_drop (List.mem_reverse.mp hn))
  rw [List.take_append_of_le_length (Nat.le_of_lt hn)]

/-- The first segments of a path, which is where following it starts. -/
def startOf (path : String) : List String :=
  if path.toList.head? = some '/' then [""] else []

theorem above_eq (path : String) : ∃ root, above path = aboveParts root (components path) ∧
    ∀ parts, parts ≠ [] → root ++ ofSegments parts = ofSegments (startOf path ++ parts) := by
  refine ⟨if path.toList.head? = some '/' then "/" else "", rfl, fun parts hne => ?_⟩
  rw [startOf]
  split_ifs
  · rw [List.singleton_append, ofSegments_cons "" hne, String.empty_append]
  · rw [List.nil_append, String.empty_append]

theorem mem_components {s : String} (h : s ∈ components path) : s ∈ segments path ∧ s ≠ "" := by
  rw [components] at h
  split at h
  next rest hseg =>
    rw [hseg]
    rcases List.mem_cons.mp h with rfl | h
    · exact ⟨List.mem_cons_self .., by decide⟩
    · obtain ⟨hmem, hs⟩ := List.mem_filter.mp h
      exact ⟨List.mem_cons_of_mem _ hmem, by simp at hs; exact hs.1⟩
  next =>
    obtain ⟨hmem, hs⟩ := List.mem_filter.mp h
    exact ⟨hmem, by simp at hs; exact hs.1⟩

/-- The start of a path and its parts are its segments without those in the middle that lead
nowhere. -/
theorem start_components {s : String} {rest : List String} (hseg : segments path = s :: rest)
    (hne : path ≠ "") :
    startOf path ++ components path = s :: rest.filter fun s => s ≠ "" && s ≠ "." := by
  by_cases hs : s = ""
  · subst hs
    have hrest : rest ≠ [] := by
      rintro rfl
      exact hne (by rw [← ofSegments_segments path, hseg, ofSegments_singleton])
    rw [startOf, if_pos (head_slash_iff.mpr ⟨rest, hrest, hseg⟩), components, hseg]
    rfl
  · have hstart : startOf path = [] := by
      rw [startOf, if_neg]
      intro hhead
      obtain ⟨rest', -, hseg'⟩ := head_slash_iff.mp hhead
      rw [hseg, List.cons.injEq] at hseg'
      exact hs hseg'.1
    rw [hstart, List.nil_append, components, hseg]
    split
    next he =>
      rw [List.cons.injEq] at he
      rw [he.1, he.2]
    next hdot =>
      have hdot : s ≠ "." := fun he => hdot rest (by rw [he])
      rw [List.filter_cons_of_pos (by simp [hs, hdot])]

/-- The names at the end of a path are among its parts, and the parts before them lead where the path
led before. -/
theorem Along.components (h : Along w path dir (names ++ [name])) :
    ∃ front, World.components path = front ++ (names ++ [name]) ∧
      w.follow (w.origin path) (startOf path ++ front) = .ok dir := by
  obtain ⟨front, hseg, hf⟩ := h.way
  have hfilter : ((names ++ [name]).filter fun s => s ≠ "" && s ≠ ".") = names ++ [name] :=
    List.filter_eq_self.mpr fun n hn => by simp [(h.isName n hn).1, (h.isName n hn).2.1]
  -- the segments before the names can be tidied on their own
  obtain ⟨tidy, htidy, hfollow⟩ : ∃ tidy, startOf path ++ World.components path =
      tidy ++ (names ++ [name]) ∧ w.follow (w.origin path) tidy = .ok dir := by
    obtain - | ⟨s, front⟩ := front
    · obtain ⟨n, rest, hn⟩ := List.exists_cons_of_ne_nil (List.concat_ne_nil name names)
      refine ⟨[], ?_, hf⟩
      rw [List.nil_append] at hseg ⊢
      rw [start_components (hseg.trans hn) h.ne_empty, ← hfilter, hn, List.filter_cons_of_pos]
      have hname := h.isName n (hn ▸ List.mem_cons_self ..)
      simp [hname.1, hname.2.1]
    · refine ⟨s :: front.filter fun s => s ≠ "" && s ≠ ".", ?_, ?_⟩
      · rw [List.cons_append] at hseg
        rw [start_components hseg h.ne_empty, List.filter_append, hfilter, List.cons_append]
      · rw [← List.singleton_append] at hf
        obtain ⟨mid, hs, hrest⟩ := follow_split hf
        rw [← List.singleton_append, follow_append_ok hs]
        exact follow_filter hrest
  rw [startOf] at htidy ⊢
  split_ifs at htidy ⊢ with hroot
  · obtain - | ⟨t, tidy⟩ := tidy
    · exact absurd (h.isName "" (htidy ▸ List.mem_cons_self ..)).1 (by decide)
    · rw [List.singleton_append, List.cons_append, List.cons.injEq] at htidy
      obtain ⟨rfl, htidy⟩ := htidy
      exact ⟨tidy, htidy, hfollow⟩
  · exact ⟨tidy, htidy, hfollow⟩

theorem eq_empty_of_mem_startOf {s : String} (h : s ∈ startOf path) : s = "" := by
  rw [startOf] at h
  split_ifs at h
  · exact List.mem_singleton.mp h
  · cases h

theorem origin_ofSegments (w : World) (path : String) {parts : List String} (hne : parts ≠ [])
    (hparts : ∀ s ∈ parts, s ∈ segments path ∧ s ≠ "") :
    segments (ofSegments (startOf path ++ parts)) = startOf path ++ parts ∧
    w.origin (ofSegments (startOf path ++ parts)) = w.origin path := by
  have hseg : segments (ofSegments (startOf path ++ parts)) = startOf path ++ parts := by
    refine segments_ofSegments (by simp [hne]) fun s hs => ?_
    rcases List.mem_append.mp hs with hs | hs
    · simp [eq_empty_of_mem_startOf hs]
    · exact slash_not_mem_segment (hparts s hs).1
  refine ⟨hseg, ?_⟩
  have hiff : (ofSegments (startOf path ++ parts)).toList.head? = some '/' ↔
      path.toList.head? = some '/' := by
    rw [head_slash_iff, hseg, startOf]
    split_ifs with hroot
    · exact iff_of_true ⟨parts, hne, rfl⟩ hroot
    · refine iff_of_false ?_ hroot
      rintro ⟨rest, -, hrest⟩
      exact (hparts "" (by rw [← List.nil_append parts, hrest]; simp)).2 rfl
  simp only [origin, hiff]

section
variable {front : List String} (h : Along w path dir (names ++ [name]))
  (hparts : components path = front ++ (names ++ [name]))
  (hfollow : w.follow (w.origin path) (startOf path ++ front) = .ok dir)
include h hparts hfollow

/-- A path cut off among its names leads as far as the names that are left. -/
theorem along_shorter {ns : List String} {n : String} (hns : ns ++ [n] <+: names ++ [name]) :
    Along w (ofSegments (startOf path ++ (front ++ (ns ++ [n])))) dir (ns ++ [n]) := by
  have hmem : ∀ s ∈ front ++ (ns ++ [n]), s ∈ segments path ∧ s ≠ "" := fun s hs =>
    mem_components (hparts ▸ ((List.prefix_append_right_inj front).mpr hns).subset hs)
  obtain ⟨hseg, horigin⟩ := origin_ofSegments w path (by simp) hmem
  refine ⟨not_isBad_iff.mpr fun hnul => ?_, fun s hs => h.isName s (hns.subset hs),
    startOf path ++ front, by rw [hseg, List.append_assoc], by rw [horigin]; exact hfollow⟩
  rcases mem_ofSegments hnul with hc | ⟨s, hs, hc⟩
  · cases hc
  · rcases List.mem_append.mp hs with hs | hs
    · simp [eq_empty_of_mem_startOf hs] at hc
    · exact not_isBad_iff.mp h.good (mem_of_mem_segment (hmem s hs).1 hc)

theorem ladder_aboveParts {root : String}
    (hroot : ∀ parts, parts ≠ [] → root ++ ofSegments parts = ofSegments (startOf path ++ parts))
    {ns : List String} {n p : String} (hns : ns ++ [n] <+: names ++ [name])
    (hp : Along w p dir (ns ++ [n])) :
    Ladder w dir (ns ++ [n]) (p :: aboveParts root (front ++ (ns ++ [n]))) := by
  induction ns using List.reverseRecOn generalizing n p with
  | nil => exact .snoc hp (.nil _)
  | append_singleton ns m ih =>
    have hns : ns ++ [m] <+: names ++ [name] := (List.prefix_append _ _).trans hns
    rw [← List.append_assoc front, aboveParts_concat root (by simp), hroot _ (by simp)]
    exact .snoc hp (ih hns (along_shorter h hparts hfollow hns))

end

theorem Along.ladder (h : Along w path dir (names ++ [name])) :
    Ladder w dir (names ++ [name]) (path :: above path) := by
  obtain ⟨front, hparts, hfollow⟩ := h.components
  obtain ⟨root, habove, hroot⟩ := above_eq path
  rw [habove, hparts]
  exact ladder_aboveParts h hparts hfollow hroot List.prefix_rfl h

/-! ## All directories of a path -/

theorem Ladder.make {front back paths : List String} {n : String}
    (h : Ladder w dir (front ++ n :: back) paths)
    (hd : w.root.isDirectory? (dir ++ front) = some true)
    (hn : w.root.isDirectory? (dir ++ (front ++ [n])) = none) (missing : List String) :
    ∃ w₁ more w₂, w.makeNearest missing paths = .ok (w₁, more ++ missing) ∧
      w₁.makeEach more = .ok w₂ ∧
      ∀ x, w₂.root.isDirectory? x =
        if x <+: dir ++ (front ++ n :: back) then some true else w.root.isDirectory? x := by
  induction back using List.reverseRecOn generalizing paths missing with
  | nil =>
    obtain ⟨path, rest, rfl, htop, -⟩ := h.top
    rw [← List.append_assoc] at hn ⊢
    refine ⟨{ w with root := w.root.insert (dir ++ front ++ [n]) (.directory []) }, [], _, ?_, rfl,
      isDirectory?_new (seen_on_way hd) hn⟩
    rw [makeNearest, htop.makeDirectory_of_directory hd, hn]
    rfl
  | append_singleton back b ih =>
    rw [← List.cons_append, ← List.append_assoc] at h
    rw [← List.cons_append, ← List.append_assoc front]
    obtain ⟨path, rest, rfl, htop, hbelow⟩ := h.top
    have hmiss : w.makeDirectory path = .error .notFound :=
      htop.makeDirectory_of_error (htop.parent_of_nothing ⟨back, by simp⟩ hd hn)
    obtain ⟨w₁, more, w₂, hnear, heach, hview⟩ := ih hbelow (path :: missing)
    have hgrows := (makeNearest_grows hnear).trans (makeEach_grows heach)
    -- nothing stands yet where the last directory goes
    have hnone : w₂.root.isDirectory? (dir ++ (front ++ n :: back) ++ [b]) = none := by
      have hsplit : dir ++ (front ++ n :: back) ++ [b] = dir ++ (front ++ [n]) ++ (back ++ [b]) := by
        simp
      rw [hview, if_neg fun hx => absurd hx.length_le (by simp), hsplit]
      exact isDirectory?_below (by rw [hn]; nofun) (by simp)
    have hend : w₂.root.isDirectory? (dir ++ (front ++ n :: back)) = some true := by
      rw [hview, if_pos List.prefix_rfl]
    refine ⟨w₁, more ++ [path],
      { w₂ with root := w₂.root.insert (dir ++ (front ++ n :: back) ++ [b]) (.directory []) },
      ?_, ?_, ?_⟩
    · rw [makeNearest, hmiss]
      simpa using hnear
    · rw [makeEach_append, heach]
      simp only [bind, Except.bind, makeEach,
        (htop.keeps hgrows.toKeeps).makeDirectory_of_directory hend, hnone]
      rfl
    · intro x
      rw [isDirectory?_new hview hnone, List.append_assoc dir]

theorem components_ne_nil (h : Along w path dir (names ++ [name])) : components path ≠ [] := by
  obtain ⟨front, hparts, -⟩ := h.components
  simp [hparts]

/-- Directories are made along names on which no file stands. -/
theorem Along.makeDirectories_ok (h : Along w path dir (names ++ [name]))
    (hd : w.root.isDirectory? dir = some true)
    (hfree : ∀ front, front <+: names ++ [name] → w.root.isDirectory? (dir ++ front) ≠ some false) :
    ∃ w', w.makeDirectories path = .ok w' ∧ ∀ x, w'.root.isDirectory? x =
      if x <+: dir ++ (names ++ [name]) then some true else w.root.isDirectory? x := by
  rw [makeDirectories, if_neg (components_ne_nil h)]
  rcases along_cases hd (names ++ [name]) with htrue | ⟨front, hfront, hfile⟩ |
    ⟨front, n, back, hsplit, hfront, hnone⟩
  · refine ⟨w, ?_, seen_on_way htrue⟩
    have hparent : w.root.isDirectory? (dir ++ names) = some true :=
      isDirectory?_on_way htrue ⟨[name], by simp⟩
    rw [← List.append_assoc] at htrue
    have hthere := (isDirectory_of_realPath
      (h.realPath (by rw [← List.append_assoc, htrue]; rfl))).mpr (by rwa [← List.append_assoc])
    rw [makeNearest, h.makeDirectory_of_directory hparent, htrue]
    simp [hthere, bind, Except.bind, makeEach]
  · exact absurd hfile (hfree front hfront)
  · have hladder := h.ladder
    rw [hsplit] at hladder ⊢
    obtain ⟨w₁, more, w₂, hnear, heach, hview⟩ := hladder.make hfront hnone []
    refine ⟨w₂, ?_, hview⟩
    rw [hnear, List.append_nil]
    exact heach

theorem Along.makeDirectories_error (h : Along w path dir (names ++ [name])) {front : List String}
    (hfront : front <+: names ++ [name])
    (hfile : w.root.isDirectory? (dir ++ front) = some false) :
    ∃ e, w.makeDirectories path = .error e := by
  rw [makeDirectories, if_neg (components_ne_nil h), makeNearest]
  rcases List.prefix_concat_iff.mp hfront with rfl | hfront
  · have hparent : w.root.isDirectory? (dir ++ names) = some true := by
      rw [← List.append_assoc] at hfile
      exact isDirectory?_above hfile (by simp)
    have hthere : w.isDirectory path = false := by
      have hreal := isDirectory_of_realPath (h.realPath (by rw [hfile]; rfl))
      rw [hfile] at hreal
      simpa using hreal
    rw [h.makeDirectory_of_directory hparent, List.append_assoc, hfile]
    simp [hthere, bind, Except.bind]
  · rw [h.makeDirectory_of_error (h.parent_of_file hfront hfile)]
    exact ⟨_, rfl⟩

/-! ## Writing -/

theorem Along.write_ok (h : Along w path dir (names ++ [name]))
    (hd : w.root.isDirectory? (dir ++ names) = some true)
    (hn : w.root.isDirectory? (dir ++ names ++ [name]) ≠ some true) (text : String) :
    w.write path text =
      .ok { w with root := w.root.insert (dir ++ names ++ [name]) (.file text.toUTF8) } := by
  unfold write
  rw [h.parent_of_directory hd]
  simp only [bind, Except.bind]
  split
  next es hes => exact absurd (isDirectory?_eq_true_iff.mpr ⟨es, hes⟩) hn
  next => rfl

theorem Along.write_error (h : Along w path dir (names ++ [name]))
    (hn : w.root.isDirectory? (dir ++ names ++ [name]) = some true) (text : String) :
    w.write path text = .error .isDirectory := by
  obtain ⟨es, hes⟩ := isDirectory?_eq_true_iff.mp hn
  unfold write
  rw [h.parent_of_directory (isDirectory?_above hn (by simp))]
  simp only [bind, Except.bind, hes]
  rfl

theorem keeps_insert_file (hd : w.root.isDirectory? dir = some true)
    (hn : w.root.isDirectory? (dir ++ [name]) ≠ some true) (bytes : ByteArray) :
    Keeps w { w with root := w.root.insert (dir ++ [name]) (.file bytes) } := by
  refine ⟨rfl, fun x b hb => ?_⟩
  show (w.root.insert (dir ++ [name]) (.file bytes)).isDirectory? x = some b
  rw [isDirectory?_insert hd hn rfl]
  split_ifs with hx
  · subst hx
    cases b with
    | true => exact absurd hb hn
    | false => rfl
  · exact hb

/-- What a write does: the file goes into the directory that its path leads into, and no directory was
in its place. -/
theorem write_eq_ok {text : String} (h : w.write path text = .ok w') :
    ∃ dir name, w.parent path = .ok (dir, some name) ∧
      w.root.isDirectory? (dir ++ [name]) ≠ some true ∧
      w' = { w with root := w.root.insert (dir ++ [name]) (.file text.toUTF8) } := by
  unfold write at h
  rcases hp : w.parent path with e | ⟨d, - | n⟩ <;> rw [hp] at h
  · cases h
  · cases h
  · simp only [bind, Except.bind] at h
    split at h
    next => cases h
    next hno =>
      cases h
      refine ⟨d, n, rfl, fun hdir => ?_, rfl⟩
      obtain ⟨es, hes⟩ := isDirectory?_eq_true_iff.mp hdir
      exact hno es hes

/-! ## Paths in an output directory -/

theorem follow_blanks {segments : List String} {n : Nat} {d : RealPath}
    (h : w.follow d (segments ++ List.replicate n "") = .ok dir) : w.follow d segments = .ok dir := by
  obtain ⟨mid, hmid, hblank⟩ := follow_split h
  rw [hmid]
  clear h hmid
  induction n generalizing mid with
  | zero => exact hblank
  | succ n ih =>
    rw [List.replicate_succ] at hblank
    rw [follow_blank (.inl rfl) (follow_eq_ok_directory hblank)] at hblank
    exact ih mid hblank

theorem along_joinPath {output p : String} (hr : w.realPath output = .ok dir) (hp : Plain p)
    (hbad : isBad p = false) : Along w (joinPath output p) dir (segments p) := by
  obtain ⟨hgood, hne, hf⟩ := realPath_eq_ok_iff.mp hr
  rw [not_isBad_iff] at hgood hbad
  rw [joinPath]
  split_ifs with hslash
  · have hslash : output.toList.getLast? = some '/' := by simpa [hne] using hslash
    obtain ⟨cs, hcs⟩ := List.getLast?_eq_some_iff.mp hslash
    have hout : output = String.ofList cs ++ String.ofList (List.replicate 1 '/') := by
      rw [← String.toList_inj, hcs]
      simp
    have hsegs : segments (output ++ p) = segments (String.ofList cs) ++ segments p := by
      rw [hout]
      exact segments_append_slash _ p
    refine ⟨not_isBad_iff.mpr (by simp [hgood, hbad]), hp, _, hsegs, ?_⟩
    rw [origin_append hne]
    rw [hout, segments_append_slashes, ← hout] at hf
    exact follow_blanks hf
  · refine ⟨not_isBad_iff.mpr (by simp [hgood, hbad]), hp, _, segments_append_slash output p, ?_⟩
    rw [String.append_assoc, origin_append hne]
    exact hf

/-! ## Directories that are there -/

theorem slashes_cases (cs : List Char) : ∃ n, cs = List.replicate n '/' ∨
    ∃ front c, c ≠ '/' ∧ cs = front ++ c :: List.replicate n '/' := by
  induction cs using List.reverseRecOn with
  | nil => exact ⟨0, .inl rfl⟩
  | append_singleton cs d ih =>
    by_cases hd : d = '/'
    · subst hd
      obtain ⟨n, rfl | ⟨front, c, hc, rfl⟩⟩ := ih
      · exact ⟨n + 1, .inl List.replicate_succ'.symm⟩
      · exact ⟨n + 1, .inr ⟨front, c, hc, by simp [List.replicate_succ']⟩⟩
    · exact ⟨0, .inr ⟨cs, d, hd, rfl⟩⟩

theorem trimSlashes_eq (hne : components path ≠ []) :
    ∃ n, path = trimSlashes path ++ String.ofList (List.replicate n '/') ∧
      fileName (trimSlashes path) ≠ "" := by
  obtain ⟨n, hpath | ⟨front, c, hc, hpath⟩⟩ := slashes_cases path.toList
  · -- a path of slashes has no parts
    have hpath : path = "" ++ String.ofList (List.replicate n '/') := by
      rw [← String.toList_inj, hpath]
      simp
    have hno : components path = [] := by
      refine List.eq_nil_iff_forall_not_mem.mpr fun s hs => ?_
      obtain ⟨hmem, hempty⟩ := mem_components hs
      rw [hpath, segments_append_slashes, List.mem_append, List.mem_replicate] at hmem
      exact hempty (hmem.elim List.mem_singleton.mp (·.2))
    exact absurd hno hne
  · obtain rfl : path = String.ofList (front ++ c :: List.replicate n '/') := by
      rw [← String.toList_inj, hpath, String.toList_ofList]
    rw [trimSlashes_slashes front hc]
    refine ⟨n, by rw [← String.toList_inj]; simp, fun he => ?_⟩
    have hlast := last_slash_of_fileName (by simp) he
    simp [hc] at hlast

/-- A directory that is there need not be made. -/
theorem makeDirectories_of_directory (hr : w.realPath path = .ok dir)
    (hd : w.root.isDirectory? dir = some true) : w.makeDirectories path = .ok w := by
  rw [makeDirectories]
  split_ifs with hparts
  · rfl
  obtain ⟨hbad, -, hf⟩ := realPath_eq_ok_iff.mp hr
  obtain ⟨n, hpath, hlast⟩ := trimSlashes_eq hparts
  have hne : trimSlashes path ≠ "" := fun he => hlast (by rw [he]; rfl)
  have hgood : isBad (trimSlashes path) = false := by
    rw [not_isBad_iff] at hbad ⊢
    exact fun hc => hbad (by rw [hpath]; simp [hc])
  -- without the slashes the path leads to the same directory, through the one above it
  rw [hpath, segments_append_slashes, origin_append hne] at hf
  obtain ⟨mid, hmid, hstep⟩ := follow_split
    (segments_eq_dropLast_append (trimSlashes path) ▸ follow_blanks hf)
  have hdir := follow_eq_ok_directory hstep
  have hexists : w.makeDirectory path = .error .exists := by
    unfold makeDirectory
    rw [parent_eq hgood hne, hmid]
    simp only [bind, Except.bind, hdir, if_true]
    split_ifs with hname
    · rfl
    · simp only [Bool.or_eq_true, decide_eq_true_eq, not_or] at hname
      rw [follow_of_directory hdir, if_neg (by simpa using hname.1), if_neg hname.2] at hstep
      split_ifs at hstep with hsome
      rw [isDirectory?, Option.isSome_map] at hsome
      simp only [hsome, if_true]
      rfl
  have hthere := (isDirectory_of_realPath hr).mpr hd
  rw [makeNearest, hexists]
  simp [hthere, bind, Except.bind, makeEach]

end Marginalia.Files.World
