import Marginalia.Proofs.Path.Segments
import Mathlib.Data.List.Flatten

/-! Relative addresses. Read from the page they are written on, they lead to the page they were made
for, and after the steps up nothing shorter leads there. -/
namespace Marginalia.Path
set_option autoImplicit false

/-! ## Walks -/

theorem walk_stay {here rest : List String} {s : String} (h : s = "" ∨ s = ".") :
    walk here (s :: rest) = walk here rest := by
  have hs : (decide (s = "") || decide (s = ".")) = true := by simpa using h
  rw [walk.eq_def]
  simp only [hs, if_true]

theorem walk_name {here rest : List String} {s : String} (h : IsName s) :
    walk here (s :: rest) = walk (s :: here) rest := by
  obtain ⟨hempty, hdot, hup⟩ := h
  rw [walk.eq_def]
  simp [hempty, hdot, hup]

theorem walk_append (here a b : List String) :
    walk here (a ++ b) = (walk here a).bind (fun h => walk h b) := by
  induction a generalizing here with
  | nil => rfl
  | cons s a ih =>
    rw [List.cons_append]
    by_cases hstay : s = "" ∨ s = "."
    · rw [walk_stay hstay, walk_stay hstay, ih]
    · by_cases hup : s = ".."
      · subst hup
        cases here with
        | nil => rfl
        | cons t above => exact ih above
      · have hname : IsName s := ⟨fun e => hstay (.inl e), fun e => hstay (.inr e), hup⟩
        rw [walk_name hname, walk_name hname, ih]

theorem walk_names {here parts : List String} (h : ∀ s ∈ parts, IsName s) :
    walk here parts = some (parts.reverse ++ here) := by
  induction parts generalizing here with
  | nil => rfl
  | cons s parts ih =>
    rw [walk_name (h s (List.mem_cons_self ..)), ih (fun t ht => h t (List.mem_cons_of_mem s ht)),
      List.reverse_cons, List.append_assoc, List.singleton_append]

theorem walk_up (up here : List String) :
    walk (up ++ here) (List.replicate up.length "..") = some here := by
  induction up with
  | nil => rfl
  | cons s up ih => exact ih

/-- A walk ends with some of the names it came by, put in front of what is left of where it began. -/
theorem walk_eq_some {here rest there : List String} (h : walk here rest = some there) :
    ∃ came left : List String, there = came.reverse ++ left ∧ came.Sublist rest ∧ left <:+ here := by
  induction rest generalizing here with
  | nil =>
    obtain rfl : here = there := by simpa [walk] using h
    exact ⟨[], here, rfl, .slnil, List.suffix_refl _⟩
  | cons s rest ih =>
    by_cases hstay : s = "" ∨ s = "."
    · rw [walk_stay hstay] at h
      obtain ⟨came, left, ht, hcame, hleft⟩ := ih h
      exact ⟨came, left, ht, hcame.cons s, hleft⟩
    · by_cases hup : s = ".."
      · subst hup
        cases here with
        | nil => exact absurd h (by simp [walk])
        | cons top above =>
          obtain ⟨came, left, ht, hcame, hleft⟩ := @ih above h
          exact ⟨came, left, ht, hcame.cons _, hleft.trans (List.suffix_cons top above)⟩
      · have hname : IsName s := ⟨fun e => hstay (.inl e), fun e => hstay (.inr e), hup⟩
        rw [walk_name hname] at h
        obtain ⟨came, left, ht, hcame, hleft⟩ := ih h
        -- the name is left, or a later step up has taken it off again
        rcases List.suffix_cons_iff.mp hleft with rfl | hleft
        · refine ⟨s :: came, here, ?_, hcame.cons_cons s, List.suffix_refl _⟩
          rw [ht, List.reverse_cons, List.append_assoc, List.singleton_append]
        · exact ⟨came, left, ht, hcame.cons s, hleft⟩

theorem dropCommon_spec (as bs : List String) :
    ∃ common, as = common ++ (dropCommon as bs).1 ∧ bs = common ++ (dropCommon as bs).2 := by
  induction as generalizing bs with
  | nil => exact ⟨[], by simp [dropCommon]⟩
  | cons a as ih =>
    cases bs with
    | nil => exact ⟨[], by simp [dropCommon]⟩
    | cons b bs =>
      rw [dropCommon]
      split
      next hab =>
        obtain ⟨common, ha, hb⟩ := ih bs
        refine ⟨a :: common, ?_, ?_⟩
        · rw [List.cons_append, ← ha]
        · rw [List.cons_append, ← hb, hab]
      next => exact ⟨[], rfl, rfl⟩

theorem dropCommon_nil (as : List String) : dropCommon as [] = (as, []) := by
  cases as with
  | nil => rfl
  | cons a as => rfl

theorem slash_not_mem_of_mem_names {path s : String} (h : s ∈ names path) : '/' ∉ s.toList :=
  slash_not_mem_segment (List.mem_filter.mp h).1

/-- The path that is joined is the one with the segments that the walk ends at. -/
theorem join?_eq_some_iff {dir relative path : String} :
    join? dir relative = some path ↔
      walk (names dir).reverse (segments relative) = some (segments path).reverse := by
  rw [join?]
  cases hw : walk (names dir).reverse (segments relative) with
  | none => simp
  | some here =>
    cases here with
    | nil => simp [segments_ne_nil]
    | cons s above =>
      have hslash : ∀ t ∈ (s :: above).reverse, '/' ∉ t.toList := by
        obtain ⟨came, left, hhere, hcame, hleft⟩ := walk_eq_some hw
        rw [hhere]
        intro t ht
        simp only [List.mem_reverse, List.mem_append] at ht
        rcases ht with ht | ht
        · exact slash_not_mem_segment (hcame.subset ht)
        · exact slash_not_mem_of_mem_names (List.mem_reverse.mp (hleft.subset ht))
      simp only [Option.some.injEq]
      constructor
      · rintro rfl
        rw [segments_ofSegments (by simp) hslash, List.reverse_reverse]
      · intro he
        rw [he, List.reverse_reverse, ofSegments_segments]

/-! ## Addresses -/

/-- The segments of an address: steps up, directories down, the name of the page. -/
theorem segments_relativeUrl (source target : String) :
    segments (relativeUrl source target) =
      ((dropCommon (names (directory source)) (segments target).dropLast).1.map fun _ => "..") ++
      (dropCommon (names (directory source)) (segments target).dropLast).2 ++
      [fileName target] := by
  obtain ⟨common, -, hdown⟩ :=
    dropCommon_spec (names (directory source)) (segments target).dropLast
  rw [relativeUrl]
  apply segments_ofSegments (by simp)
  intro s hs
  simp only [List.mem_append, List.mem_map, List.mem_singleton] at hs
  rcases hs with (⟨-, -, rfl⟩ | hs) | rfl
  · decide
  · have hm : s ∈ (segments target).dropLast := by
      rw [hdown]
      exact List.mem_append_right common hs
    exact slash_not_mem_segment (List.dropLast_subset _ hm)
  · exact slash_not_mem_fileName target

theorem mem_segments_relativeUrl {source target s : String}
    (h : s ∈ segments (relativeUrl source target)) : s = ".." ∨ s ∈ segments target := by
  obtain ⟨common, -, hdown⟩ :=
    dropCommon_spec (names (directory source)) (segments target).dropLast
  rw [segments_relativeUrl, List.mem_append, List.mem_append, List.mem_singleton] at h
  rcases h with (h | h) | rfl
  · obtain ⟨-, -, rfl⟩ := List.mem_map.mp h
    exact .inl rfl
  · have hm : s ∈ (segments target).dropLast := by
      rw [hdown]
      exact List.mem_append_right common h
    exact .inr (List.dropLast_subset _ hm)
  · refine .inr ?_
    rw [segments_eq_dropLast_append]
    simp

theorem mem_relativeUrl {source target : String} {c : Char}
    (h : c ∈ (relativeUrl source target).toList) : c = '.' ∨ c = '/' ∨ c ∈ target.toList := by
  rw [← ofSegments_segments (relativeUrl source target)] at h
  rcases mem_ofSegments h with rfl | ⟨s, hs, hc⟩
  · exact .inr (.inl rfl)
  · rcases mem_segments_relativeUrl hs with rfl | hs
    · exact .inl (by simpa using hc)
    · exact .inr (.inr (mem_of_mem_segment hs hc))

theorem relativeUrl_head (source : String) {target : String} (ht : Plain target) :
    ∃ c rest, (relativeUrl source target).toList = c :: rest ∧ c ≠ '/' := by
  have hnames : "" ∉ segments (relativeUrl source target) := by
    intro hm
    rcases mem_segments_relativeUrl hm with h | h
    · exact absurd h (by decide)
    · exact (ht _ h).1 rfl
  cases hu : (relativeUrl source target).toList with
  | nil =>
    rw [segments, hu] at hnames
    exact absurd (by decide) hnames
  | cons c rest =>
    refine ⟨c, rest, rfl, ?_⟩
    rintro rfl
    exact hnames (empty_mem_segments (by rw [hu]; rfl))

/-- An address leads from the page it is written on to the page it was made for. -/
theorem join?_relativeUrl (source : String) {target : String} (ht : Plain target) :
    join? (directory source) (relativeUrl source target) = some target := by
  obtain ⟨common, hup, hdown⟩ :=
    dropCommon_spec (names (directory source)) (segments target).dropLast
  have hnames : ∀ s ∈ (dropCommon (names (directory source)) (segments target).dropLast).2 ++
      [fileName target], IsName s := by
    intro s hm
    rw [List.mem_append, List.mem_singleton] at hm
    rcases hm with hm | rfl
    · exact ht.of_dropLast (by rw [hdown]; exact List.mem_append_right common hm)
    · exact ht.fileName
  -- the steps up take off what the directory of the source has beyond the common part
  have hwalk : walk (names (directory source)).reverse (segments (relativeUrl source target)) =
      some (segments target).reverse := by
    rw [segments_relativeUrl, List.append_assoc, walk_append, List.map_const', ← List.length_reverse]
    conv_lhs => enter [1, 1]; rw [hup, List.reverse_append]
    rw [walk_up, Option.bind_some, walk_names hnames, ← List.reverse_append, ← List.append_assoc,
      ← hdown, ← segments_eq_dropLast_append]
  exact join?_eq_some_iff.mpr hwalk

/-! ## Nothing shorter -/

theorem ofSegments_append_slash {parts : List String} (h : parts ≠ []) :
    (ofSegments parts).toList ++ ['/'] = parts.flatMap fun s => s.toList ++ ['/'] := by
  induction parts with
  | nil => exact absurd rfl h
  | cons s parts ih =>
    cases parts with
    | nil => rw [ofSegments_singleton, List.flatMap_singleton]
    | cons t parts =>
      rw [ofSegments_cons s (by simp), List.flatMap_cons, ← ih (by simp), String.toList_append,
        String.toList_append, List.append_assoc]
      rfl

theorem length_ofSegments_le {few many : List String} (h : few.Sublist many) (hne : few ≠ []) :
    (ofSegments few).toList.length ≤ (ofSegments many).toList.length := by
  have hmany : many ≠ [] := by
    rintro rfl
    exact hne (List.sublist_nil.mp h)
  have hle := (h.flatMap fun s => s.toList ++ ['/']).length_le
  rw [← ofSegments_append_slash hne, ← ofSegments_append_slash hmany, List.length_append,
    List.length_append] at hle
  omega

theorem segments_steps (n : Nat) (rest : String) :
    segments (String.join (List.replicate n "../") ++ rest) =
      List.replicate n ".." ++ segments rest := by
  induction n with
  | zero => rw [List.replicate_zero, String.join_nil, String.empty_append]; rfl
  | succ n ih =>
    have hcut : String.join (List.replicate (n + 1) "../") ++ rest =
        ".." ++ "/" ++ (String.join (List.replicate n "../") ++ rest) := by
      rw [List.replicate_succ, String.join_cons, String.append_assoc]
      rfl
    rw [hcut, segments, String.toList_append, String.toList_append, List.append_assoc]
    show (Text.split '/' ("..".toList ++ '/' :: _)).map String.ofList = _
    rw [Text.split_append (by decide), List.map_cons]
    exact congrArg (".." :: ·) ih

theorem mem_steps {n : Nat} {c : Char}
    (h : c ∈ (String.join (List.replicate n "../")).toList) : c = '.' ∨ c = '/' := by
  rw [String.toList_join, List.mem_flatMap] at h
  obtain ⟨step, hs, hc⟩ := h
  rw [List.eq_of_mem_replicate hs] at hc
  have hall : "../".toList.all (fun c => c = '.' || c = '/') = true := by decide
  simpa using List.all_eq_true.mp hall c hc

/-- After the steps up of an address, no shorter path leads to its page. -/
theorem relativeUrl_shortest (source target : String) :
    ∃ steps rest : List Char, (relativeUrl source target).toList = steps ++ rest ∧
      (∀ c ∈ steps, c = '.' ∨ c = '/') ∧
      ∀ path : List Char, join? (directory source) (String.ofList (steps ++ path)) = some target →
        rest.length ≤ path.length := by
  obtain ⟨common, hup, hdown⟩ :=
    dropCommon_spec (names (directory source)) (segments target).dropLast
  have hsegments := segments_relativeUrl source target
  generalize (dropCommon (names (directory source)) (segments target).dropLast).1 = up at *
  generalize (dropCommon (names (directory source)) (segments target).dropLast).2 = down at *
  rw [List.map_const', List.append_assoc] at hsegments
  have htarget : segments target = common ++ (down ++ [fileName target]) := by
    rw [← List.append_assoc, ← hdown, ← segments_eq_dropLast_append]
  have hslash : ∀ s ∈ down ++ [fileName target], '/' ∉ s.toList := by
    intro s hs
    exact slash_not_mem_segment (htarget ▸ List.mem_append_right common hs)
  refine ⟨(String.join (List.replicate up.length "../")).toList,
    (ofSegments (down ++ [fileName target])).toList, ?_, fun _ => mem_steps, ?_⟩
  · rw [← String.toList_append, String.toList_inj]
    apply segments_injective
    rw [hsegments, segments_steps, segments_ofSegments (by simp) hslash]
  · intro path hpath
    have hwalk : walk common.reverse (segments (String.ofList path)) =
        some ((down ++ [fileName target]).reverse ++ common.reverse) := by
      rw [String.ofList_append, String.ofList_toList, join?_eq_some_iff, segments_steps, hup,
        List.reverse_append, ← List.length_reverse, walk_append, walk_up, htarget,
        List.reverse_append] at hpath
      exact hpath
    obtain ⟨came, left, hthere, hcame, above, habove⟩ := walk_eq_some hwalk
    -- what is left can only be less than the common part, so all the rest came on the way
    have hrest : (down ++ [fileName target]).Sublist (segments (String.ofList path)) := by
      rw [← habove, ← List.append_assoc, List.append_left_inj, ← List.reverse_eq_iff,
        List.reverse_append, List.reverse_reverse] at hthere
      exact (hthere ▸ List.sublist_append_right _ _ : List.Sublist _ came).trans hcame
    have hle := length_ofSegments_le hrest (by simp)
    rwa [ofSegments_segments, String.toList_ofList] at hle

end Marginalia.Path
