import Marginalia.Proofs.Path.Relative
import Mathlib.Data.List.Induction

/-! Joining a relative path to a directory. What is joined lies inside the project, there is nothing to
join only where the path climbs out of the project or ends at its root, and joining in two parts gives
what joining at once gives. Relative addresses are joined back to their pages, and unless the page is
a directory above, no path with fewer segments is. -/
namespace Marginalia.Path
set_option autoImplicit false

/-! ## Reading a path -/

/-- Reading segments from left to right leads from the directory with the names `start` to the place
with the names `here`. -/
inductive Reading (start : List String) : List String → List String → Prop where
  | nothing : Reading start [] start
  | stay {read here : List String} {s : String} :
    Reading start read here → s = "" ∨ s = "." → Reading start (read ++ [s]) here
  | enter {read here : List String} {s : String} :
    Reading start read here → IsName s → Reading start (read ++ [s]) (here ++ [s])
  | leave {read here : List String} {s : String} :
    Reading start read (here ++ [s]) → Reading start (read ++ [".."]) here

/-- Some `..` finds no name left to take off. -/
def Climbs (start read : List String) : Prop :=
  ∃ front back, read = front ++ ".." :: back ∧ Reading start front []

variable {start read here : List String}

theorem Reading.walk_eq (h : Reading start read here) :
    walk start.reverse read = some here.reverse := by
  induction h with
  | nothing => rfl
  | stay _ hs ih => rw [walk_append, ih, Option.bind_some, walk_stay hs, walk]
  | enter _ hs ih =>
    rw [walk_append, ih, Option.bind_some, walk_name hs, walk, List.reverse_concat]
  | leave _ ih =>
    rw [walk_append, ih, Option.bind_some, List.reverse_concat]
    rfl

theorem Climbs.walk_eq (h : Climbs start read) : walk start.reverse read = none := by
  obtain ⟨front, back, rfl, hr⟩ := h
  rw [walk_append, hr.walk_eq, Option.bind_some]
  rfl

theorem Climbs.append (h : Climbs start read) (more : List String) : Climbs start (read ++ more) := by
  obtain ⟨front, back, rfl, hr⟩ := h
  exact ⟨front, back ++ more, by simp, hr⟩

theorem reads_or_climbs (start read : List String) :
    (∃ here, Reading start read here) ∨ Climbs start read := by
  -- a reading grows at its end, so the segments come off there
  induction read using List.reverseRecOn with
  | nil => exact .inl ⟨start, .nothing⟩
  | append_singleton read s ih =>
    obtain ⟨here, hr⟩ | hc := ih
    · by_cases hstay : s = "" ∨ s = "."
      · exact .inl ⟨here, hr.stay hstay⟩
      · by_cases hup : s = ".."
        · subst hup
          cases here using List.reverseRecOn with
          | nil => exact .inr ⟨read, [], rfl, hr⟩
          | append_singleton above t => exact .inl ⟨above, hr.leave⟩
        · exact .inl ⟨here ++ [s], hr.enter ⟨fun e => hstay (.inl e), fun e => hstay (.inr e), hup⟩⟩
    · exact .inr (hc.append [s])

theorem walk_eq_some_reverse_iff :
    walk start.reverse read = some here.reverse ↔ Reading start read here := by
  refine ⟨fun h => ?_, Reading.walk_eq⟩
  obtain ⟨there, hr⟩ | hc := reads_or_climbs start read
  · have he : there = here := by simpa [hr.walk_eq] using h
    exact he ▸ hr
  · rw [hc.walk_eq] at h
    cases h

theorem walk_eq_none_iff : walk start.reverse read = none ↔ Climbs start read := by
  refine ⟨fun h => ?_, Climbs.walk_eq⟩
  obtain ⟨there, hr⟩ | hc := reads_or_climbs start read
  · rw [hr.walk_eq] at h
    cases h
  · exact hc

/-! ## What reading keeps -/

theorem Reading.forall_mem {p : String → Prop} (h : Reading start read here)
    (hstart : ∀ s ∈ start, p s) (hname : ∀ s, IsName s → p s) : ∀ s ∈ here, p s := by
  induction h with
  | nothing => exact hstart
  | stay _ _ ih => exact ih
  | enter _ hs ih =>
    intro t ht
    rw [List.mem_append, List.mem_singleton] at ht
    rcases ht with ht | rfl
    · exact ih t ht
    · exact hname t hs
  | leave _ ih => exact fun t ht => ih t (List.mem_append_left _ ht)

theorem count_concat_up (read : List String) : (read ++ [".."]).count ".." = read.count ".." + 1 ∧
    (read ++ [".."]).countP (IsName ·) = read.countP (IsName ·) := by
  rw [List.count_append, List.count_singleton_self, List.countP_append]
  exact ⟨rfl, rfl⟩

/-- Each name read puts one more between the root and the place, and each `..` takes one away. -/
theorem Reading.depth (h : Reading start read here) :
    here.length + read.count ".." = start.length + read.countP (IsName ·) := by
  induction h with
  | nothing => rfl
  | stay _ hs ih =>
    rw [List.count_append, List.countP_append]
    rcases hs with rfl | rfl
    · exact ih
    · exact ih
  | @enter read here s _ hs ih =>
    have hup : [s].count ".." = 0 := List.count_eq_zero.mpr (by simpa [eq_comm] using hs.2.2)
    have hname : [s].countP (IsName ·) = 1 := by simp [hs]
    rw [List.count_append, List.countP_append, List.length_append, hup, hname, List.length_singleton]
    omega
  | leave _ ih =>
    rw [List.length_append, List.length_singleton] at ih
    rw [(count_concat_up _).1, (count_concat_up _).2]
    omega

theorem climbs_iff_depth : Climbs start read ↔
    ∃ front, front <+: read ∧ start.length + front.countP (IsName ·) < front.count ".." := by
  constructor
  · rintro ⟨front, back, rfl, hr⟩
    refine ⟨front ++ [".."], ⟨back, by simp⟩, ?_⟩
    have hd := hr.depth
    rw [List.length_nil] at hd
    rw [(count_concat_up _).1, (count_concat_up _).2]
    omega
  · rintro ⟨front, ⟨back, rfl⟩, hlt⟩
    obtain ⟨here, hr⟩ | hc := reads_or_climbs start front
    -- a reading that goes through leaves no room for so many steps up
    · have hd := hr.depth
      omega
    · exact hc.append back

/-! ## Joining -/

theorem ne_empty_of_mem_names {path s : String} (h : s ∈ names path) : s ≠ "" := by
  simpa using (List.mem_filter.mp h).2

theorem join?_eq_some_iff_reading {dir relative path : String} :
    join? dir relative = some path ↔
      Reading (names dir) (segments relative) (segments path) := by
  rw [join?_eq_some_iff, walk_eq_some_reverse_iff]

theorem join?_eq_none_iff {dir relative : String} : join? dir relative = none ↔
    Climbs (names dir) (segments relative) ∨ Reading (names dir) (segments relative) [] := by
  rw [← walk_eq_none_iff, ← walk_eq_some_reverse_iff, join?, List.reverse_nil]
  cases walk (names dir).reverse (segments relative) with
  | none => simp
  | some here =>
    cases here with
    | nil => simp
    | cons s above => simp

theorem join?_append_slash {dir relative path : String}
    (h : Reading (names dir) (segments relative) (names path)) (further : String) :
    join? dir (relative ++ "/" ++ further) = join? path further := by
  rw [join?, join?, segments_append_slash, walk_append, h.walk_eq, Option.bind_some]

/-- A path joined to a directory without dots consists of names, the ones that reading leads to. There
is none exactly where a `..` has nothing left to take off, which more `..` than names up to some place
tell, or where reading ends at the root. A path in two parts is joined by joining the first part and
then the second one to where it led; after a climb out of the project nothing is joined any more. -/
theorem joining_stays_inside {dir : String} (hdir : ∀ s ∈ segments dir, s ≠ "." ∧ s ≠ "..")
    (relative : String) :
    (∀ path, join? dir relative = some path → path ≠ "" ∧ Plain path ∧
      Reading (names dir) (segments relative) (segments path)) ∧
    (join? dir relative = none ↔
      Climbs (names dir) (segments relative) ∨ Reading (names dir) (segments relative) []) ∧
    (Climbs (names dir) (segments relative) ↔ ∃ front, front <+: segments relative ∧
      (names dir).length + front.countP (IsName ·) < front.count "..") ∧
    ∀ further,
      (∀ path, join? dir relative = some path →
        join? dir (relative ++ "/" ++ further) = join? path further) ∧
      (Reading (names dir) (segments relative) [] →
        join? dir (relative ++ "/" ++ further) = join? "" further) ∧
      (Climbs (names dir) (segments relative) → join? dir (relative ++ "/" ++ further) = none) := by
  have hnames : ∀ s ∈ names dir, IsName s := fun s hs =>
    ⟨ne_empty_of_mem_names hs, hdir s (List.mem_filter.mp hs).1⟩
  refine ⟨fun path hj => ?_, join?_eq_none_iff, climbs_iff_depth, fun further =>
    ⟨fun path hj => ?_, fun hroot => join?_append_slash hroot further, fun hc => ?_⟩⟩
  · have hr := join?_eq_some_iff_reading.mp hj
    have hplain : Plain path := hr.forall_mem hnames fun _ => id
    refine ⟨?_, hplain, hr⟩
    rintro rfl
    exact absurd hplain (by decide)
  · have hr := join?_eq_some_iff_reading.mp hj
    have hne : ∀ s ∈ segments path, s ≠ "" :=
      hr.forall_mem (fun _ => ne_empty_of_mem_names) fun _ hs => hs.1
    have hnames : names path = segments path := by
      nth_rewrite 1 [← ofSegments_segments path]
      exact names_ofSegments fun s hs => ⟨hne s hs, slash_not_mem_segment hs⟩
    exact join?_append_slash (hnames ▸ hr) further
  · rw [join?_eq_none_iff, segments_append_slash]
    exact .inl (hc.append _)

/-- A path that comes down again after going up, one that ends at the root and one that climbs out. -/
theorem joining_stays_inside_up_and_down :
    join? "a//b" "../c/.././d" = some "a/d" ∧ Plain "a/d" ∧
      join? "a//b" ("../c/.././d" ++ "/" ++ "../e") = join? "a/d" "../e" ∧
      join? "a//b" ("../.." ++ "/" ++ "e") = join? "" "e" ∧
      join? "a//b" ("../../.." ++ "/" ++ "a/e") = none := by
  have hdir : ∀ s ∈ segments "a//b", s ≠ "." ∧ s ≠ ".." := by decide
  have hj : join? "a//b" "../c/.././d" = some "a/d" := by decide
  have hroot : Reading (names "a//b") (segments "../..") [] :=
    walk_eq_some_reverse_iff.mp (by decide)
  have hclimb : Climbs (names "a//b") (segments "../../..") := walk_eq_none_iff.mp (by decide)
  obtain ⟨hinside, -, -, hparts⟩ := joining_stays_inside hdir "../c/.././d"
  refine ⟨hj, (hinside _ hj).2.1, (hparts _).1 _ hj, ?_, ?_⟩
  · exact ((joining_stays_inside hdir "../..").2.2.2 "e").2.1 hroot
  · exact ((joining_stays_inside hdir "../../..").2.2.2 "a/e").2.2 hclimb

/-! ## Fewest segments -/

/-- A reading goes up to some directory and comes down from there. Every name that it takes off or puts
on costs a segment. -/
theorem Reading.turns (h : Reading start read here) :
    ∃ kept off on, start = kept ++ off ∧ here = kept ++ on ∧
      off.length + on.length ≤ read.length := by
  induction h with
  | nothing => exact ⟨start, [], [], by simp, by simp, by simp⟩
  | stay _ _ ih =>
    obtain ⟨kept, off, on, hstart, hhere, hle⟩ := ih
    refine ⟨kept, off, on, hstart, hhere, ?_⟩
    rw [List.length_append]
    omega
  | @enter read here s _ _ ih =>
    obtain ⟨kept, off, on, hstart, rfl, hle⟩ := ih
    refine ⟨kept, off, on ++ [s], hstart, List.append_assoc .., ?_⟩
    simp only [List.length_append, List.length_singleton]
    omega
  | @leave read here s _ ih =>
    obtain ⟨kept, off, on, hstart, hhere, hle⟩ := ih
    cases on using List.reverseRecOn with
    | nil =>
      -- the name was there from the start, and the reading turns one directory higher
      rw [List.append_nil] at hhere
      refine ⟨here, s :: off, [], ?_, (List.append_nil _).symm, ?_⟩
      · rw [hstart, ← hhere, List.append_assoc, List.singleton_append]
      · simp only [List.length_append, List.length_cons, List.length_nil] at hle ⊢
        omega
    | append_singleton on t =>
      rw [← List.append_assoc] at hhere
      refine ⟨kept, off, on, hstart, (List.append_inj' hhere rfl).1, ?_⟩
      simp only [List.length_append, List.length_singleton] at hle ⊢
      omega

theorem dropCommon_append (kept as bs : List String) :
    dropCommon (kept ++ as) (kept ++ bs) = dropCommon as bs := by
  induction kept with
  | nil => rfl
  | cons s kept ih => rw [List.cons_append, List.cons_append, dropCommon, if_pos rfl, ih]

theorem length_dropCommon_le (as bs : List String) :
    (dropCommon as bs).1.length ≤ as.length ∧ (dropCommon as bs).2.length ≤ bs.length := by
  obtain ⟨common, ha, hb⟩ := dropCommon_spec as bs
  have hal := congrArg List.length ha
  have hbl := congrArg List.length hb
  rw [List.length_append] at hal hbl
  omega

/-- An address goes up and down no further than a reading that turns at any directory above both. -/
theorem length_relativeUrl_le {source target : String} {kept off down : List String}
    (hsource : names (directory source) = kept ++ off)
    (htarget : (segments target).dropLast = kept ++ down) :
    (segments (relativeUrl source target)).length ≤ off.length + down.length + 1 := by
  have hle := length_dropCommon_le off down
  rw [segments_relativeUrl, hsource, htarget, dropCommon_append, List.length_append,
    List.length_append, List.length_map, List.length_singleton]
  omega

/-- The address of a page leads back to it from the page it is written on and does not start with a
slash. Where the page is not a directory that holds the other one, no path with fewer segments leads
to it. -/
theorem relativeUrl_leads_back_shortest (source : String) {target : String} (ht : Plain target) :
    join? (directory source) (relativeUrl source target) = some target ∧
    (relativeUrl source target).toList.head? ≠ some '/' ∧
    (¬ segments target <+: names (directory source) → ∀ relative : String,
      join? (directory source) relative = some target →
        (segments (relativeUrl source target)).length ≤ (segments relative).length) := by
  refine ⟨join?_relativeUrl source ht, ?_, fun habove relative hj => ?_⟩
  · obtain ⟨c, rest, hu, hc⟩ := relativeUrl_head source ht
    rw [hu, List.head?_cons]
    simpa using hc
  · obtain ⟨kept, off, on, hsource, htarget, hle⟩ := (join?_eq_some_iff_reading.mp hj).turns
    cases on using List.reverseRecOn with
    | nil =>
      rw [List.append_nil] at htarget
      exact absurd ⟨off, by rw [htarget, hsource]⟩ habove
    | append_singleton down file =>
      have hdirectory : (segments target).dropLast = kept ++ down := by
        rw [htarget, ← List.append_assoc, List.dropLast_concat]
      have hurl := length_relativeUrl_le hsource hdirectory
      rw [List.length_append, List.length_singleton] at hle
      omega

/-- A page that has the name of the directory in which the other page stands. -/
theorem relativeUrl_leads_back_shortest_beside :
    relativeUrl "a/b/x.html" "a/b.html/b" = "../b.html/b" ∧
      join? "a/b" "../b.html/b" = some "a/b.html/b" ∧
      ∀ relative, join? "a/b" relative = some "a/b.html/b" → 3 ≤ (segments relative).length := by
  obtain ⟨hback, -, hfewest⟩ :=
    relativeUrl_leads_back_shortest "a/b/x.html" (show Plain "a/b.html/b" by decide)
  exact ⟨by decide, hback, hfewest (by decide)⟩

/-- A directory above the page is named by fewer segments than its address has. -/
example : relativeUrl "a/b" "a" = "../a" ∧ join? (directory "a/b") "." = some "a" := by decide

end Marginalia.Path
