import Marginalia.Proofs.Document.PagePath

/-! Pages stay in the directory of the site. A page has the directories of its source file, from the
end of the first leading directory that fits on, and a name that no replaced extension can turn into
dots. -/
namespace Marginalia.PageMap
open Marginalia.Path
set_option autoImplicit false

/-! ## Leading directories -/

/-- The directory fits the path and leaves `rest` of it: apart from slashes around it, `dir` is the
path of the segments that `source` starts with, and `rest` are all the others, at least one. -/
def Fits (dir source : String) (rest : List String) : Prop :=
  ∃ (lead : List String) (m n : Nat), lead ≠ [] ∧ rest ≠ [] ∧ segments source = lead ++ rest ∧
    dir.toList = List.replicate m '/' ++ (ofSegments lead).toList ++ List.replicate n '/'

/-- What leading directories leave of a path: what the first one that fits leaves, or all of it where
none fits. -/
def Leaves (strip : List String) (source : String) (rest : List String) : Prop :=
  (∃ front dir back, strip = front ++ dir :: back ∧ (∀ d ∈ front, ∀ r, ¬ Fits d source r) ∧
    Fits dir source rest) ∨
  (∀ d ∈ strip, ∀ r, ¬ Fits d source r) ∧ rest = segments source

theorem trimSlashes_between (dir : String) : ∃ m n,
    dir.toList = List.replicate m '/' ++ (trimSlashes dir).toList ++ List.replicate n '/' := by
  obtain ⟨m, hm⟩ := Text.exists_slashes_dropWhile dir.toList
  obtain ⟨n, hn⟩ := Text.exists_slashes_dropWhileEnd (dir.toList.dropWhile (· = '/'))
  refine ⟨m, n, ?_⟩
  rw [trimSlashes, String.toList_ofList, List.append_assoc, ← hn, ← hm]

theorem trimSlashes_eq_of_between {dir path : String} (h : "" ∉ segments path) {m n : Nat}
    (hdir : dir.toList = List.replicate m '/' ++ path.toList ++ List.replicate n '/') :
    trimSlashes dir = path := by
  obtain ⟨hhead, hlast⟩ := not_slash_of_ends h
  have hne : path.toList ≠ [] := by
    intro he
    rw [String.toList_eq_nil_iff.mp he] at h
    exact h (by decide)
  have hstart : (path.toList ++ List.replicate n '/').head? ≠ some '/' := by
    rwa [List.head?_append_of_ne_nil _ hne]
  rw [trimSlashes, hdir, List.append_assoc, Text.dropWhile_slashes m hstart,
    Text.dropWhileEnd_slashes n hlast, String.ofList_toList]

theorem below?_trimSlashes_eq_some_iff {dir source rest : String} (h : Plain source) :
    below? (trimSlashes dir) source = some rest ↔ Fits dir source (segments rest) := by
  rw [below?_eq_some_iff]
  constructor
  · rintro ⟨-, -, hsource⟩
    obtain ⟨m, n, hdir⟩ := trimSlashes_between dir
    refine ⟨segments (trimSlashes dir), m, n, segments_ne_nil _, segments_ne_nil _, ?_, ?_⟩
    · rw [hsource, segments_append_slash]
    · rw [ofSegments_segments]
      exact hdir
  · rintro ⟨lead, m, n, hne, -, hsource, hdir⟩
    have hlead : ∀ s ∈ lead, s ≠ "" := fun s hs =>
      (h s (hsource ▸ List.mem_append_left _ hs)).1
    have hslash : ∀ s ∈ lead, '/' ∉ s.toList := fun s hs =>
      slash_not_mem_segment (hsource ▸ List.mem_append_left _ hs)
    have hsegments := segments_ofSegments hne hslash
    have htrim : trimSlashes dir = ofSegments lead :=
      trimSlashes_eq_of_between (fun he => hlead "" (hsegments ▸ he) rfl) hdir
    refine ⟨htrim ▸ ofSegments_ne_empty hne hlead, ?_, ?_⟩
    · rintro rfl
      exact (h "" (hsource ▸ List.mem_append_right _ (by decide))).1 rfl
    · apply segments_injective
      rw [htrim, segments_append_slash, hsegments, hsource]

theorem Fits.segments_rest {dir source : String} {rest : List String} (h : Fits dir source rest) :
    segments (ofSegments rest) = rest := by
  obtain ⟨lead, -, -, -, hne, hsource, -⟩ := h
  exact segments_ofSegments hne fun s hs =>
    slash_not_mem_segment (hsource ▸ List.mem_append_right lead hs)

theorem below?_trimSlashes_eq_none_iff {dir source : String} (h : Plain source) :
    below? (trimSlashes dir) source = none ↔ ∀ rest, ¬ Fits dir source rest := by
  rw [Option.eq_none_iff_forall_ne_some]
  refine ⟨fun hnone rest hfits => ?_, fun hno rest hbelow => ?_⟩
  · rw [← hfits.segments_rest] at hfits
    exact hnone _ ((below?_trimSlashes_eq_some_iff h).mpr hfits)
  · exact hno _ ((below?_trimSlashes_eq_some_iff h).mp hbelow)

theorem leaves_stripped (strip : List String) {source : String} (h : Plain source) :
    Leaves strip source (segments (stripped strip source)) := by
  rw [stripped]
  cases hf : strip.findSome? fun dir => below? (trimSlashes dir) source with
  | none =>
    refine .inr ⟨fun dir hd => ?_, rfl⟩
    exact (below?_trimSlashes_eq_none_iff h).mp (List.findSome?_eq_none_iff.mp hf dir hd)
  | some rest =>
    obtain ⟨front, dir, back, hstrip, hbelow, hfront⟩ := List.findSome?_eq_some_iff.mp hf
    refine .inl ⟨front, dir, back, hstrip, fun d hd => ?_, ?_⟩
    · exact (below?_trimSlashes_eq_none_iff h).mp (hfront d hd)
    · exact (below?_trimSlashes_eq_some_iff h).mp hbelow

/-! ## Names of pages -/

/-- How the name of a page starts for a file with the given name: with all of it, or, where its
extension is replaced, with what stands before its last dot unless that is its first character. -/
inductive Begins : PageNaming → String → String → Prop where
  | append (name : String) : Begins .append name name
  | whole {name : String} : '.' ∉ name.toList.drop 1 → Begins .replace name name
  | cut {base ext : String} : base ≠ "" → '.' ∉ ext.toList →
    Begins .replace (base ++ "." ++ ext) base

theorem begins_stem (name : String) : Begins .replace name (stem name) := by
  cases hcut : Text.cutAt '.' name.toList.reverse with
  | none =>
    have hno : '.' ∉ name.toList := by simpa using Text.cutAt_eq_none_iff.mp hcut
    rw [stem, hcut]
    exact .whole fun hdot => hno (List.mem_of_mem_drop hdot)
  | some parts =>
    obtain ⟨ext, front⟩ := parts
    obtain ⟨hreverse, hext⟩ := Text.cutAt_eq_some_iff.mp hcut
    have hname : name = String.ofList front.reverse ++ "." ++ String.ofList ext.reverse := by
      rw [← String.toList_inj, ← List.reverse_inj, hreverse]
      simp
    cases front with
    | nil =>
      -- the last dot comes first, so no other one follows
      rw [stem, hcut]
      refine .whole ?_
      rw [hname]
      simpa using hext
    | cons c front =>
      have hstem : stem name = String.ofList (c :: front).reverse := by
        rw [stem, hcut]
      rw [hstem]
      nth_rewrite 1 [hname]
      refine .cut (by simp) ?_
      rwa [String.toList_ofList, List.mem_reverse]

theorem begins_baseName (naming : PageNaming) (name : String) :
    Begins naming name (baseName naming name) := by
  cases naming with
  | append => exact .append name
  | replace => exact begins_stem name

theorem page_eq_append_html (m : PageMap) (source : String) :
    ∃ front, m.page source = front ++ ".html" := by
  rw [page]
  split
  · exact ⟨"index", by decide⟩
  · cases m.naming with
    | append => exact ⟨_, rfl⟩
    | replace => exact ⟨_, rfl⟩

theorem fileName_stripped (strip : List String) (source : String) :
    fileName (stripped strip source) = fileName source := by
  obtain ⟨front, hfront⟩ := segments_stripped strip source
  have hne := segments_ne_nil (stripped strip source)
  rw [fileName, fileName, ← hfront, List.getLastD_eq_getLast?, List.getLastD_eq_getLast?,
    List.getLast?_append_of_ne_nil _ hne]

/-! ## Inside the site -/

/-- The page of a file whose path consists of names has the extension of pages and a path of names too.
Unless it is the index page, its directories are the last ones of the file: all of them, or those that
the first fitting leading directory leaves, and its name is made from the name of the file. -/
theorem page_stays_inside (m : PageMap) {source : String} (h : Plain source) :
    ".html".toList <:+ (m.page source).toList ∧ Plain (m.page source) ∧
    (m.index ≠ some source →
      (segments (m.page source)).dropLast <:+ (segments source).dropLast ∧
      ∃ rest base, Leaves m.strip source rest ∧ Begins m.naming (fileName source) base ∧
        segments (m.page source) = rest.dropLast ++ [base ++ ".html"]) := by
  refine ⟨?_, page_plain m h, fun hindex => ?_⟩
  · obtain ⟨front, hfront⟩ := page_eq_append_html m source
    rw [hfront, String.toList_append]
    exact List.suffix_append _ _
  · have hpage := segments_page hindex
    obtain ⟨front, hfront⟩ := segments_stripped m.strip source
    rw [fileName_stripped] at hpage
    refine ⟨⟨front, ?_⟩, _, _, leaves_stripped m.strip h, begins_baseName m.naming _, hpage⟩
    rw [hpage, List.dropLast_concat, ← hfront, List.dropLast_append_of_ne_nil (segments_ne_nil _)]

/-- The first leading directory ends inside a name, the second one fits and the third one comes too
late; what the extension leaves of the name is a dot. -/
theorem page_stays_inside_dots : ∃ m : PageMap,
    m = { strip := ["src/li", "//src/", "src/lib"], naming := .replace } ∧
      m.page "src/lib/..x" = "lib/..html" ∧ Plain (m.page "src/lib/..x") ∧
      ∃ rest, Leaves m.strip "src/lib/..x" rest ∧ rest.dropLast = ["lib"] := by
  have hsource : Plain "src/lib/..x" := by decide
  obtain ⟨-, hplain, hstay⟩ := page_stays_inside
    { strip := ["src/li", "//src/", "src/lib"], naming := .replace } hsource
  obtain ⟨-, rest, base, hleaves, -, hpage⟩ := hstay (by decide)
  have he : PageMap.page { strip := ["src/li", "//src/", "src/lib"], naming := .replace }
      "src/lib/..x" = "lib/..html" := by decide
  have hsegments : segments "lib/..html" = ["lib", "..html"] := by decide
  refine ⟨_, rfl, he, hplain, rest, hleaves, ?_⟩
  rw [he, hsegments] at hpage
  have hdirs := congrArg List.dropLast hpage
  rw [List.dropLast_concat] at hdirs
  exact hdirs.symm

end Marginalia.PageMap
