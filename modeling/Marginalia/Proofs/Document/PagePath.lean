import Marginalia.Document.Basic
import Marginalia.Proofs.Path.Segments
import Marginalia.Proofs.Text.Start

/-! The paths of pages. A page keeps the directories of its source file, less the leading ones that
are left out, and a source path of names gives a page path of names. -/
namespace Marginalia
set_option autoImplicit false

/-! ## Normalized paths -/

namespace Path

theorem segments_normalize {path : String} (h : normalize path ≠ "") :
    ∀ s ∈ segments (normalize path), s ≠ "" ∧ s ≠ "." := by
  intro s hs
  rw [normalize] at h hs
  rw [segments_ofSegments] at hs
  · have hm := (List.mem_filter.mp hs).2
    simpa using hm
  · intro he
    rw [he] at h
    exact h rfl
  · intro t ht
    exact slash_not_mem_segment (List.mem_filter.mp ht).1

theorem plain_normalize {path : String} (h : normalize path ≠ "")
    (hup : ".." ∉ segments (normalize path)) : Plain (normalize path) := by
  intro s hs
  obtain ⟨hempty, hdot⟩ := segments_normalize h s hs
  exact ⟨hempty, hdot, fun e => hup (e ▸ hs)⟩

/-- Text without slashes that is added to a path is added to its last segment. -/
theorem segments_append {text : String} (h : '/' ∉ text.toList) (path : String) :
    segments (path ++ text) = (segments path).dropLast ++ [fileName path ++ text] := by
  have hj : ∀ parts : List String, ∀ last : String,
      ofSegments (parts ++ [last]) ++ text = ofSegments (parts ++ [last ++ text]) := by
    intro parts last
    induction parts with
    | nil =>
      rw [List.nil_append, List.nil_append, ofSegments_singleton, ofSegments_singleton]
    | cons s parts ih =>
      rw [List.cons_append, List.cons_append, ofSegments_cons s (by simp),
        ofSegments_cons s (by simp), String.append_assoc, ih]
  -- the path is put together from its segments again, with the text on the last one
  conv_lhs => rw [← ofSegments_segments path, segments_eq_dropLast_append path, hj]
  apply segments_ofSegments (by simp)
  intro s hs
  rw [List.mem_append, List.mem_singleton] at hs
  rcases hs with hs | rfl
  · exact slash_not_mem_segment (List.dropLast_subset _ hs)
  · rw [String.toList_append, List.mem_append, not_or]
    exact ⟨slash_not_mem_fileName path, h⟩

end Path

/-! ## Pages -/

namespace PageMap
open Marginalia.Path

theorem below?_eq_some_iff {dir path rest : String} :
    below? dir path = some rest ↔ dir ≠ "" ∧ rest ≠ "" ∧ path = dir ++ "/" ++ rest := by
  rw [below?]
  split
  next he => simp [he]
  next hne =>
    split
    next c cs ha =>
      have hp := Text.after?_eq_some_iff.mp ha
      rw [Option.some.injEq]
      constructor
      · rintro rfl
        refine ⟨hne, by simp, ?_⟩
        rw [← String.toList_inj, hp]
        simp
      · rintro ⟨-, -, hpath⟩
        have hrest : rest.toList = c :: cs := by simpa [hpath] using hp
        rw [← hrest, String.ofList_toList]
    next hno =>
      refine iff_of_false (by simp) ?_
      rintro ⟨-, hrest, hpath⟩
      have hrest : rest.toList ≠ [] := fun he => hrest (String.toList_eq_nil_iff.mp he)
      obtain ⟨c, cs, hcs⟩ := List.exists_cons_of_ne_nil hrest
      exact hno c cs (Text.after?_eq_some_iff.mpr (by simp [hpath, hcs]))

theorem segments_below? {dir path rest : String} (h : below? dir path = some rest) :
    segments path = segments dir ++ segments rest := by
  obtain ⟨-, -, rfl⟩ := below?_eq_some_iff.mp h
  exact segments_append_slash dir rest

theorem segments_stripped (strip : List String) (source : String) :
    segments (stripped strip source) <:+ segments source := by
  rw [stripped]
  cases hf : strip.findSome? fun dir => below? (trimSlashes dir) source with
  | none => exact List.suffix_refl _
  | some rest =>
    obtain ⟨dir, -, hb⟩ := List.exists_of_findSome?_eq_some hf
    rw [segments_below? hb]
    exact List.suffix_append _ _

theorem slash_not_mem_stem {name : String} (h : '/' ∉ name.toList) : '/' ∉ (stem name).toList := by
  rw [stem]
  split
  next ext c front hc =>
    obtain ⟨hn, -⟩ := Text.cutAt_eq_some_iff.mp hc
    intro hm
    rw [String.toList_ofList, List.mem_reverse] at hm
    apply h
    rw [← List.mem_reverse, hn]
    simp [List.mem_cons.mp hm]
  next => exact h

/-- What the name of a page is made of, given the name of its source file. -/
def baseName : PageNaming → String → String
  | .append, name => name
  | .replace, name => stem name

theorem slash_not_mem_baseName (naming : PageNaming) {name : String} (h : '/' ∉ name.toList) :
    '/' ∉ (baseName naming name).toList := by
  cases naming with
  | append => exact h
  | replace => exact slash_not_mem_stem h

theorem segments_withoutExtension (path : String) : segments (withoutExtension path) =
    (segments path).dropLast ++ [stem (fileName path)] := by
  rw [withoutExtension]
  apply segments_ofSegments (by simp)
  intro s hs
  rw [List.mem_append, List.mem_singleton] at hs
  rcases hs with hs | rfl
  · exact slash_not_mem_segment (List.dropLast_subset _ hs)
  · exact slash_not_mem_stem (slash_not_mem_fileName path)

theorem segments_page {m : PageMap} {source : String} (h : m.index ≠ some source) :
    segments (m.page source) = (segments (stripped m.strip source)).dropLast ++
      [baseName m.naming (fileName (stripped m.strip source)) ++ ".html"] := by
  rw [page, if_neg h]
  cases m.naming with
  | append => exact segments_append (by decide) _
  | replace =>
    rw [segments_append (by decide), fileName, segments_withoutExtension]
    simp [baseName]

/-- The path of a page: the index page, or directories of the source and a name that ends in the
extension of pages. -/
theorem page_cases (m : PageMap) (source : String) :
    m.page source = indexPage ∨
    ∃ rest base, segments rest <:+ segments source ∧ '/' ∉ base.toList ∧
      segments (m.page source) = (segments rest).dropLast ++ [base ++ ".html"] := by
  by_cases h : m.index = some source
  · exact .inl (by rw [page, if_pos h])
  · exact .inr ⟨_, _, segments_stripped _ _,
      slash_not_mem_baseName m.naming (slash_not_mem_fileName _), segments_page h⟩

theorem isName_append_html (base : String) : IsName (base ++ ".html") := by
  have hne : ∀ s : String, s.length < 5 → base ++ ".html" ≠ s := by
    intro s hs he
    rw [← he, String.length_append] at hs
    exact absurd hs (Nat.not_lt.mpr (Nat.le_add_left 5 base.length))
  exact ⟨hne "" (by decide), hne "." (by decide), hne ".." (by decide)⟩

/-- A page has a path of names if the directories of its source file are names. -/
theorem page_plain_of_directory (m : PageMap) {source : String}
    (h : ∀ s ∈ (segments source).dropLast, IsName s) : Plain (m.page source) := by
  obtain he | ⟨rest, base, ⟨front, hfront⟩, -, he⟩ := page_cases m source
  · rw [he]
    decide
  · intro s hs
    rw [he, List.mem_append, List.mem_singleton] at hs
    rcases hs with hs | rfl
    · apply h
      rw [← hfront, List.dropLast_append_of_ne_nil (segments_ne_nil rest)]
      exact List.mem_append_right front hs
    · exact isName_append_html base

theorem page_plain (m : PageMap) {source : String} (h : Plain source) : Plain (m.page source) :=
  page_plain_of_directory m fun _ => h.of_dropLast

theorem page_plain_of_normalize (m : PageMap) {path : String}
    (h : ".." ∉ segments (normalize path)) : Plain (m.page (normalize path)) := by
  by_cases he : normalize path = ""
  · rw [he]
    exact page_plain_of_directory m (by decide)
  · exact page_plain m (plain_normalize he h)

end PageMap

end Marginalia
