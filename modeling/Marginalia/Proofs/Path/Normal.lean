import Marginalia.Path.Basic
import Marginalia.Proofs.Document.PagePath

/-! Normal forms of paths: forward slashes only, no empty segment and no dot. What is normalized is
normal, what is normal stays as it is, and the normal form leads to the same file. -/
namespace Marginalia
set_option autoImplicit false

namespace Path

theorem backslash_not_mem_normalize (path : String) : '\\' ∉ (normalize path).toList := by
  intro hm
  rw [normalize] at hm
  obtain hslash | ⟨s, hs, hc⟩ := mem_ofSegments hm
  · exact absurd hslash (by decide)
  · have hslashed := mem_of_mem_segment (List.mem_filter.mp hs).1 hc
    rw [String.toList_ofList, List.mem_map] at hslashed
    obtain ⟨d, -, hd⟩ := hslashed
    by_cases he : d = '\\'
    · rw [if_pos he] at hd
      exact absurd hd (by decide)
    · rw [if_neg he] at hd
      exact he hd

/-- The path with forward slashes only. -/
def slashed (path : String) : String :=
  String.ofList (path.toList.map fun c => if c = '\\' then '/' else c)

theorem slashed_eq_self {path : String} (h : '\\' ∉ path.toList) : slashed path = path := by
  have hmap : path.toList.map (fun c => if c = '\\' then '/' else c) = path.toList := by
    refine (List.map_congr_left fun c hc => ?_).trans (List.map_id _)
    have hne : c ≠ '\\' := fun e => h (e ▸ hc)
    exact if_neg hne
  rw [slashed, hmap, String.ofList_toList]

theorem normalize_eq (path : String) :
    normalize path = ofSegments ((segments (slashed path)).filter fun s => s ≠ "" && s ≠ ".") :=
  rfl

theorem normalize_eq_self {path : String} (hb : '\\' ∉ path.toList)
    (hs : ∀ s ∈ segments path, s ≠ "" ∧ s ≠ ".") : normalize path = path := by
  have hall : (segments path).filter (fun s => s ≠ "" && s ≠ ".") = segments path :=
    List.filter_eq_self.mpr fun s hm => by simpa using hs s hm
  rw [normalize_eq, slashed_eq_self hb, hall, ofSegments_segments]

theorem normalize_normalize (path : String) : normalize (normalize path) = normalize path := by
  by_cases he : normalize path = ""
  · rw [he]
    decide
  · exact normalize_eq_self (backslash_not_mem_normalize path) (segments_normalize he)

theorem normalize_eq_self_iff {path : String} : normalize path = path ↔
    path = "" ∨ '\\' ∉ path.toList ∧ ∀ s ∈ segments path, s ≠ "" ∧ s ≠ "." := by
  constructor
  · intro h
    refine or_iff_not_imp_left.mpr fun hne => ⟨?_, ?_⟩
    · exact h ▸ backslash_not_mem_normalize path
    · exact h ▸ segments_normalize (h.symm ▸ hne)
  · rintro (rfl | ⟨hb, hs⟩)
    · decide
    · exact normalize_eq_self hb hs

/-! ## The file that a path leads to -/

theorem names_normalize (path : String) :
    names (normalize path) = (names (slashed path)).filter (· ≠ ".") := by
  rw [normalize_eq, names_ofSegments, names, List.filter_filter]
  · exact List.filter_congr fun s _ => Bool.and_comm _ _
  · intro s hs
    obtain ⟨hmem, hkept⟩ := List.mem_filter.mp hs
    simp only [Bool.and_eq_true, decide_eq_true_eq] at hkept
    exact ⟨hkept.1, slash_not_mem_segment hmem⟩

/-- A path leads to the same file as its normal form, once its slashes are forward ones. -/
theorem fileName?_normalize (path : String) : fileName? (normalize path) = fileName? (slashed path) := by
  have hsame : (names (normalize path)).filter (· ≠ ".") = (names (slashed path)).filter (· ≠ ".") := by
    rw [names_normalize, List.filter_filter]
    exact List.filter_congr fun s _ => Bool.and_self _
  rw [fileName?, hsame, fileName?]

end Path

theorem Document.read_normalize (path text : String) (l : Language) (m : PageMap) :
    read (Path.normalize path) text l m = read path text l m := by
  unfold read
  rw [Path.normalize_normalize]

end Marginalia
