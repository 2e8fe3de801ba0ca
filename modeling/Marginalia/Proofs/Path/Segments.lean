import Marginalia.Path.Basic
import Marginalia.Proofs.Text.Pieces

/-! Paths and their segments. A path is its segments with slashes between them, so paths that have
the same segments are equal; plain paths, all of whose segments are names, are the ones that files
and pages have. -/
namespace Marginalia.Path
set_option autoImplicit false

/-! ## Segments -/

theorem segments_ne_nil (path : String) : segments path ≠ [] := by
  rw [segments, ne_eq, List.map_eq_nil_iff]
  exact Text.split_ne_nil '/' path.toList

theorem slash_not_mem_segment {path s : String} (h : s ∈ segments path) : '/' ∉ s.toList := by
  obtain ⟨cs, hcs, rfl⟩ := List.mem_map.mp h
  rw [String.toList_ofList]
  exact Text.not_mem_of_mem_split cs hcs

theorem toList_ofSegments (parts : List String) :
    (ofSegments parts).toList = ['/'].intercalate (parts.map String.toList) := by
  rw [ofSegments, Text.join, String.toList_ofList]
  rfl

theorem mem_of_mem_segment {path s : String} {c : Char} (hs : s ∈ segments path)
    (hc : c ∈ s.toList) : c ∈ path.toList := by
  obtain ⟨cs, hcs, rfl⟩ := List.mem_map.mp hs
  rw [String.toList_ofList] at hc
  exact Text.mem_of_mem_split hcs hc

theorem ofSegments_singleton (s : String) : ofSegments [s] = s := by
  rw [← String.toList_inj, toList_ofSegments]
  simp

theorem ofSegments_cons (s : String) {parts : List String} (h : parts ≠ []) :
    ofSegments (s :: parts) = s ++ "/" ++ ofSegments parts := by
  obtain ⟨t, parts, rfl⟩ := List.exists_cons_of_ne_nil h
  rw [← String.toList_inj, String.toList_append, String.toList_append, toList_ofSegments,
    toList_ofSegments, List.map_cons, List.map_cons, List.intercalate_cons_cons]
  rfl

theorem ofSegments_append {front back : List String} (hf : front ≠ []) (hb : back ≠ []) :
    ofSegments (front ++ back) = ofSegments front ++ "/" ++ ofSegments back := by
  induction front with
  | nil => exact absurd rfl hf
  | cons s front ih =>
    cases front with
    | nil => rw [List.singleton_append, ofSegments_cons s hb, ofSegments_singleton]
    | cons t front =>
      rw [List.cons_append, ofSegments_cons s (by simp), ih (by simp), ofSegments_cons s (by simp)]
      simp only [String.append_assoc]

theorem ofSegments_ne_empty {parts : List String} (hne : parts ≠ []) (h : ∀ s ∈ parts, s ≠ "") :
    ofSegments parts ≠ "" := by
  obtain ⟨s, parts, rfl⟩ := List.exists_cons_of_ne_nil hne
  have hs := h s (List.mem_cons_self ..)
  by_cases hlast : parts = []
  · rwa [hlast, ofSegments_singleton]
  · rw [ofSegments_cons s hlast]
    simp [hs]

theorem mem_ofSegments {parts : List String} {c : Char} (h : c ∈ (ofSegments parts).toList) :
    c = '/' ∨ ∃ s ∈ parts, c ∈ s.toList := by
  induction parts with
  | nil => exact absurd h (by simp [ofSegments, Text.join])
  | cons s parts ih =>
    cases parts with
    | nil =>
      rw [ofSegments_singleton] at h
      exact .inr ⟨s, List.mem_cons_self .., h⟩
    | cons t parts =>
      rw [ofSegments_cons s (by simp), String.toList_append, String.toList_append, List.mem_append,
        List.mem_append] at h
      rcases h with (h | h) | h
      · exact .inr ⟨s, List.mem_cons_self .., h⟩
      · exact .inl (by simpa using h)
      · rcases ih h with hslash | ⟨r, hr, hc⟩
        · exact .inl hslash
        · exact .inr ⟨r, List.mem_cons_of_mem s hr, hc⟩

theorem ofSegments_segments (path : String) : ofSegments (segments path) = path := by
  have hs : (segments path).map String.toList = Text.split '/' path.toList := by
    rw [segments, List.map_map]
    simp [Function.comp_def]
  rw [← String.toList_inj, toList_ofSegments, hs, Text.intercalate_split]

theorem segments_ofSegments {parts : List String} (hne : parts ≠ [])
    (h : ∀ s ∈ parts, '/' ∉ s.toList) : segments (ofSegments parts) = parts := by
  have hs : Text.split '/' (ofSegments parts).toList = parts.map String.toList := by
    rw [toList_ofSegments]
    apply Text.split_intercalate (by simpa using hne)
    intro piece hp
    obtain ⟨s, hm, rfl⟩ := List.mem_map.mp hp
    exact h s hm
  rw [segments, hs, List.map_map]
  simp [Function.comp_def]

theorem segments_injective : Function.Injective segments := by
  intro a b h
  rw [← ofSegments_segments a, h, ofSegments_segments]

theorem segments_eq_dropLast_append (path : String) :
    segments path = (segments path).dropLast ++ [fileName path] := by
  have hne := segments_ne_nil path
  rw [fileName, List.getLastD_eq_getLast?, List.getLast?_eq_some_getLast hne, Option.getD_some,
    List.dropLast_append_getLast hne]

theorem slash_not_mem_fileName (path : String) : '/' ∉ (fileName path).toList := by
  have hm : fileName path ∈ segments path := by
    rw [segments_eq_dropLast_append]
    simp
  exact slash_not_mem_segment hm

theorem segments_append_slash (front back : String) :
    segments (front ++ "/" ++ back) = segments front ++ segments back := by
  have hlist : (front ++ "/" ++ back).toList = front.toList ++ '/' :: back.toList := by simp
  rw [segments, hlist, Text.split_append_sep, List.map_append]
  rfl

/-- A path goes on with a slash after `p` if and only if its segments go on after those of `p`. -/
theorem slash_prefix_iff {p q : String} :
    (p ++ "/").toList <+: q.toList ↔ ∃ rest, rest ≠ [] ∧ segments q = segments p ++ rest := by
  constructor
  · rintro ⟨rest, hrest⟩
    have hq : q = p ++ "/" ++ String.ofList rest := by
      rw [← String.toList_inj, ← hrest]
      simp
    exact ⟨segments (String.ofList rest), segments_ne_nil _, by rw [hq, segments_append_slash]⟩
  · rintro ⟨rest, hne, hrest⟩
    refine ⟨(ofSegments rest).toList, ?_⟩
    rw [← String.toList_append, ← ofSegments_segments q, hrest,
      ofSegments_append (segments_ne_nil p) hne, ofSegments_segments]

theorem slash_below_iff {p q : String} :
    (p ++ "/").toList <+: q.toList ↔ segments p <+: segments q ∧ p ≠ q := by
  rw [slash_prefix_iff]
  constructor
  · rintro ⟨rest, hne, hrest⟩
    refine ⟨⟨rest, hrest.symm⟩, ?_⟩
    rintro rfl
    exact hne (List.self_eq_append_right.mp hrest)
  · rintro ⟨⟨rest, hrest⟩, hne⟩
    refine ⟨rest, ?_, hrest.symm⟩
    rintro rfl
    rw [List.append_nil] at hrest
    exact hne (segments_injective hrest)

/-- A path that starts with a slash has an empty segment in front. -/
theorem empty_mem_segments {path : String} (h : path.toList.head? = some '/') :
    "" ∈ segments path := by
  obtain ⟨rest, hrest⟩ := List.head?_eq_some_iff.mp h
  rw [segments, hrest, Text.split_self]
  exact List.mem_cons_self ..

theorem not_slash_of_ends {path : String} (h : "" ∉ segments path) :
    path.toList.head? ≠ some '/' ∧ path.toList.getLast? ≠ some '/' := by
  refine ⟨fun hhead => h (empty_mem_segments hhead), fun hlast => h ?_⟩
  obtain ⟨front, hfront⟩ := List.getLast?_eq_some_iff.mp hlast
  have hpath : path = String.ofList front ++ "/" ++ "" := by
    rw [← String.toList_inj, hfront]
    simp
  rw [hpath, segments_append_slash]
  exact List.mem_append_right _ (List.mem_singleton.mpr rfl)

/-! ## Plain paths -/

/-- May the segment name a file or a directory? The empty one and the dots do not. -/
def IsName (s : String) : Prop :=
  s ≠ "" ∧ s ≠ "." ∧ s ≠ ".."

/-- All segments of the path are names. -/
def Plain (path : String) : Prop :=
  ∀ s ∈ segments path, IsName s

instance (s : String) : Decidable (IsName s) :=
  inferInstanceAs (Decidable (_ ∧ _))

instance (path : String) : Decidable (Plain path) :=
  inferInstanceAs (Decidable (∀ s ∈ segments path, IsName s))

theorem Plain.fileName {path : String} (h : Plain path) : IsName (fileName path) := by
  apply h
  rw [segments_eq_dropLast_append]
  simp

theorem Plain.of_dropLast {path s : String} (h : Plain path) (hs : s ∈ (segments path).dropLast) :
    IsName s :=
  h s (List.dropLast_subset _ hs)

theorem names_ofSegments {parts : List String} (h : ∀ s ∈ parts, s ≠ "" ∧ '/' ∉ s.toList) :
    names (ofSegments parts) = parts := by
  cases parts with
  | nil => rfl
  | cons s parts =>
    rw [names, segments_ofSegments (by simp) fun t ht => (h t ht).2, List.filter_eq_self]
    intro t ht
    simpa using (h t ht).1

theorem names_directory {path : String} (h : ∀ s ∈ (segments path).dropLast, s ≠ "") :
    names (directory path) = (segments path).dropLast :=
  names_ofSegments fun s hs => ⟨h s hs, slash_not_mem_segment (List.dropLast_subset _ hs)⟩

theorem Plain.names_directory {path : String} (h : Plain path) :
    names (directory path) = (segments path).dropLast :=
  Path.names_directory fun _ hs => (h.of_dropLast hs).1

theorem segments_of_slash_not_mem {name : String} (h : '/' ∉ name.toList) :
    segments name = [name] := by
  rw [segments, Text.split_of_not_mem h]
  simp

end Marginalia.Path
