import Marginalia.Proofs.Site.Arrival
import Marginalia.Site.Navigation

/-! Where the documents of a site stand. The contents carry the places of the documents in order, and
the place found for a source path is the place of its document. -/
namespace Marginalia.Site
set_option autoImplicit false

/-! ## Documents in their places -/

theorem arrange_documents_perm (name : String) (ds : List Document) :
    (arrange name ds).documents.Perm ds := by
  have hv := Contents.values_ofFiles (ds.map fun d => (d.source, d))
  rw [List.map_map] at hv
  rw [arrange_eq]
  simpa [Function.comp_def] using hv

theorem documents_perm {name : String} {ds : List Document} {s : Site}
    (h : build name ds = .ok s) : s.documents.Perm ds := by
  obtain ⟨-, -, rfl⟩ := build_eq_ok_iff.mp h
  exact arrange_documents_perm name ds

theorem sources_nodup {name : String} {ds : List Document} {s : Site}
    (h : build name ds = .ok s) : (s.documents.map (·.source)).Nodup := by
  obtain ⟨hs, -, -⟩ := build_eq_ok_iff.mp h
  exact ((documents_perm h).map _).nodup_iff.mpr hs

theorem pages_nodup {name : String} {ds : List Document} {s : Site}
    (h : build name ds = .ok s) : (s.documents.map (·.page)).Nodup := by
  obtain ⟨-, hp, -⟩ := build_eq_ok_iff.mp h
  exact ((documents_perm h).map _).nodup_iff.mpr hp

/-- Among documents that `f` tells apart each is the only one of its kind. -/
theorem filter_eq_singleton {f : Document → String} {ds : List Document} (hn : (ds.map f).Nodup)
    {d : Document} (hd : d ∈ ds) : ds.filter (f · = f d) = [d] := by
  obtain ⟨front, back, rfl⟩ := List.append_of_mem hd
  rw [List.map_append, List.map_cons, List.nodup_middle, List.nodup_cons, List.mem_append,
    not_or] at hn
  have hnone : ∀ es : List Document, f d ∉ es.map f → es.filter (f · = f d) = [] := by
    intro es hes
    rw [List.filter_eq_nil_iff]
    intro e he hsame
    exact hes (of_decide_eq_true hsame ▸ List.mem_map_of_mem he)
  rw [List.filter_append, List.filter_cons_of_pos (by simp), hnone front hn.1.1, hnone back hn.1.2,
    List.nil_append]

/-- The contents of a site carry the places of its documents, in order. -/
theorem contents_places {name : String} {ds : List Document} {s : Site}
    (h : build name ds = .ok s) : s.contents.values = List.range s.documents.length := by
  obtain ⟨-, -, rfl⟩ := build_eq_ok_iff.mp h
  rw [arrange_eq, List.range_eq_range']
  exact (Contents.number_spec 0 _).1

theorem valuesAll_children {name : String} {ds : List Document} {s : Site}
    (h : build name ds = .ok s) : Contents.valuesAll s.contents.children = s.contents.values := by
  obtain ⟨-, -, rfl⟩ := build_eq_ok_iff.mp h
  rfl

theorem position?_of_getElem? {s : Site} (hn : (s.documents.map (·.source)).Nodup) {i : Nat}
    {d : Document} (h : s.documents[i]? = some d) : s.position? d.source = some i := by
  obtain ⟨hi, hd⟩ := List.getElem?_eq_some_iff.mp h
  rw [position?, List.findIdx?_eq_some_iff_getElem]
  refine ⟨hi, by simp [hd], ?_⟩
  intro j hj hsame
  rw [List.Nodup, List.pairwise_map] at hn
  have hne := List.pairwise_iff_getElem.mp hn j i (by omega) hi hj
  simp [hd] at hsame hne
  exact hne hsame

/-- The neighbours of a document are the ones before and after it. -/
theorem navigation?_of_getElem? {s : Site} (hn : (s.documents.map (·.source)).Nodup) {i : Nat}
    {d : Document} (h : s.documents[i]? = some d) :
    ∃ n, s.navigation? d.source = some n ∧
      n.previous = (if i = 0 then none else s.documents[i - 1]?) ∧
      n.next = s.documents[i + 1]? := by
  rw [navigation?, position?_of_getElem? hn h]
  simp [h]

end Marginalia.Site
