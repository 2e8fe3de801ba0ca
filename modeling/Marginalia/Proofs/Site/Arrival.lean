import Marginalia.Proofs.Site.Indexing
import Marginalia.Site.Navigation

/-! The site does not depend on the order in which its documents arrive. -/
namespace Marginalia.Site
set_option autoImplicit false

/-! ## Clashes -/

/-- What the search for a clash does with one more document: it finds the source path taken, or the
page taken, or goes on. -/
theorem firstClash_cases (before : List Document) (d : Document) (rest : List Document) :
    (d.source ∈ before.map (·.source) ∧
      firstClash before (d :: rest) = some (.sharedSource d.source)) ∨
    (d.source ∉ before.map (·.source) ∧ ∃ first ∈ before, first.page = d.page ∧
      firstClash before (d :: rest) = some (.sharedPage d.page first.source d.source)) ∨
    (d.source ∉ before.map (·.source) ∧ d.page ∉ before.map (·.page) ∧
      firstClash before (d :: rest) = firstClash (d :: before) rest) := by
  have hs : before.any (·.source = d.source) = true ↔ d.source ∈ before.map (·.source) := by
    simp only [List.any_eq_true, decide_eq_true_eq, List.mem_map]
  rw [firstClash]
  by_cases hm : d.source ∈ before.map (·.source)
  · rw [if_pos (hs.mpr hm)]
    exact .inl ⟨hm, rfl⟩
  · rw [if_neg (fun h => hm (hs.mp h))]
    cases hp : before.find? (·.page = d.page) with
    | some first =>
      have he := List.find?_some hp
      rw [decide_eq_true_eq] at he
      exact .inr (.inl ⟨hm, first, List.mem_of_find?_eq_some hp, he, rfl⟩)
    | none =>
      rw [List.find?_eq_none] at hp
      refine .inr (.inr ⟨hm, ?_, rfl⟩)
      intro h
      obtain ⟨b, hb, he⟩ := List.mem_map.mp h
      exact hp b hb (decide_eq_true he)

theorem firstClash_eq_none_iff (before ds : List Document) (hs : (before.map (·.source)).Nodup)
    (hp : (before.map (·.page)).Nodup) :
    firstClash before ds = none ↔
      ((before ++ ds).map (·.source)).Nodup ∧ ((before ++ ds).map (·.page)).Nodup := by
  induction ds generalizing before with
  | nil => simp [firstClash, hs, hp]
  | cons d rest ih =>
    obtain ⟨hm, he⟩ | ⟨-, first, hf, hpage, he⟩ | ⟨hns, hnp, he⟩ := firstClash_cases before d rest
    · refine iff_of_false (by simp [he]) ?_
      rintro ⟨h, -⟩
      rw [List.map_append, List.nodup_append] at h
      exact h.2.2 d.source hm d.source (by simp) rfl
    · refine iff_of_false (by simp [he]) ?_
      rintro ⟨-, h⟩
      rw [List.map_append, List.nodup_append] at h
      exact h.2.2 first.page (List.mem_map_of_mem hf) d.page (by simp) hpage
    · have hs' : ((d :: before).map (·.source)).Nodup := List.nodup_cons.mpr ⟨hns, hs⟩
      have hp' : ((d :: before).map (·.page)).Nodup := List.nodup_cons.mpr ⟨hnp, hp⟩
      rw [he, ih (d :: before) hs' hp']
      have hmid : (before ++ d :: rest).Perm (d :: before ++ rest) := List.perm_middle
      rw [(hmid.map _).nodup_iff, (hmid.map _).nodup_iff]

theorem build_eq_ok_iff {name : String} {ds : List Document} {s : Site} :
    build name ds = .ok s ↔
      (ds.map (·.source)).Nodup ∧ (ds.map (·.page)).Nodup ∧ s = arrange name ds := by
  have hc := firstClash_eq_none_iff [] ds .nil .nil
  rw [List.nil_append] at hc
  rw [build, ← and_assoc, ← hc]
  cases firstClash [] ds with
  | none => simp [eq_comm]
  | some e => simp

/-! ## Documents in another order -/

theorem arrange_perm {name : String} {ds ds' : List Document} (h : ds.Perm ds')
    (hn : (ds.map (·.source)).Nodup) : arrange name ds = arrange name ds' := by
  have ht : Contents.ofFiles (ds.map fun d => (d.source, d)) =
      Contents.ofFiles (ds'.map fun d => (d.source, d)) :=
    Contents.ofFiles_perm (h.map _) (by rw [List.map_map]; exact hn)
  rw [arrange_eq, arrange_eq, ht]

theorem build_perm {name : String} {ds ds' : List Document} (h : ds.Perm ds') (s : Site) :
    build name ds = .ok s ↔ build name ds' = .ok s := by
  rw [build_eq_ok_iff, build_eq_ok_iff, (h.map _).nodup_iff, (h.map _).nodup_iff]
  constructor
  · rintro ⟨hs, hp, rfl⟩
    exact ⟨hs, hp, arrange_perm h ((h.map _).nodup_iff.mpr hs)⟩
  · rintro ⟨hs, hp, rfl⟩
    exact ⟨hs, hp, (arrange_perm h ((h.map _).nodup_iff.mpr hs)).symm⟩

/-- Documents that arrive in another order make the same site, or make none just the same. -/
theorem build_independent_of_arrival (name : String) {ds ds' : List Document} (h : ds.Perm ds') :
    ((∃ s, build name ds = .ok s) ↔ ∃ s, build name ds' = .ok s) ∧
    ∀ s s', build name ds = .ok s → build name ds' = .ok s' →
      s.documents = s'.documents ∧ s.contents = s'.contents ∧
      (∀ source, s.anchor? source = s'.anchor? source) ∧
      (∀ source, s.position? source = s'.position? source) ∧
      s.index? = s'.index? ∧
      (∀ source, s.navigation? source = s'.navigation? source) ∧
      s.brokenLinks = s'.brokenLinks := by
  constructor
  · exact exists_congr (build_perm h)
  · intro s s' hs hs'
    have he : s = s' := Except.ok.inj (((build_perm h s).mp hs).symm.trans hs')
    subst he
    exact ⟨rfl, rfl, fun _ => rfl, fun _ => rfl, rfl, fun _ => rfl, rfl⟩

/-- A file at the root and one in a directory, in both orders. -/
theorem build_independent_of_swap :
    ∃ s s',
      build "notes" [.read "b.md" "# B" (.named "Text") {}, .read "a/c.md" "" (.named "Text") {}] =
        .ok s ∧
      build "notes" [.read "a/c.md" "" (.named "Text") {}, .read "b.md" "# B" (.named "Text") {}] =
        .ok s' ∧
      s.documents = s'.documents ∧ s.contents = s'.contents := by
  obtain ⟨hmade, hsame⟩ := build_independent_of_arrival "notes"
    (List.Perm.swap (Document.read "a/c.md" "" (.named "Text") {})
      (Document.read "b.md" "# B" (.named "Text") {}) [])
  obtain ⟨s, hs⟩ : ∃ s, build "notes" [.read "b.md" "# B" (.named "Text") {},
      .read "a/c.md" "" (.named "Text") {}] = .ok s := ⟨_, build_eq_ok_iff.mpr ⟨by decide, by decide, rfl⟩⟩
  obtain ⟨s', hs'⟩ := hmade.mp ⟨s, hs⟩
  obtain ⟨hd, hc, -⟩ := hsame s s' hs hs'
  exact ⟨s, s', hs, hs', hd, hc⟩

end Marginalia.Site
