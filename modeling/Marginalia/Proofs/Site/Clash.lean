import Marginalia.Proofs.Site.Places
import Mathlib.Order.Bounds.Defs
import Mathlib.Order.Nat

/-! Documents that make no site. They are the ones of which two share a source path or a page, and
the error names the first document that repeats what one before it has. -/
namespace Marginalia.Site
set_option autoImplicit false

/-! ## Repeated paths -/

/-- Two documents at different places agree in what `f` gives. -/
def Shared (f : Document → String) (ds : List Document) : Prop :=
  ∃ (i j : Nat) (d e : Document), i < j ∧ ds[i]? = some d ∧ ds[j]? = some e ∧ f d = f e

/-- The document at place `i` has the source path or the page of one before it. -/
def Repeats (ds : List Document) (i : Nat) : Prop :=
  ∃ d, ds[i]? = some d ∧
    (d.source ∈ (ds.take i).map (·.source) ∨ d.page ∈ (ds.take i).map (·.page))

theorem mem_map_take_iff {f : Document → String} {ds : List Document} {i : Nat} {x : String} :
    x ∈ (ds.take i).map f ↔ ∃ (j : Nat) (d : Document), j < i ∧ ds[j]? = some d ∧ f d = x := by
  rw [List.mem_map]
  constructor
  · rintro ⟨d, hd, hx⟩
    obtain ⟨j, hj⟩ := List.mem_iff_getElem?.mp hd
    rw [List.getElem?_take] at hj
    split at hj
    next hlt => exact ⟨j, d, hlt, hj, hx⟩
    next => cases hj
  · rintro ⟨j, d, hlt, hd, hx⟩
    exact ⟨d, List.mem_iff_getElem?.mpr ⟨j, by rw [List.getElem?_take_of_lt hlt, hd]⟩, hx⟩

theorem shared_iff_not_nodup {f : Document → String} {ds : List Document} :
    Shared f ds ↔ ¬ (ds.map f).Nodup := by
  rw [List.nodup_iff_getElem?_ne_getElem?]
  push Not
  constructor
  · rintro ⟨i, j, d, e, hij, hd, he, hf⟩
    refine ⟨i, j, hij, ?_, by simp [hd, he, hf]⟩
    rw [List.length_map]
    exact (List.getElem?_eq_some_iff.mp he).1
  · rintro ⟨i, j, hij, hj, hsame⟩
    rw [List.length_map] at hj
    have hi : i < ds.length := hij.trans hj
    rw [List.getElem?_map, List.getElem?_map, List.getElem?_eq_getElem hi,
      List.getElem?_eq_getElem hj, Option.map_some, Option.map_some, Option.some.injEq] at hsame
    exact ⟨i, j, ds[i], ds[j], hij, List.getElem?_eq_getElem hi, List.getElem?_eq_getElem hj, hsame⟩

theorem exists_repeats_iff {ds : List Document} :
    (∃ i, Repeats ds i) ↔ Shared Document.source ds ∨ Shared Document.page ds := by
  simp only [Repeats, mem_map_take_iff]
  constructor
  · rintro ⟨i, e, he, ⟨j, d, hj, hd, hsame⟩ | ⟨j, d, hj, hd, hsame⟩⟩
    · exact .inl ⟨j, i, d, e, hj, hd, he, hsame⟩
    · exact .inr ⟨j, i, d, e, hj, hd, he, hsame⟩
  · rintro (⟨i, j, d, e, hij, hd, he, hsame⟩ | ⟨i, j, d, e, hij, hd, he, hsame⟩)
    · exact ⟨j, e, he, .inl ⟨i, d, hij, hd, hsame⟩⟩
    · exact ⟨j, e, he, .inr ⟨i, d, hij, hd, hsame⟩⟩

theorem repeats_take_iff {ds : List Document} {n i : Nat} :
    Repeats (ds.take n) i ↔ i < n ∧ Repeats ds i := by
  by_cases hi : i < n
  · rw [Repeats, List.getElem?_take_of_lt hi, List.take_take, min_eq_left hi.le]
    exact (and_iff_right hi).symm
  · refine iff_of_false ?_ fun h => hi h.1
    rintro ⟨d, hd, -⟩
    rw [List.getElem?_take, if_neg hi] at hd
    cases hd

/-! ## The search -/

theorem firstClash_nil_eq_none_iff {ds : List Document} :
    firstClash [] ds = none ↔ ¬ ∃ i, Repeats ds i := by
  have hnodup := firstClash_eq_none_iff [] ds .nil .nil
  rw [List.nil_append] at hnodup
  rw [hnodup, exists_repeats_iff, shared_iff_not_nodup, shared_iff_not_nodup, not_or, not_not,
    not_not]

/-- Documents without a clash are all before those that follow. -/
theorem firstClash_append {before front : List Document} (h : firstClash before front = none)
    (rest : List Document) :
    firstClash before (front ++ rest) = firstClash (front.reverse ++ before) rest := by
  induction front generalizing before with
  | nil => rfl
  | cons d front ih =>
    obtain ⟨-, he⟩ | ⟨-, first, -, -, he⟩ | ⟨hsource, hpage, he⟩ := firstClash_cases before d front
    · exact absurd (he.symm.trans h) (by simp)
    · exact absurd (he.symm.trans h) (by simp)
    · have hgo : firstClash before (d :: (front ++ rest)) =
          firstClash (d :: before) (front ++ rest) := by
        obtain ⟨hm, -⟩ | ⟨-, first, hf, hsame, -⟩ | ⟨-, -, hgo⟩ :=
          firstClash_cases before d (front ++ rest)
        · exact absurd hm hsource
        · exact absurd (hsame ▸ List.mem_map_of_mem hf) hpage
        · exact hgo
      rw [List.cons_append, hgo, ih (he ▸ h), List.reverse_cons, List.append_assoc,
        List.singleton_append]

/-- The search ends at the first document that repeats anything. -/
theorem firstClash_of_least {ds : List Document} {i : Nat} (h : IsLeast {i | Repeats ds i} i)
    {d : Document} (hd : ds[i]? = some d) :
    firstClash [] ds = firstClash (ds.take i).reverse (d :: ds.drop (i + 1)) ∧
      firstClash [] (ds.take i) = none := by
  obtain ⟨hi, hget⟩ := List.getElem?_eq_some_iff.mp hd
  have hfront : firstClash [] (ds.take i) = none := by
    rw [firstClash_nil_eq_none_iff]
    rintro ⟨k, hk⟩
    obtain ⟨hlt, hrepeats⟩ := repeats_take_iff.mp hk
    exact absurd (h.2 hrepeats) (Nat.not_le.mpr hlt)
  have happend := firstClash_append hfront (d :: ds.drop (i + 1))
  rw [← hget, ← List.drop_eq_getElem_cons hi, List.take_append_drop, List.append_nil] at happend
  rw [← hget, ← List.drop_eq_getElem_cons hi]
  exact ⟨happend, hfront⟩

theorem build_eq_error_iff {name : String} {ds : List Document} {e : SiteError} :
    build name ds = .error e ↔ firstClash [] ds = some e := by
  rw [build]
  cases firstClash [] ds with
  | none => simp
  | some e' => simp

theorem exists_build_error_iff {name : String} {ds : List Document} :
    (∃ e, build name ds = .error e) ↔ ∃ i, Repeats ds i := by
  simp only [build_eq_error_iff]
  rw [← not_iff_not, ← firstClash_nil_eq_none_iff, Option.eq_none_iff_forall_ne_some, not_exists]

/-- Documents make no site exactly if two share a source path or a page. The error then is about the
first document that repeats one of them: about its source path if that is taken, and otherwise about
its page and the one document before it that has the page. -/
theorem build_blames_first_repeat (name : String) (ds : List Document) :
    ((∃ e, build name ds = .error e) ↔ Shared Document.source ds ∨ Shared Document.page ds) ∧
    ((∃ e, build name ds = .error e) ↔ ∃ i, IsLeast {i | Repeats ds i} i) ∧
    ∀ i d, IsLeast {i | Repeats ds i} i → ds[i]? = some d →
      (d.source ∈ (ds.take i).map (·.source) → build name ds = .error (.sharedSource d.source)) ∧
      (d.source ∉ (ds.take i).map (·.source) → ∃ first,
        (ds.take i).filter (·.page = d.page) = [first] ∧ first.source ≠ d.source ∧
        build name ds = .error (.sharedPage d.page first.source d.source)) := by
  refine ⟨exists_build_error_iff.trans exists_repeats_iff, ?_, ?_⟩
  · rw [exists_build_error_iff]
    constructor
    · intro h
      classical exact ⟨Nat.find h, Nat.find_spec h, fun k hk => Nat.find_min' h hk⟩
    · rintro ⟨i, hi, -⟩
      exact ⟨i, hi⟩
  · intro i d hleast hd
    obtain ⟨hsearch, hfront⟩ := firstClash_of_least hleast hd
    have hnodup := (firstClash_eq_none_iff [] (ds.take i) .nil .nil).mp hfront
    simp only [build_eq_error_iff, hsearch]
    obtain ⟨hm, he⟩ | ⟨hm, first, hf, hpage, he⟩ | ⟨hm, hp, -⟩ :=
      firstClash_cases (ds.take i).reverse d (ds.drop (i + 1))
    · rw [List.map_reverse, List.mem_reverse] at hm
      exact ⟨fun _ => he, fun hn => absurd hm hn⟩
    · rw [List.map_reverse, List.mem_reverse] at hm
      rw [List.mem_reverse] at hf
      refine ⟨fun hin => absurd hin hm, fun _ => ⟨first, ?_, ?_, he⟩⟩
      · rw [← hpage]
        exact filter_eq_singleton hnodup.2 hf
      · intro hsame
        exact hm (hsame ▸ List.mem_map_of_mem hf)
    · -- the document at place `i` repeats something, so the search does not go on
      rw [List.map_reverse, List.mem_reverse] at hm hp
      obtain ⟨d', hd', hsource | hpage⟩ := hleast.1
      · exact absurd (Option.some.inj (hd'.symm.trans hd) ▸ hsource) hm
      · exact absurd (Option.some.inj (hd'.symm.trans hd) ▸ hpage) hp

/-- A file whose page would be the index page, before a file that comes twice. -/
theorem build_blames_second_page :
    let read := fun path => Document.read path "" (.named "Text") {}
    IsLeast {i | Repeats [read "README.md", read "b.md", read "index", read "b.md"] i} 2 ∧
      build "notes" [read "README.md", read "b.md", read "index", read "b.md"] =
        .error (.sharedPage "index.html" "README.md" "index") := by
  intro read
  have hleast : ∀ a b c : Document, a.source ≠ b.source → a.page ≠ b.page → a.page = c.page →
      IsLeast {i | Repeats [a, b, c, b] i} 2 := by
    intro a b c hsource hpage hsame
    refine ⟨⟨c, rfl, by simp [hsame]⟩, ?_⟩
    rintro k ⟨d, hd, hrepeats⟩
    match k with
    | 0 => simp at hrepeats
    | 1 =>
      obtain rfl : b = d := by simpa using hd
      simp [Ne.symm hsource, Ne.symm hpage] at hrepeats
    | k + 2 => exact Nat.le_add_left 2 k
  have h := hleast (read "README.md") (read "b.md") (read "index") (by decide) (by decide)
    (by decide)
  obtain ⟨-, -, hblame⟩ := build_blames_first_repeat "notes"
    [read "README.md", read "b.md", read "index", read "b.md"]
  obtain ⟨first, hfirst, -, herror⟩ := (hblame 2 (read "index") h rfl).2 (by decide)
  have hone : [read "README.md", read "b.md"].filter (·.page = (read "index").page) =
      [read "README.md"] := by decide
  obtain rfl := (List.cons.inj (hone.symm.trans hfirst)).1
  exact ⟨h, herror⟩

end Marginalia.Site
