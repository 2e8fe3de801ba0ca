import Marginalia.Proofs.Language.History
import Mathlib.Data.List.Induction
import Mathlib.Data.List.Lattice
import Mathlib.Data.List.Pairwise
import Mathlib.Data.List.Perm.Subperm

/-! Layers of languages. Each layer takes over what it claims; a language stays as long as it holds
something. Languages that claim nothing in common hold all they claim, in whatever order they come. -/
namespace Marginalia.Catalogue
set_option autoImplicit false

variable {claims : Language → List String} {c : Catalogue} {ls : List Language}

/-! ## Holders -/

theorem Records.any_number_iff {table : List (String × Entry)}
    (h : Records claims table (numbered ls)) {e : Entry} (he : e ∈ numbered ls) :
    table.any (·.2.number = e.number) = true ↔ ∃ k, holder? claims (numbered ls) k = some e := by
  simp only [List.any_eq_true, decide_eq_true_eq]
  constructor
  · rintro ⟨⟨k, f⟩, hm, hn⟩
    have hk : holder? claims (numbered ls) k = some f := by
      rw [← h.lookup]
      exact lookup_eq_some_of_mem h.nodup hm
    have hf : f = e := eq_of_number_eq (holder?_spec hk).1 he hn
    exact ⟨k, hf ▸ hk⟩
  · rintro ⟨k, hk⟩
    rw [← h.lookup] at hk
    exact ⟨(k, e), mem_of_lookup_eq_some hk, rfl⟩

theorem Follows.holdsClaim_iff (h : Follows c ls) {e : Entry} (he : e ∈ numbered ls) :
    c.holdsClaim e = true ↔
      (∃ k, holder? (·.extensions) (numbered ls) k = some e) ∨
        ∃ k, holder? (·.fileNames) (numbered ls) k = some e := by
  rw [holdsClaim, Bool.or_eq_true, h.extensions.any_number_iff he, h.fileNames.any_number_iff he]

theorem holder?_of_concat {l : Language} {k : String} {e : Entry} (he : e ∈ numbered ls)
    (h : holder? claims (numbered (ls ++ [l])) k = some e) :
    holder? claims (numbered ls) k = some e := by
  rw [numbered_concat, holder?_concat] at h
  split at h
  · have hn : ls.length = e.number := congrArg Entry.number (Option.some.inj h)
    have hlt := number_lt_of_mem he
    omega
  · exact h

/-- A newcomer may take claims from the others but gives them none. -/
theorem Follows.holdsClaim_of_insert (h : Follows c ls) {l : Language} {e : Entry}
    (he : e ∈ numbered ls) (hc : (c.insert l).holdsClaim e = true) : c.holdsClaim e = true := by
  have hmem : e ∈ numbered (ls ++ [l]) := by
    rw [numbered_concat]
    exact List.mem_append_left _ he
  rw [(h.insert l).holdsClaim_iff hmem] at hc
  rw [h.holdsClaim_iff he]
  obtain ⟨k, hk⟩ | ⟨k, hk⟩ := hc
  · exact .inl ⟨k, holder?_of_concat he hk⟩
  · exact .inr ⟨k, holder?_of_concat he hk⟩

/-! ## Entries -/

/-- The entries are among the languages that came in, in their order, and hold all claims. -/
structure Lists (c : Catalogue) (ls : List Language) : Prop where
  sublist : c.entries.Sublist (numbered ls)
  holders : ∀ e ∈ numbered ls, c.holdsClaim e = true → e ∈ c.entries

theorem lists_empty : Lists {} [] := ⟨.slnil, by simp [numbered]⟩

theorem Lists.insert (h : Follows c ls) (hl : Lists c ls) (l : Language) :
    Lists (c.insert l) (ls ++ [l]) where
  sublist := by
    rw [numbered_concat, ← h.next]
    exact hl.sublist.append (.refl _)
  holders e he hc := by
    rw [numbered_concat, List.mem_append, ← h.next] at he
    refine List.mem_append.mpr (he.imp_left fun he => ?_)
    exact hl.holders e he (h.holdsClaim_of_insert he hc)

theorem numbered_nodup (ls : List Language) : (numbered ls).Nodup := by
  rw [List.nodup_iff_getElem?_ne_getElem?]
  intro i j hij hj
  rw [numbered, List.length_mapIdx] at hj
  have hi : i < ls.length := by omega
  rw [numbered, List.getElem?_mapIdx, List.getElem?_mapIdx, List.getElem?_eq_getElem hi,
    List.getElem?_eq_getElem hj]
  intro heq
  have hn : i = j := congrArg Entry.number (Option.some.inj heq)
  omega

theorem filter_eq_of_sublist {α : Type} {few many : List α} {p : α → Bool}
    (h : few.Sublist many) (hn : many.Nodup) (hp : ∀ a ∈ many, p a = true → a ∈ few) :
    few.filter p = many.filter p := by
  apply (h.filter p).eq_of_length_le
  apply List.Subperm.length_le
  apply (hn.filter p).subperm
  intro a ha
  obtain ⟨hm, hpa⟩ := List.mem_filter.mp ha
  exact List.mem_filter.mpr ⟨hp a hm hpa, hpa⟩

/-- After a layer the entries are those that hold a claim. -/
theorem Lists.layer_entries (h : Follows c ls) (hl : Lists c ls) (l : Language) :
    (c.layer l).entries = (numbered (ls ++ [l])).filter (c.layer l).holdsClaim := by
  have hi := Lists.insert h hl l
  exact filter_eq_of_sublist hi.sublist (numbered_nodup _) hi.holders

theorem Lists.layer (h : Follows c ls) (hl : Lists c ls) (l : Language) :
    Lists (c.layer l) (ls ++ [l]) where
  sublist := by
    rw [Lists.layer_entries h hl l]
    exact List.filter_sublist
  holders e he hc := by
    rw [Lists.layer_entries h hl l]
    exact List.mem_filter.mpr ⟨he, hc⟩

theorem layers_follow (ls : List Language) :
    Follows (ls.foldl layer {}) ls ∧ Lists (ls.foldl layer {}) ls := by
  induction ls using List.reverseRecOn with
  | nil => exact ⟨follows_empty, lists_empty⟩
  | append_singleton ls l ih =>
    rw [List.foldl_append]
    exact ⟨ih.1.layer l, Lists.layer ih.1 ih.2 l⟩

theorem layers_entries (ls : List Language) :
    (ls.foldl layer {}).entries = (numbered ls).filter (ls.foldl layer {}).holdsClaim := by
  induction ls using List.reverseRecOn with
  | nil => rfl
  | append_singleton ls l =>
    rw [List.foldl_append]
    exact Lists.layer_entries (layers_follow ls).1 (layers_follow ls).2 l

/-! ## Languages apart -/

/-- No two of the languages have a claim of one kind in common. -/
def ApartIn (claims : Language → List String) (ls : List Language) : Prop :=
  ls.Pairwise fun a b => (claims a).Disjoint (claims b)

/-- No two of the languages have a claim in common. -/
structure Apart (ls : List Language) : Prop where
  extensions : ApartIn (·.extensions) ls
  fileNames : ApartIn (·.fileNames) ls

theorem ApartIn.perm {ls' : List Language} (h : ApartIn claims ls) (hp : ls.Perm ls') :
    ApartIn claims ls' :=
  (hp.pairwise_iff List.Disjoint.symm).mp h

theorem Apart.perm {ls' : List Language} (h : Apart ls) (hp : ls.Perm ls') : Apart ls' :=
  ⟨h.extensions.perm hp, h.fileNames.perm hp⟩

theorem holder?_eq_some_iff_of_apart {es : List Entry}
    (h : ApartIn claims (es.map (·.language))) {k : String} {e : Entry} :
    holder? claims es k = some e ↔ e ∈ es ∧ k ∈ claims e.language := by
  refine ⟨holder?_spec, ?_⟩
  rintro ⟨he, hk⟩
  cases hf : holder? claims es k with
  | none => exact absurd hk (holder?_eq_none_iff.mp hf e he)
  | some f =>
    obtain ⟨hfm, hfk⟩ := holder?_spec hf
    rw [ApartIn, List.pairwise_map] at h
    have : Std.Symm fun a b : Entry => (claims a.language).Disjoint (claims b.language) :=
      ⟨fun _ _ => List.Disjoint.symm⟩
    by_contra hne
    have hne' : e ≠ f := fun he => hne (he ▸ rfl)
    exact h.forall he hfm hne' hk hfk

theorem ApartIn.latest_eq (h : ApartIn claims ls) {l : Language} (hl : l ∈ ls) {k : String}
    (hk : k ∈ claims l) : latest claims ls k = some l := by
  have hmap := map_language_numbered ls
  rw [← hmap] at hl
  obtain ⟨e, he, rfl⟩ := List.mem_map.mp hl
  rw [← map_holder?, (holder?_eq_some_iff_of_apart (hmap.symm ▸ h)).mpr ⟨he, hk⟩, Option.map_some]

theorem latest_spec {k : String} {l : Language} (h : latest claims ls k = some l) :
    l ∈ ls ∧ k ∈ claims l := by
  have hm := List.mem_of_find?_eq_some h
  have hk := List.find?_some h
  exact ⟨List.mem_reverse.mp hm, by simpa using hk⟩

theorem ApartIn.latest_perm {ls' : List Language} (h : ApartIn claims ls) (hp : ls.Perm ls')
    (k : String) : latest claims ls' k = latest claims ls k := by
  cases hl : latest claims ls k with
  | none =>
    rw [latest_eq_none_iff] at hl ⊢
    exact fun l hm => hl l (hp.mem_iff.mpr hm)
  | some l =>
    obtain ⟨hm, hk⟩ := latest_spec hl
    exact (h.perm hp).latest_eq (hp.mem_iff.mp hm) hk

theorem latest_append (front back : List Language) (k : String) :
    latest claims (front ++ back) k = (latest claims back k).or (latest claims front k) := by
  rw [latest, List.reverse_append, List.find?_append]
  rfl

theorem free_concat_iff {l new : Language} :
    Free (ls ++ [l]) new ↔ Free ls new ∧ Free [l] new := by
  simp only [free_iff, List.forall_mem_append]

theorem apart_cons_iff {l : Language} :
    Apart (l :: ls) ↔ (∀ x ∈ ls, Free [l] x) ∧ Apart ls := by
  simp only [free_iff, List.forall_mem_singleton]
  constructor
  · rintro ⟨hext, hname⟩
    obtain ⟨hext, hexts⟩ := List.pairwise_cons.mp hext
    obtain ⟨hname, hnames⟩ := List.pairwise_cons.mp hname
    exact ⟨fun x hx => ⟨fun k a b => hext x hx b a, fun k a b => hname x hx b a⟩, hexts, hnames⟩
  · rintro ⟨h, hext, hname⟩
    exact ⟨List.pairwise_cons.mpr ⟨fun x hx k a b => (h x hx).1 k b a, hext⟩,
      List.pairwise_cons.mpr ⟨fun x hx k a b => (h x hx).2 k b a, hname⟩⟩

/-- Languages can be registered one after the other exactly if they are apart and claim nothing that
is claimed already. -/
theorem Follows.foldlM_register_ok_iff (h : Follows c ls) (new : List Language) :
    (∃ c', new.foldlM register c = .ok c') ↔ (∀ l ∈ new, Free ls l) ∧ Apart new := by
  induction new generalizing c ls with
  | nil => exact iff_of_true ⟨c, rfl⟩ ⟨by simp, .nil, .nil⟩
  | cons l new ih =>
    rw [List.foldlM_cons, List.forall_mem_cons, apart_cons_iff]
    by_cases hfree : Free ls l
    · rw [h.register_eq_ok_iff.mpr ⟨hfree, rfl⟩]
      have hsplit : (∀ x ∈ new, Free (ls ++ [l]) x) ↔
          (∀ x ∈ new, Free ls x) ∧ ∀ x ∈ new, Free [l] x := by
        simp only [free_concat_iff]
        exact forall₂_and
      refine (ih (h.insert l)).trans ?_
      rw [hsplit]
      tauto
    · obtain ⟨conflict, hr⟩ := (h.register_error_iff l).mpr hfree
      rw [hr]
      refine iff_of_false ?_ fun hall => hfree hall.1.1
      rintro ⟨c', hc'⟩
      cases hc'

/-! ## One layer of languages over another -/

/-- Does the language claim something that none of the others claims? -/
def keeps (others : List Language) (l : Language) : Bool :=
  l.extensions.any (fun k => others.all fun o => !o.extensions.contains k) ||
    l.fileNames.any fun k => others.all fun o => !o.fileNames.contains k

theorem keeps_iff {others : List Language} {l : Language} :
    keeps others l = true ↔ (∃ k ∈ l.extensions, ∀ o ∈ others, k ∉ o.extensions) ∨
      ∃ k ∈ l.fileNames, ∀ o ∈ others, k ∉ o.fileNames := by
  simp [keeps]

theorem numbered_append (base own : List Language) :
    ∃ es, numbered (base ++ own) = numbered base ++ es ∧ es.map (·.language) = own := by
  refine ⟨_, List.mapIdx_append, ?_⟩
  have hall := map_language_numbered (base ++ own)
  rw [numbered, List.mapIdx_append, List.map_append] at hall
  have hbase := map_language_numbered base
  rw [numbered] at hbase
  rw [hbase] at hall
  exact List.append_cancel_left hall

section
variable {base own : List Language} {es : List Entry}
  (hes : numbered (base ++ own) = numbered base ++ es) (hown : es.map (·.language) = own)
include hes hown

/-- What a language below still holds: its claims that no language above makes. -/
theorem holder?_below_iff (hb : ApartIn claims base) {e : Entry} (he : e ∈ numbered base) :
    (∃ k, holder? claims (numbered (base ++ own)) k = some e) ↔
      ∃ k ∈ claims e.language, ∀ l ∈ own, k ∉ claims l := by
  have hnot : e ∉ es := by
    have hn := numbered_nodup (base ++ own)
    rw [hes] at hn
    exact fun hm => List.disjoint_of_nodup_append hn he hm
  have hbelow : ∀ k, holder? claims (numbered base) k = some e ↔ k ∈ claims e.language := by
    intro k
    rw [holder?_eq_some_iff_of_apart ((map_language_numbered base).symm ▸ hb)]
    exact and_iff_right he
  have hnone : ∀ k, holder? claims es k = none ↔ ∀ l ∈ own, k ∉ claims l := by
    intro k
    rw [holder?_eq_none_iff, ← hown, List.forall_mem_map]
  refine exists_congr fun k => ?_
  rw [hes, holder?_append, Option.or_eq_some_iff, hbelow, hnone]
  constructor
  · rintro (h | ⟨hall, hk⟩)
    · exact absurd (holder?_spec h).1 hnot
    · exact ⟨hk, hall⟩
  · rintro ⟨hk, hall⟩
    exact .inr ⟨hall, hk⟩

/-- A language above holds all that it claims. -/
theorem holder?_above (ho : ApartIn claims own) {e : Entry} (he : e ∈ es) {k : String}
    (hk : k ∈ claims e.language) : holder? claims (numbered (base ++ own)) k = some e := by
  rw [hes, holder?_append, (holder?_eq_some_iff_of_apart (hown.symm ▸ ho)).mpr ⟨he, hk⟩,
    Option.some_or]

end

variable {base own : List Language}

theorem mem_layers_iff (hb : Apart base) {e : Entry} (he : e ∈ numbered base) :
    e ∈ ((base ++ own).foldl layer {}).entries ↔ keeps own e.language = true := by
  obtain ⟨es, hes, hown⟩ := numbered_append base own
  have hall : e ∈ numbered (base ++ own) := hes ▸ List.mem_append_left es he
  rw [layers_entries, List.mem_filter, (layers_follow _).1.holdsClaim_iff hall, keeps_iff,
    holder?_below_iff hes hown hb.extensions he, holder?_below_iff hes hown hb.fileNames he]
  exact and_iff_right hall

/-- The languages above stay, and those below that still hold something. -/
theorem layers_languages (hb : Apart base) (ho : Apart own)
    (hc : ∀ l ∈ own, l.extensions ≠ [] ∨ l.fileNames ≠ []) :
    ((base ++ own).foldl layer {}).entries.map (·.language) = base.filter (keeps own) ++ own := by
  obtain ⟨es, hes, hown⟩ := numbered_append base own
  have hbelow : (numbered base).filter ((base ++ own).foldl layer {}).holdsClaim =
      (numbered base).filter (keeps own ∘ (·.language)) := by
    refine List.filter_congr fun e he => ?_
    rw [Bool.eq_iff_iff, Function.comp_apply, ← mem_layers_iff hb he, layers_entries,
      List.mem_filter, hes]
    exact (and_iff_right (List.mem_append_left es he)).symm
  have habove : es.filter ((base ++ own).foldl layer {}).holdsClaim = es := by
    refine List.filter_eq_self.mpr fun e he => ?_
    have hall : e ∈ numbered (base ++ own) := hes ▸ List.mem_append_right _ he
    rw [(layers_follow _).1.holdsClaim_iff hall]
    refine (hc e.language (hown ▸ List.mem_map_of_mem he)).imp (fun hne => ?_) fun hne => ?_
    · obtain ⟨k, hk⟩ := List.exists_mem_of_ne_nil _ hne
      exact ⟨k, holder?_above hes hown ho.extensions he hk⟩
    · obtain ⟨k, hk⟩ := List.exists_mem_of_ne_nil _ hne
      exact ⟨k, holder?_above hes hown ho.fileNames he hk⟩
  rw [layers_entries, hes, List.filter_append, List.map_append, hbelow, habove, hown,
    ← List.filter_map, map_language_numbered]

end Marginalia.Catalogue
