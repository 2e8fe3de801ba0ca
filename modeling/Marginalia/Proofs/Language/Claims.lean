import Marginalia.Language.Catalogue
import Mathlib.Data.List.Nodup

/-! Who holds what in a catalogue. After any languages have come in, each extension and each file
name is held by the last of them that claims it, and a newcomer is turned away exactly where it
claims what somebody holds. -/
namespace Marginalia.Catalogue
set_option autoImplicit false

/-! ## Tables of claims -/

theorem lookup_filter_ne (table : List (String × Entry)) (k j : String) :
    (table.filter (·.1 ≠ k)).lookup j = if j = k then none else table.lookup j := by
  induction table with
  | nil => simp
  | cons p table ih =>
    obtain ⟨i, e⟩ := p
    by_cases hi : i = k
    · subst hi
      rw [List.filter_cons_of_neg (by simp), ih]
      by_cases hj : j = i
      · simp [hj]
      · have hb : (j == i) = false := beq_false_of_ne hj
        simp [hj, List.lookup_cons, hb]
    · rw [List.filter_cons_of_pos (by simpa using hi), List.lookup_cons, List.lookup_cons, ih]
      by_cases hj : j = i
      · subst hj
        simp [hi]
      · have hb : (j == i) = false := beq_false_of_ne hj
        simp [hb]

theorem lookup_assign (table : List (String × Entry)) (keys : List String) (e : Entry)
    (j : String) :
    (assign table keys e).lookup j = if j ∈ keys then some e else table.lookup j := by
  induction keys generalizing table with
  | nil => simp [assign]
  | cons k keys ih =>
    have hstep : assign table (k :: keys) e =
        assign ((k, e) :: table.filter (·.1 ≠ k)) keys e := rfl
    rw [hstep, ih, List.lookup_cons, lookup_filter_ne]
    by_cases hj : j ∈ keys
    · simp [hj]
    · by_cases hk : j = k
      · simp [hk]
      · have hb : (j == k) = false := beq_false_of_ne hk
        simp [hj, hk, hb]

theorem assign_nodup {table : List (String × Entry)} (h : (table.map (·.1)).Nodup)
    (keys : List String) (e : Entry) : ((assign table keys e).map (·.1)).Nodup := by
  induction keys generalizing table with
  | nil => exact h
  | cons k keys ih =>
    apply ih
    rw [List.map_cons, List.nodup_cons]
    refine ⟨?_, h.sublist (List.filter_sublist.map _)⟩
    intro hm
    obtain ⟨p, hp, hk⟩ := List.mem_map.mp hm
    have hne := (List.mem_filter.mp hp).2
    simp [hk] at hne

theorem lookup_eq_some_of_mem {table : List (String × Entry)} (h : (table.map (·.1)).Nodup)
    {k : String} {e : Entry} (hm : (k, e) ∈ table) : table.lookup k = some e := by
  obtain ⟨front, back, rfl⟩ := List.append_of_mem hm
  rw [List.map_append, List.map_cons, List.nodup_append] at h
  refine List.lookup_eq_some_iff.mpr ⟨front, back, rfl, ?_⟩
  intro p hp
  have hne := h.2.2 p.1 (List.mem_map_of_mem hp) k (List.mem_cons_self ..)
  simpa using hne.symm

theorem mem_of_lookup_eq_some {table : List (String × Entry)} {k : String} {e : Entry}
    (h : table.lookup k = some e) : (k, e) ∈ table := by
  obtain ⟨front, back, rfl, -⟩ := List.lookup_eq_some_iff.mp h
  simp

/-! ## Languages in order of entry -/

/-- The languages as entries, numbered from zero. -/
def numbered (ls : List Language) : List Entry :=
  ls.mapIdx Entry.mk

theorem mem_numbered {ls : List Language} {e : Entry} :
    e ∈ numbered ls ↔ ls[e.number]? = some e.language := by
  rw [numbered, List.mem_mapIdx, List.getElem?_eq_some_iff]
  constructor
  · rintro ⟨i, hi, rfl⟩
    exact ⟨hi, rfl⟩
  · rintro ⟨hi, he⟩
    refine ⟨e.number, hi, ?_⟩
    rw [he]

theorem number_lt_of_mem {ls : List Language} {e : Entry} (h : e ∈ numbered ls) :
    e.number < ls.length :=
  (List.getElem?_eq_some_iff.mp (mem_numbered.mp h)).1

theorem eq_of_number_eq {ls : List Language} {e f : Entry} (he : e ∈ numbered ls)
    (hf : f ∈ numbered ls) (h : e.number = f.number) : e = f := by
  rw [mem_numbered] at he hf
  rw [h, hf, Option.some.injEq] at he
  cases e
  cases f
  simp_all

theorem map_language_numbered (ls : List Language) : (numbered ls).map (·.language) = ls := by
  apply List.ext_getElem?
  intro i
  rw [numbered, List.getElem?_map, List.getElem?_mapIdx, Option.map_map]
  exact Option.map_id'

theorem numbered_concat (ls : List Language) (l : Language) :
    numbered (ls ++ [l]) = numbered ls ++ [⟨ls.length, l⟩] :=
  List.mapIdx_concat

/-! ## The last claim -/

section
variable (claims : Language → List String)

/-- The last language that claims a key. -/
def latest (ls : List Language) (k : String) : Option Language :=
  ls.reverse.find? fun l => (claims l).contains k

/-- The last entry that claims a key. -/
def holder? (es : List Entry) (k : String) : Option Entry :=
  es.reverse.find? fun e => (claims e.language).contains k

theorem holder?_concat (es : List Entry) (e : Entry) (k : String) :
    holder? claims (es ++ [e]) k =
      if k ∈ claims e.language then some e else holder? claims es k := by
  rw [holder?, List.reverse_append, List.reverse_singleton, List.singleton_append, List.find?_cons]
  by_cases hk : k ∈ claims e.language
  · simp [hk]
  · simp [hk, holder?]

theorem holder?_append (es fs : List Entry) (k : String) :
    holder? claims (es ++ fs) k = (holder? claims fs k).or (holder? claims es k) := by
  rw [holder?, List.reverse_append, List.find?_append]
  rfl

theorem map_holder? (ls : List Language) (k : String) :
    (holder? claims (numbered ls) k).map (·.language) = latest claims ls k := by
  conv_rhs => rw [← map_language_numbered ls]
  rw [latest, ← List.map_reverse, List.find?_map]
  rfl

end

variable {claims : Language → List String}

theorem holder?_spec {es : List Entry} {k : String} {e : Entry} (h : holder? claims es k = some e) :
    e ∈ es ∧ k ∈ claims e.language := by
  have hm := List.mem_of_find?_eq_some h
  have hk := List.find?_some h
  exact ⟨List.mem_reverse.mp hm, by simpa using hk⟩

theorem holder?_eq_none_iff {es : List Entry} {k : String} :
    holder? claims es k = none ↔ ∀ e ∈ es, k ∉ claims e.language := by
  simp [holder?]

theorem latest_eq_none_iff {ls : List Language} {k : String} :
    latest claims ls k = none ↔ ∀ l ∈ ls, k ∉ claims l := by
  simp [latest]

/-! ## Catalogues -/

/-- The table says who claimed each key last, and names no key twice. -/
structure Records (claims : Language → List String) (table : List (String × Entry))
    (es : List Entry) : Prop where
  lookup : ∀ k, table.lookup k = holder? claims es k
  nodup : (table.map (·.1)).Nodup

theorem Records.assign {table : List (String × Entry)} {es : List Entry}
    (h : Records claims table es) (e : Entry) :
    Records claims (assign table (claims e.language) e) (es ++ [e]) where
  lookup k := by rw [lookup_assign, holder?_concat, h.lookup]
  nodup := assign_nodup h.nodup _ _

/-- The catalogue stands as it does after the languages came in, one after the other. -/
structure Follows (c : Catalogue) (ls : List Language) : Prop where
  next : c.next = ls.length
  extensions : Records (·.extensions) c.extensions (numbered ls)
  fileNames : Records (·.fileNames) c.fileNames (numbered ls)

theorem follows_empty : Follows {} [] where
  next := rfl
  extensions := ⟨fun _ => rfl, .nil⟩
  fileNames := ⟨fun _ => rfl, .nil⟩

section
variable {c : Catalogue} {ls : List Language} (h : Follows c ls) (l : Language)
include h

theorem Follows.insert : Follows (c.insert l) (ls ++ [l]) where
  next := by simp [Catalogue.insert, h.next]
  extensions := by
    rw [numbered_concat, ← h.next]
    exact h.extensions.assign ⟨c.next, l⟩
  fileNames := by
    rw [numbered_concat, ← h.next]
    exact h.fileNames.assign ⟨c.next, l⟩

/-- Languages that leave take no claims with them. -/
theorem Follows.layer : Follows (c.layer l) (ls ++ [l]) where
  next := (h.insert l).next
  extensions := (h.insert l).extensions
  fileNames := (h.insert l).fileNames

theorem Follows.byExtension? (k : String) :
    c.byExtension? k = latest (·.extensions) ls k := by
  rw [Catalogue.byExtension?, h.extensions.lookup, map_holder?]

theorem Follows.byFileName? (k : String) :
    c.byFileName? k = latest (·.fileNames) ls k := by
  rw [Catalogue.byFileName?, h.fileNames.lookup, map_holder?]

end

theorem byPath?_eq (c : Catalogue) (path : String) :
    c.byPath? path = (Path.fileName? path).bind fun name =>
      (c.byFileName? name).or ((Path.extensionOf? name).bind c.byExtension?) := by
  rw [byPath?]
  cases Path.fileName? path with
  | none => rfl
  | some name =>
    simp only [Option.bind_eq_bind, Option.bind_some]
    cases c.byFileName? name with
    | none => rfl
    | some l => rfl

/-! ## Newcomers -/

theorem firstHeld_eq (table : List (String × Entry)) (keys : List String) :
    firstHeld table keys = keys.findSome? fun k => (table.lookup k).map (k, ·) := by
  induction keys with
  | nil => rfl
  | cons k keys ih =>
    rw [firstHeld, List.findSome?_cons]
    cases table.lookup k with
    | some e => rfl
    | none => exact ih

/-- What is found of the claims: the first that is held, with its holder, or that none is. -/
theorem Records.firstHeld_cases {table : List (String × Entry)} {ls : List Language}
    (h : Records claims table (numbered ls)) (keys : List String) :
    (∃ front k back, keys = front ++ k :: back ∧ (∀ j ∈ front, latest claims ls j = none) ∧
      ∃ e, latest claims ls k = some e.language ∧ firstHeld table keys = some (k, e)) ∨
    ((∀ k ∈ keys, latest claims ls k = none) ∧ firstHeld table keys = none) := by
  have hlook : ∀ k, (table.lookup k).map (·.language) = latest claims ls k := by
    intro k
    rw [h.lookup, map_holder?]
  have hnone : ∀ k, (table.lookup k).map (k, ·) = none → latest claims ls k = none := by
    intro k hk
    rw [← hlook, Option.map_eq_none_iff.mp hk, Option.map_none]
  rw [firstHeld_eq]
  cases hf : keys.findSome? fun k => (table.lookup k).map (k, ·) with
  | none =>
    refine .inr ⟨fun k hk => hnone k (List.findSome?_eq_none_iff.mp hf k hk), rfl⟩
  | some p =>
    obtain ⟨front, k, back, hkeys, hp, hfront⟩ := List.findSome?_eq_some_iff.mp hf
    obtain ⟨e, he, rfl⟩ := Option.map_eq_some_iff.mp hp
    refine .inl ⟨front, k, back, hkeys, fun j hj => hnone j (hfront j hj), e, ?_, rfl⟩
    rw [← hlook, he, Option.map_some]

/-- The languages claim nothing that the newcomer claims. -/
def Free (ls : List Language) (l : Language) : Prop :=
  (∀ k ∈ l.extensions, latest (·.extensions) ls k = none) ∧
    ∀ k ∈ l.fileNames, latest (·.fileNames) ls k = none

/-- A call that ends in a conflict leaves the catalogue as it was. -/
theorem enter_cases (c : Catalogue) (l : Language) :
    (∃ conflict, c.register l = .error conflict ∧ c.enter l = (.error conflict, c)) ∨
      c.register l = .ok (c.insert l) ∧ c.enter l = (.ok (), c.insert l) := by
  rw [register, enter]
  split
  · exact .inl ⟨_, rfl, rfl⟩
  · split
    · exact .inl ⟨_, rfl, rfl⟩
    · exact .inr ⟨rfl, rfl⟩

theorem enter_of_error {c : Catalogue} {l : Language} {conflict : Conflict}
    (h : c.register l = .error conflict) : c.enter l = (.error conflict, c) := by
  obtain ⟨conflict', he, hr⟩ | ⟨he, -⟩ := enter_cases c l
  · rw [h] at he
    cases he
    exact hr
  · rw [h] at he
    cases he

theorem enter_of_ok {c c' : Catalogue} {l : Language} (h : c.register l = .ok c') :
    c.enter l = (.ok (), c') := by
  obtain ⟨_, he, -⟩ | ⟨he, hr⟩ := enter_cases c l
  · rw [h] at he
    cases he
  · rw [h] at he
    cases he
    exact hr

/-- What becomes of a newcomer. -/
theorem Follows.register_cases {c : Catalogue} {ls : List Language} (h : Follows c ls)
    (l : Language) :
    (∃ front k back holder, l.extensions = front ++ k :: back ∧
      (∀ j ∈ front, latest (·.extensions) ls j = none) ∧
      latest (·.extensions) ls k = some holder ∧
      c.register l = .error (.extension k holder.name l.name)) ∨
    ((∀ k ∈ l.extensions, latest (·.extensions) ls k = none) ∧
      ∃ front k back holder, l.fileNames = front ++ k :: back ∧
      (∀ j ∈ front, latest (·.fileNames) ls j = none) ∧
      latest (·.fileNames) ls k = some holder ∧
      c.register l = .error (.fileName k holder.name l.name)) ∨
    (Free ls l ∧ c.register l = .ok (c.insert l)) := by
  rw [register, enter]
  obtain ⟨front, k, back, hkeys, hfront, e, hk, hf⟩ | ⟨hext, hf⟩ :=
    h.extensions.firstHeld_cases l.extensions
  · exact .inl ⟨front, k, back, e.language, hkeys, hfront, hk, by rw [hf]; rfl⟩
  · obtain ⟨front, k, back, hkeys, hfront, e, hk, hg⟩ | ⟨hname, hg⟩ :=
      h.fileNames.firstHeld_cases l.fileNames
    · exact .inr (.inl ⟨hext, front, k, back, e.language, hkeys, hfront, hk, by rw [hf, hg]; rfl⟩)
    · exact .inr (.inr ⟨⟨hext, hname⟩, by rw [hf, hg]; rfl⟩)

end Marginalia.Catalogue
