import Marginalia.Proofs.Language.Layers
import Mathlib.Data.List.Dedup

/-! The list of languages and the tables of claims agree after every call. Whoever is found by an
extension or a file name is listed once, and after a layer nobody else is listed. -/
namespace Marginalia.Catalogue
set_option autoImplicit false

variable {c c' : Catalogue} {ls : List Language} {e : Entry} {l : Language}

/-! ## Holders -/

/-- The entry holds an extension or a file name. -/
def Holds (c : Catalogue) (e : Entry) : Prop :=
  (∃ k, c.extensions.lookup k = some e) ∨ ∃ k, c.fileNames.lookup k = some e

/-- The language claims neither extensions nor file names. -/
def Claimless (l : Language) : Prop :=
  l.extensions = [] ∧ l.fileNames = []

/-- The language claims all that the entry holds. -/
structure Takes (c : Catalogue) (l : Language) (e : Entry) : Prop where
  extensions : ∀ k, c.extensions.lookup k = some e → k ∈ l.extensions
  fileNames : ∀ k, c.fileNames.lookup k = some e → k ∈ l.fileNames

theorem lookup_extensions_insert (c : Catalogue) (l : Language) (k : String) :
    (c.insert l).extensions.lookup k =
      if k ∈ l.extensions then some ⟨c.next, l⟩ else c.extensions.lookup k :=
  lookup_assign ..

theorem lookup_fileNames_insert (c : Catalogue) (l : Language) (k : String) :
    (c.insert l).fileNames.lookup k =
      if k ∈ l.fileNames then some ⟨c.next, l⟩ else c.fileNames.lookup k :=
  lookup_assign ..

theorem holds_newcomer (c : Catalogue) (h : ¬ Claimless l) : Holds (c.insert l) ⟨c.next, l⟩ := by
  obtain hne | hne := not_and_or.mp h
  · obtain ⟨k, hk⟩ := List.exists_mem_of_ne_nil _ hne
    exact .inl ⟨k, by rw [lookup_extensions_insert, if_pos hk]⟩
  · obtain ⟨k, hk⟩ := List.exists_mem_of_ne_nil _ hne
    exact .inr ⟨k, by rw [lookup_fileNames_insert, if_pos hk]⟩

/-- Who loses everything to a newcomer had nothing that the newcomer does not claim. -/
theorem takes_of_not_holds (h : ¬ Holds (c.insert l) e) : Takes c l e := by
  refine ⟨fun k hk => ?_, fun k hk => ?_⟩
  · by_contra hno
    exact h (.inl ⟨k, by rw [lookup_extensions_insert, if_neg hno, hk]⟩)
  · by_contra hno
    exact h (.inr ⟨k, by rw [lookup_fileNames_insert, if_neg hno, hk]⟩)

theorem Records.mem_of_lookup {claims : Language → List String} {table : List (String × Entry)}
    (h : Records claims table (numbered ls)) {k : String} (hk : table.lookup k = some e) :
    e ∈ numbered ls ∧ k ∈ claims e.language := by
  rw [h.lookup] at hk
  exact holder?_spec hk

theorem Follows.mem_of_holds (h : Follows c ls) (he : Holds c e) : e ∈ numbered ls := by
  obtain ⟨k, hk⟩ | ⟨k, hk⟩ := he
  · exact (h.extensions.mem_of_lookup hk).1
  · exact (h.fileNames.mem_of_lookup hk).1

theorem Follows.holdsClaim_iff_holds (h : Follows c ls) (he : e ∈ numbered ls) :
    c.holdsClaim e = true ↔ Holds c e := by
  rw [h.holdsClaim_iff he, Holds]
  simp only [h.extensions.lookup, h.fileNames.lookup]

/-- A newcomer whose claims are free takes nothing from anybody. -/
theorem Records.lookup_assign_of_free {claims : Language → List String}
    {table : List (String × Entry)} (h : Records claims table (numbered ls))
    (hfree : ∀ k ∈ claims l, latest claims ls k = none) {k : String} (hk : table.lookup k = some e)
    (new : Entry) : (Catalogue.assign table (claims l) new).lookup k = some e := by
  have hno : k ∉ claims l := by
    intro hmem
    have hnone := hfree k hmem
    rw [← map_holder?, ← h.lookup, hk] at hnone
    cases hnone
  rw [lookup_assign, if_neg hno, hk]

theorem Follows.holds_insert_of_free (h : Follows c ls) (hfree : Free ls l) (he : Holds c e) :
    Holds (c.insert l) e := by
  obtain ⟨k, hk⟩ | ⟨k, hk⟩ := he
  · exact .inl ⟨k, h.extensions.lookup_assign_of_free hfree.1 hk _⟩
  · exact .inr ⟨k, h.fileNames.lookup_assign_of_free hfree.2 hk _⟩

/-! ## All calls -/

/-- The catalogue after the languages came in: all holders are among its entries, and the other
entries never claimed anything. -/
structure Orderly (c : Catalogue) (ls : List Language) : Prop where
  follows : Follows c ls
  lists : Lists c ls
  live : ∀ e ∈ c.entries, Holds c e ∨ Claimless e.language

theorem orderly_empty : Orderly {} [] := ⟨follows_empty, lists_empty, by simp⟩

theorem Orderly.insert (h : Orderly c ls) (hfree : Free ls l) : Orderly (c.insert l) (ls ++ [l]) where
  follows := h.follows.insert l
  lists := Lists.insert h.follows h.lists l
  live e he := by
    obtain he | he := List.mem_append.mp he
    · exact (h.live e he).imp_left (h.follows.holds_insert_of_free hfree)
    · rw [List.mem_singleton.mp he, or_iff_not_imp_right]
      exact holds_newcomer c

theorem Orderly.mem_entries_layer_iff (h : Orderly c ls) (l : Language) :
    e ∈ (c.layer l).entries ↔ Holds (c.layer l) e := by
  have hlayer := h.follows.layer l
  rw [Lists.layer_entries h.follows h.lists l, List.mem_filter]
  constructor
  · rintro ⟨hmem, hc⟩
    exact (hlayer.holdsClaim_iff_holds hmem).mp hc
  · intro he
    have hmem := hlayer.mem_of_holds he
    exact ⟨hmem, (hlayer.holdsClaim_iff_holds hmem).mpr he⟩

theorem Orderly.layer (h : Orderly c ls) (l : Language) : Orderly (c.layer l) (ls ++ [l]) where
  follows := h.follows.layer l
  lists := Lists.layer h.follows h.lists l
  live _ he := .inl ((h.mem_entries_layer_iff l).mp he)

/-- A call brings its language in, by either way, or it changes nothing. -/
theorem Orderly.after_singleton_cases (h : Orderly c ls) (call : Call) :
    (∃ l, call = .register l ∧ Free ls l ∧ after c [call] = c.insert l ∧ accepted c [call] = [l]) ∨
    (∃ l, call = .layer l ∧ after c [call] = c.layer l ∧ accepted c [call] = [l]) ∨
    (after c [call] = c ∧ accepted c [call] = []) := by
  cases call with
  | layer l => exact .inr (.inl ⟨l, rfl, rfl, rfl⟩)
  | register l =>
    cases hr : c.register l with
    | ok c' =>
      obtain ⟨hfree, rfl⟩ := h.follows.register_eq_ok_iff.mp hr
      have he := enter_of_ok hr
      refine .inl ⟨l, rfl, hfree, ?_, ?_⟩
      · simp only [after, Call.run, he]
      · simp only [accepted, Call.run, he, Call.language]
    | error conflict =>
      have he := enter_of_error hr
      refine .inr (.inr ⟨?_, ?_⟩)
      · simp only [after, Call.run, he]
      · simp only [accepted, Call.run, he]

theorem accepted_append (c : Catalogue) (calls later : List Call) :
    accepted c (calls ++ later) = accepted c calls ++ accepted (after c calls) later := by
  induction calls generalizing c with
  | nil => rfl
  | cons call calls ih =>
    rw [List.cons_append, accepted, accepted, after]
    cases (call.run c).1 with
    | ok _ => exact congrArg (call.language :: ·) (ih _)
    | error conflict => exact ih _

theorem Orderly.call (h : Orderly c ls) (call : Call) :
    Orderly (after c [call]) (ls ++ accepted c [call]) := by
  obtain ⟨l, -, hfree, hc, ha⟩ | ⟨l, -, hc, ha⟩ | ⟨hc, ha⟩ := h.after_singleton_cases call
  · rw [hc, ha]
    exact h.insert hfree
  · rw [hc, ha]
    exact h.layer l
  · rw [hc, ha, List.append_nil]
    exact h

theorem orderly_after (calls : List Call) : Orderly (after {} calls) (accepted {} calls) := by
  induction calls using List.reverseRecOn with
  | nil => exact orderly_empty
  | append_singleton calls call ih =>
    rw [after_append, accepted_append]
    exact ih.call call

/-! ## The list -/

/-- The entries in the order in which their languages are listed. -/
def listed (c : Catalogue) : List Entry :=
  c.entries.mergeSort fun a b => Text.lower a.language.name ≤ Text.lower b.language.name

theorem listed_perm (c : Catalogue) : c.listed.Perm c.entries :=
  List.mergeSort_perm ..

theorem languages_eq (c : Catalogue) : c.languages = c.listed.map (·.language) := by
  rw [languages, listed, List.map_mergeSort]
  exact fun _ _ _ _ => rfl

/-- The entry is listed, and nothing else under its number. -/
def ListedOnce (c : Catalogue) (e : Entry) : Prop :=
  e ∈ c.listed ∧ (c.listed.map (·.number)).count e.number = 1

theorem Orderly.numbers_nodup (h : Orderly c ls) : (c.entries.map (·.number)).Nodup := by
  refine (h.lists.sublist.nodup (numbered_nodup ls)).map_on fun a ha b hb hab => ?_
  exact eq_of_number_eq (h.lists.sublist.subset ha) (h.lists.sublist.subset hb) hab

theorem Orderly.listedOnce (h : Orderly c ls) (he : Holds c e) : ListedOnce c e := by
  have hmem := h.follows.mem_of_holds he
  have hlisted : e ∈ c.listed := by
    rw [c.listed_perm.mem_iff]
    exact h.lists.holders e hmem ((h.follows.holdsClaim_iff_holds hmem).mpr he)
  refine ⟨hlisted, List.count_eq_one_of_mem ?_ (List.mem_map_of_mem hlisted)⟩
  exact (c.listed_perm.map _).nodup_iff.mpr h.numbers_nodup

/-- Whose numbers stand in the tables. -/
def holders (c : Catalogue) : List Nat :=
  ((c.extensions ++ c.fileNames).map (·.2.number)).dedup

theorem Orderly.mem_holders_iff (h : Orderly c ls) {n : Nat} :
    n ∈ c.holders ↔ ∃ e, Holds c e ∧ e.number = n := by
  rw [holders, List.mem_dedup, List.mem_map]
  constructor
  · rintro ⟨⟨k, e⟩, hm, rfl⟩
    refine ⟨e, ?_, rfl⟩
    obtain hm | hm := List.mem_append.mp hm
    · exact .inl ⟨k, lookup_eq_some_of_mem h.follows.extensions.nodup hm⟩
    · exact .inr ⟨k, lookup_eq_some_of_mem h.follows.fileNames.nodup hm⟩
  · rintro ⟨e, ⟨k, hk⟩ | ⟨k, hk⟩, rfl⟩
    · exact ⟨(k, e), List.mem_append_left _ (mem_of_lookup_eq_some hk), rfl⟩
    · exact ⟨(k, e), List.mem_append_right _ (mem_of_lookup_eq_some hk), rfl⟩

/-- After a layer there are as many languages as holders. -/
theorem Orderly.size_layer (h : Orderly c ls) (l : Language) :
    (c.layer l).size = (c.layer l).holders.length := by
  have hsame : ((c.layer l).entries.map (·.number)).Perm (c.layer l).holders := by
    have hnodup : (c.layer l).holders.Nodup := List.nodup_dedup _
    refine (List.perm_ext_iff_of_nodup (h.layer l).numbers_nodup hnodup).mpr fun n => ?_
    rw [(h.layer l).mem_holders_iff, List.mem_map]
    simp only [h.mem_entries_layer_iff]
  rw [size, ← hsame.length_eq, List.length_map]

theorem Orderly.newcomer_listed_iff (h : Orderly c ls) (l : Language) :
    ⟨ls.length, l⟩ ∈ (c.layer l).listed ↔ ¬ Claimless l := by
  rw [(c.layer l).listed_perm.mem_iff, h.mem_entries_layer_iff, ← h.follows.next]
  refine ⟨?_, holds_newcomer c⟩
  rintro he ⟨hext, hname⟩
  obtain ⟨k, hk⟩ | ⟨k, hk⟩ := he
  · have hmem := ((h.follows.layer l).extensions.mem_of_lookup hk).2
    rw [hext] at hmem
    cases hmem
  · have hmem := ((h.follows.layer l).fileNames.mem_of_lookup hk).2
    rw [hname] at hmem
    cases hmem

/-- Who leaves the list has just lost all that it held, unless it never claimed anything. -/
theorem Orderly.dropped (h : Orderly c ls) {call : Call} (he : e ∈ c.listed)
    (hno : e ∉ (after c [call]).listed) :
    ∃ l, call = .layer l ∧ ¬ Holds (after c [call]) e ∧
      (Holds c e ∧ Takes c l e ∨ Claimless e.language) := by
  rw [(listed_perm _).mem_iff] at he hno
  obtain ⟨l, -, -, hc, -⟩ | ⟨l, hcall, hc, -⟩ | ⟨hc, -⟩ := h.after_singleton_cases call
  · rw [hc] at hno
    exact absurd (List.mem_append_left _ he) hno
  · rw [hc, h.mem_entries_layer_iff] at hno
    refine ⟨l, hcall, hc ▸ hno, (h.live e he).imp_left fun hheld => ⟨hheld, ?_⟩⟩
    exact takes_of_not_holds hno
  · rw [hc] at hno
    exact absurd he hno

/-! ## What is looked up -/

/-- The key leads to an entry of the language, which claims the key and is listed once. -/
def Leads (c : Catalogue) (claims : Language → List String) (table : List (String × Entry))
    (k : String) (l : Language) : Prop :=
  ∃ e, table.lookup k = some e ∧ e.language = l ∧ k ∈ claims l ∧ ListedOnce c e

theorem Orderly.leads (h : Orderly c ls) {claims : Language → List String}
    {table : List (String × Entry)} (hr : Records claims table (numbered ls)) {k : String}
    (hholds : ∀ e, table.lookup k = some e → Holds c e)
    (hk : (table.lookup k).map (·.language) = some l) : Leads c claims table k l := by
  obtain ⟨e, he, rfl⟩ := Option.map_eq_some_iff.mp hk
  exact ⟨e, he, rfl, (hr.mem_of_lookup he).2, h.listedOnce (hholds e he)⟩

theorem Orderly.leads_byExtension? (h : Orderly c ls) {k : String} (hk : c.byExtension? k = some l) :
    Leads c (·.extensions) c.extensions k l :=
  h.leads h.follows.extensions (fun _ he => .inl ⟨k, he⟩) hk

theorem Orderly.leads_byFileName? (h : Orderly c ls) {k : String} (hk : c.byFileName? k = some l) :
    Leads c (·.fileNames) c.fileNames k l :=
  h.leads h.follows.fileNames (fun _ he => .inr ⟨k, he⟩) hk

theorem Orderly.leads_byPath? (h : Orderly c ls) {path : String} (hp : c.byPath? path = some l) :
    ∃ name, Path.fileName? path = some name ∧
      (Leads c (·.fileNames) c.fileNames name l ∨
        ∃ x, Path.extensionOf? name = some x ∧ Leads c (·.extensions) c.extensions x l) := by
  rw [byPath?_eq] at hp
  obtain ⟨name, hname, hl⟩ := Option.bind_eq_some_iff.mp hp
  obtain hl | ⟨-, hl⟩ := Option.or_eq_some_iff.mp hl
  · exact ⟨name, hname, .inl (h.leads_byFileName? hl)⟩
  · obtain ⟨x, hx, hl⟩ := Option.bind_eq_some_iff.mp hl
    exact ⟨name, hname, .inr ⟨x, hx, h.leads_byExtension? hl⟩⟩

/-- After any calls, each language that can be found is listed once and claims what it is found under.
A layer leaves exactly those in the list that hold something, so their number is that of the holders;
it keeps out a newcomer without claims, and drops an entry that had claims only with the last of
them. -/
theorem listed_languages_hold_claims (calls : List Call) :
    ((after {} calls).languages = (after {} calls).listed.map (·.language) ∧
      ∀ e ∈ (after {} calls).listed, (accepted {} calls)[e.number]? = some e.language) ∧
    ((∀ k l, (after {} calls).byExtension? k = some l →
        Leads (after {} calls) (·.extensions) (after {} calls).extensions k l) ∧
      (∀ k l, (after {} calls).byFileName? k = some l →
        Leads (after {} calls) (·.fileNames) (after {} calls).fileNames k l) ∧
      ∀ path l, (after {} calls).byPath? path = some l → ∃ name, Path.fileName? path = some name ∧
        (Leads (after {} calls) (·.fileNames) (after {} calls).fileNames name l ∨
          ∃ x, Path.extensionOf? name = some x ∧
            Leads (after {} calls) (·.extensions) (after {} calls).extensions x l)) ∧
    (∀ l, (∀ e, e ∈ (after {} (calls ++ [.layer l])).listed ↔
        Holds (after {} (calls ++ [.layer l])) e) ∧
      (after {} (calls ++ [.layer l])).size = (after {} (calls ++ [.layer l])).holders.length ∧
      (⟨(accepted {} calls).length, l⟩ ∈ (after {} (calls ++ [.layer l])).listed ↔
        ¬ Claimless l)) ∧
    ∀ call, ∀ e ∈ (after {} calls).listed, e ∉ (after {} (calls ++ [call])).listed →
      ∃ l, call = .layer l ∧ ¬ Holds (after {} (calls ++ [call])) e ∧
        (Holds (after {} calls) e ∧ Takes (after {} calls) l e ∨ Claimless e.language) := by
  have h := orderly_after calls
  simp only [after_append]
  refine ⟨⟨languages_eq _, fun e he => ?_⟩, ⟨fun k l => h.leads_byExtension?,
    fun k l => h.leads_byFileName?, fun path l => h.leads_byPath?⟩, fun l => ⟨fun e => ?_, ?_, ?_⟩,
    fun call e he => h.dropped he⟩
  · rw [← mem_numbered]
    exact h.lists.sublist.subset ((listed_perm _).mem_iff.mp he)
  · exact (listed_perm _).mem_iff.trans (h.mem_entries_layer_iff l)
  · exact h.size_layer l
  · exact h.newcomer_listed_iff l

/-- A language loses one extension, is still found by the other, and leaves the list with that. -/
theorem listed_languages_hold_claims_takeover :
    ∃ calls, calls = [.register { Language.named "Old" with extensions := ["x", "y"] },
        .layer { Language.named "New" with extensions := ["x"] }] ∧
      Leads (after {} calls) (·.extensions) (after {} calls).extensions "y"
        { Language.named "Old" with extensions := ["x", "y"] } ∧
      Takes (after {} calls) { Language.named "Last" with extensions := ["y"] }
        ⟨0, { Language.named "Old" with extensions := ["x", "y"] }⟩ := by
  obtain ⟨-, ⟨hext, -⟩, -, hdrop⟩ := listed_languages_hold_claims
    [.register { Language.named "Old" with extensions := ["x", "y"] },
      .layer { Language.named "New" with extensions := ["x"] }]
  refine ⟨_, rfl, hext "y" _ rfl, ?_⟩
  obtain ⟨l, hl, -, ⟨-, htakes⟩ | ⟨hclaimless, -⟩⟩ :=
    hdrop (.layer { Language.named "Last" with extensions := ["y"] })
      ⟨0, { Language.named "Old" with extensions := ["x", "y"] }⟩
      ((listed_perm _).mem_iff.mpr (by decide))
      (fun h => absurd ((listed_perm _).mem_iff.mp h) (by decide))
  · cases hl
    exact htakes
  · cases hclaimless

end Marginalia.Catalogue
