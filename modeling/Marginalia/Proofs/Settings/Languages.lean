import Marginalia.Proofs.Language.Layers
import Marginalia.Settings

/-! The languages of settings over the known ones: what settings claim is theirs, all else stays as it
was known, and the order in which they name their languages does not matter. -/
namespace Marginalia.Settings
open Catalogue
set_option autoImplicit false

/-! ## Settings without errors -/

/-- A language that settings may hold, apart from conflicts with others. -/
structure Valid (l : Language) : Prop where
  named : Text.allBlank l.name.toList = false
  claims : l.extensions ≠ [] ∨ l.fileNames ≠ []
  marked : emptyMarker? l = none

theorem languageError?_eq_none_iff (index : Nat) (l : Language) :
    languageError? index l = none ↔ Valid l := by
  have hclaims : (l.extensions.isEmpty && l.fileNames.isEmpty) = true ↔
      ¬ (l.extensions ≠ [] ∨ l.fileNames ≠ []) := by
    simp [not_or]
  rw [languageError?]
  by_cases hn : Text.allBlank l.name.toList = true
  · rw [if_pos hn]
    refine iff_of_false (by simp) fun hv => ?_
    rw [hv.named] at hn
    cases hn
  · rw [if_neg hn]
    by_cases hc : (l.extensions.isEmpty && l.fileNames.isEmpty) = true
    · rw [if_pos hc]
      exact iff_of_false (by simp) fun hv => hclaims.mp hc hv.claims
    · rw [if_neg hc, Option.map_eq_none_iff]
      exact ⟨fun hm => ⟨by simpa using hn, not_not.mp fun h => hc (hclaims.mpr h), hm⟩,
        fun hv => hv.marked⟩

theorem languagesError?_eq_none_iff (index : Nat) (ls : List Language) :
    languagesError? index ls = none ↔ ∀ l ∈ ls, Valid l := by
  induction ls generalizing index with
  | nil => simp [languagesError?]
  | cons l ls ih =>
    rw [languagesError?, List.forall_mem_cons, ← languageError?_eq_none_iff index l,
      ← ih (index + 1)]
    cases languageError? index l with
    | some e => simp
    | none => simp

/-- Settings are in order exactly if their jobs and languages are, and no two languages have a claim in
common. -/
theorem error?_eq_none_iff {s : Settings} :
    s.error? = none ↔ s.jobs ≠ some 0 ∧ (∀ l ∈ s.languages, Valid l) ∧ Apart s.languages := by
  have hok : (∃ c, s.languages.foldlM register {} = .ok c) ↔ Apart s.languages := by
    rw [follows_empty.foldlM_register_ok_iff]
    exact and_iff_right fun l _ => free_iff.mpr (by simp)
  rw [error?, ← languagesError?_eq_none_iff 0, ← hok]
  by_cases hj : s.jobs = some 0
  · simp [hj]
  · rw [if_neg hj]
    cases languagesError? 0 s.languages with
    | some e => simp
    | none =>
      cases s.languages.foldlM register {} with
      | ok c => simp [hj]
      | error e => simp

/-! ## Layers of settings -/

@[simp] theorem extensions_withHighlighter (l : Language) :
    (withHighlighter l).extensions = l.extensions := by
  unfold withHighlighter
  split <;> rfl

@[simp] theorem fileNames_withHighlighter (l : Language) :
    (withHighlighter l).fileNames = l.fileNames := by
  unfold withHighlighter
  split <;> rfl

/-- The languages of settings as they enter the catalogue. -/
def own (s : Settings) : List Language :=
  s.languages.map withHighlighter

theorem catalogue_eq (s : Settings) :
    s.catalogue = (Language.builtins ++ s.own).foldl layer {} := by
  rw [catalogue, builtin, own, List.foldl_append, List.foldl_map]

theorem follows_builtin : Follows builtin Language.builtins :=
  (layers_follow Language.builtins).1

theorem follows_catalogue (s : Settings) : Follows s.catalogue (Language.builtins ++ s.own) := by
  rw [catalogue_eq]
  exact (layers_follow _).1

theorem builtins_apart : Apart Language.builtins where
  extensions := (List.nodup_flatMap.mp (by decide +kernel)).2
  fileNames := (List.nodup_flatMap.mp (by decide +kernel)).2

theorem own_apart {s : Settings} (h : Apart s.languages) : Apart s.own where
  extensions := by simpa [ApartIn, own, List.pairwise_map] using h.extensions
  fileNames := by simpa [ApartIn, own, List.pairwise_map] using h.fileNames

theorem keeps_own (s : Settings) : keeps s.own = keeps s.languages := by
  funext l
  simp [keeps, own, List.all_map, Function.comp_def]

section
variable {claims : Language → List String} {s : Settings} {k : String}
  (hclaims : ∀ l, claims (withHighlighter l) = claims l)
include hclaims

theorem latest_of_own (h : ApartIn claims s.own) {l : Language} (hl : l ∈ s.languages)
    (hk : k ∈ claims l) :
    latest claims (Language.builtins ++ s.own) k = some (withHighlighter l) := by
  rw [latest_append, h.latest_eq (List.mem_map_of_mem hl) ((hclaims l).symm ▸ hk), Option.some_or]

theorem latest_of_other (h : ∀ l ∈ s.languages, k ∉ claims l) :
    latest claims (Language.builtins ++ s.own) k = latest claims Language.builtins k := by
  have hnone : latest claims s.own k = none := by
    rw [latest_eq_none_iff, own, List.forall_mem_map]
    intro l hl
    rw [hclaims]
    exact h l hl
  rw [latest_append, hnone, Option.none_or]

end

/-! ## Another order -/

theorem own_perm {s t : Settings} (h : s.languages.Perm t.languages) : s.own.Perm t.own :=
  h.map withHighlighter

theorem keeps_perm {ls ls' : List Language} (h : ls.Perm ls') : keeps ls = keeps ls' := by
  funext l
  rw [Bool.eq_iff_iff, keeps_iff, keeps_iff]
  simp only [h.mem_iff]

theorem byPath?_perm {s t : Settings} (hs : Apart s.languages)
    (h : s.languages.Perm t.languages) (path : String) :
    t.catalogue.byPath? path = s.catalogue.byPath? path := by
  have hext : t.catalogue.byExtension? = s.catalogue.byExtension? := by
    funext k
    rw [(follows_catalogue t).byExtension?, (follows_catalogue s).byExtension?, latest_append,
      latest_append, (own_apart hs).extensions.latest_perm (own_perm h)]
  have hname : t.catalogue.byFileName? = s.catalogue.byFileName? := by
    funext k
    rw [(follows_catalogue t).byFileName?, (follows_catalogue s).byFileName?, latest_append,
      latest_append, (own_apart hs).fileNames.latest_perm (own_perm h)]
  rw [byPath?_eq, byPath?_eq, hext, hname]

/-! ## Results -/

/-- The languages of a catalogue: the known ones that still hold something, and those of the
settings. -/
theorem entries_languages {s : Settings} (hs : s.error? = none) :
    s.catalogue.entries.map (·.language) =
      Language.builtins.filter (keeps s.languages) ++ s.own := by
  obtain ⟨-, hvalid, hapart⟩ := error?_eq_none_iff.mp hs
  have hclaims : ∀ l ∈ s.own, l.extensions ≠ [] ∨ l.fileNames ≠ [] := by
    rw [own, List.forall_mem_map]
    intro l hl
    simpa using (hvalid l hl).claims
  rw [catalogue_eq, layers_languages builtins_apart (own_apart hapart) hclaims, keeps_own]

theorem size_perm {s t : Settings} (hs : s.error? = none) (ht : t.error? = none)
    (h : s.languages.Perm t.languages) : t.catalogue.size = s.catalogue.size := by
  have hlen : ∀ u : Settings, u.catalogue.size = (u.catalogue.entries.map (·.language)).length :=
    fun u => (List.length_map _).symm
  rw [hlen, hlen, entries_languages hs, entries_languages ht, List.length_append,
    List.length_append, (own_perm h).length_eq, keeps_perm h]

/-- Settings in order take what they claim and leave all else as it was known. Their languages all
enter, a known language leaves exactly if they claim all it claims, and the order in which they stand
makes no difference. -/
theorem catalogue_layers {s : Settings} (hs : s.error? = none) :
    (∀ l ∈ s.languages,
      (∀ k ∈ l.extensions, s.catalogue.byExtension? k = some (withHighlighter l)) ∧
      (∀ k ∈ l.fileNames, s.catalogue.byFileName? k = some (withHighlighter l) ∧
        ∀ path, Path.fileName? path = some k →
          s.catalogue.byPath? path = some (withHighlighter l)) ∧
      withHighlighter l ∈ s.catalogue.languages) ∧
    (∀ k, (∀ l ∈ s.languages, k ∉ l.extensions) →
      s.catalogue.byExtension? k = builtin.byExtension? k) ∧
    (∀ k, (∀ l ∈ s.languages, k ∉ l.fileNames) →
      s.catalogue.byFileName? k = builtin.byFileName? k) ∧
    (∀ e ∈ builtin.entries, e ∈ s.catalogue.entries ↔
      (∃ k ∈ e.language.extensions, ∀ l ∈ s.languages, k ∉ l.extensions) ∨
        ∃ k ∈ e.language.fileNames, ∀ l ∈ s.languages, k ∉ l.fileNames) ∧
    s.catalogue.languages.Perm
      (Language.builtins.filter (keeps s.languages) ++ s.languages.map withHighlighter) ∧
    ∀ ls, ls.Perm s.languages →
      ({ s with languages := ls } : Settings).error? = none ∧
      (∀ path, ({ s with languages := ls } : Settings).catalogue.byPath? path =
        s.catalogue.byPath? path) ∧
      ({ s with languages := ls } : Settings).catalogue.size = s.catalogue.size := by
  obtain ⟨hjobs, hvalid, hapart⟩ := error?_eq_none_iff.mp hs
  have hlanguages := (List.mergeSort_perm (s.catalogue.entries.map (·.language))
    fun a b => Text.lower a.name ≤ Text.lower b.name).trans (.of_eq (entries_languages hs))
  refine ⟨fun l hl => ⟨fun k hk => ?_, fun k hk => ?_, ?_⟩, fun k hk => ?_, fun k hk => ?_,
    fun e he => ?_, hlanguages, fun ls hp => ?_⟩
  · rw [(follows_catalogue s).byExtension?]
    exact latest_of_own extensions_withHighlighter (own_apart hapart).extensions hl hk
  · have hname : s.catalogue.byFileName? k = some (withHighlighter l) := by
      rw [(follows_catalogue s).byFileName?]
      exact latest_of_own fileNames_withHighlighter (own_apart hapart).fileNames hl hk
    refine ⟨hname, fun path hpath => ?_⟩
    rw [byPath?_eq, hpath, Option.bind_some, hname, Option.some_or]
  · exact hlanguages.mem_iff.mpr (List.mem_append_right _ (List.mem_map_of_mem hl))
  · rw [(follows_catalogue s).byExtension?, follows_builtin.byExtension?]
    exact latest_of_other extensions_withHighlighter hk
  · rw [(follows_catalogue s).byFileName?, follows_builtin.byFileName?]
    exact latest_of_other fileNames_withHighlighter hk
  · have hmem : e ∈ numbered Language.builtins := (layers_follow _).2.sublist.mem he
    rw [catalogue_eq, mem_layers_iff builtins_apart hmem, keeps_own, keeps_iff]
  · have ht : ({ s with languages := ls } : Settings).error? = none :=
      error?_eq_none_iff.mpr ⟨hjobs, fun l hl => hvalid l (hp.mem_iff.mp hl), hapart.perm hp.symm⟩
    exact ⟨ht, byPath?_perm hapart hp.symm, size_perm hs ht hp.symm⟩

/-- A language in the place of a known one, and one that takes a file name from another. -/
theorem catalogue_layers_python : ∃ s : Settings, s.error? = none ∧
    s.languages = [{ name := "MyPython", extensions := ["py", "pyw", "pyi"] },
      { name := "Tasks", fileNames := ["Makefile"], highlighter := "make" }] ∧
    (s.catalogue.byExtension? "pyi").map (·.highlighter) = some "mypython" ∧
    (s.catalogue.byPath? "src/Makefile").map (·.name) = some "Tasks" ∧
    s.catalogue.byExtension? "mk" = builtin.byExtension? "mk" := by
  have hs : ({ languages := [{ name := "MyPython", extensions := ["py", "pyw", "pyi"] },
      { name := "Tasks", fileNames := ["Makefile"], highlighter := "make" }] } : Settings).error? =
        none := by decide +kernel
  obtain ⟨hown, hother, -⟩ := catalogue_layers hs
  refine ⟨_, hs, rfl, ?_, ?_, hother "mk" (by decide)⟩
  · rw [(hown _ (.head _)).1 "pyi" (by decide)]
    decide +kernel
  · rw [((hown _ (.tail _ (.head _))).2.1 "Makefile" (by decide)).2 "src/Makefile" (by decide +kernel)]
    decide +kernel

end Marginalia.Settings
