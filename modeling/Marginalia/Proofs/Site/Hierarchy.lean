import Marginalia.Proofs.Path.Normal
import Marginalia.Proofs.Site.Descent
import Marginalia.Proofs.Site.Sorting

/-! The folders of a site. Three accounts of them agree: where the nodes of the contents stand, the
paths that directories carry, and the places of the documents. Looking a directory up finds it if and
only if documents lie below it, and its documents are a stretch of all documents. -/
namespace Marginalia
set_option autoImplicit false

/-! ## Numbered contents -/

namespace Contents
variable {α : Type}

mutual

theorem entries_number (n : Nat) (c : Contents α) :
    (c.number n).1.entries = (c.entries.zipIdx n).map fun e => (e.1.1, e.2) := by
  match c with
  | .file name value => rfl
  | .directory name path children =>
    have hall := entriesAll_numberAll n children
    rw [number, entries, entries, hall, List.zipIdx_map, List.map_map, List.map_map]
    rfl

theorem entriesAll_numberAll (n : Nat) (cs : List (Contents α)) :
    entriesAll (numberAll n cs).1 = ((entriesAll cs).zipIdx n).map fun e => (e.1.1, e.2) := by
  match cs with
  | [] => rfl
  | c :: cs =>
    have hc := entries_number n c
    have hcs := entriesAll_numberAll (c.number n).2 cs
    have hnext : (c.number n).2 = n + c.entries.length := by
      rw [(number_spec n c).2, values_eq, List.length_map]
    rw [numberAll, entriesAll, entriesAll, List.zipIdx_append, List.map_append, ← hc, ← hnext, ← hcs]

end

theorem label_number (n : Nat) (c : Contents α) : (c.number n).1.label = c.label := by
  cases c <;> rfl

theorem map_label_numberAll (n : Nat) (cs : List (Contents α)) :
    (numberAll n cs).1.map label = cs.map label := by
  induction cs generalizing n with
  | nil => rfl
  | cons c cs ih =>
    rw [numberAll, List.map_cons, List.map_cons, ← ih (c.number n).2, label_number]

mutual

theorem Sound.number {path : String} (n : Nat) (c : Contents α) (h : c.Sound path) :
    (c.number n).1.Sound path := by
  match c, h with
  | .file name value, _ => trivial
  | .directory name below (child :: children), h =>
    exact ⟨h.1, by simp, SoundAll.numberAll n (child :: children) h.2.2⟩

theorem SoundAll.numberAll {path : String} (n : Nat) (cs : List (Contents α))
    (h : SoundAll path cs) : SoundAll path (numberAll n cs).1 := by
  match cs, h with
  | [], _ => trivial
  | c :: cs, h =>
    refine ⟨Sound.number n c h.1, ?_, SoundAll.numberAll (c.number n).2 cs h.2.2⟩
    rw [label_number, map_label_numberAll]
    exact h.2.1

end

theorem foldl_under {path : String} (hp : path ≠ "") (names : List String) :
    names.foldl under path = Path.ofSegments (path :: names) := by
  induction names generalizing path with
  | nil => exact (Path.ofSegments_singleton path).symm
  | cons s rest ih =>
    have hne : under path s ≠ "" := by
      rw [under, if_neg hp]
      intro he
      have hlen := congrArg (fun t => t.toList.length) he
      simp at hlen
    rw [List.foldl_cons, ih hne, under, if_neg hp]
    cases rest with
    | nil =>
      rw [Path.ofSegments_singleton, Path.ofSegments_cons path (by simp),
        Path.ofSegments_singleton]
    | cons t rest =>
      rw [Path.ofSegments_cons _ (by simp), Path.ofSegments_cons path (by simp),
        Path.ofSegments_cons s (by simp)]
      simp only [String.append_assoc]

theorem foldl_under_root {names : List String} (h : ∀ s ∈ names, s ≠ "") :
    names.foldl under "" = Path.ofSegments names := by
  cases names with
  | nil => rfl
  | cons s rest => exact foldl_under (h s (List.mem_cons_self ..)) rest

theorem SoundAll.values_ne_nil {path : String} {cs : List (Contents α)} (h : SoundAll path cs)
    (hne : cs ≠ []) : valuesAll cs ≠ [] := by
  obtain ⟨c, rest, rfl⟩ := List.exists_cons_of_ne_nil hne
  have hc := h.1.entries_ne_nil
  rw [valuesAll, values_eq]
  simp [hc]

theorem SoundAll.directories_nodup {path : String} {cs : List (Contents α)}
    (h : SoundAll path cs) : ((cs.filter (·.isDirectory)).map (·.name)).Nodup := by
  have hlabels := (soundAll_iff.mp h).2
  rw [List.Nodup, List.pairwise_map] at hlabels ⊢
  refine (hlabels.filter _).imp_of_mem fun {c d} hc hd hne hname => hne ?_
  rw [label, label, (List.mem_filter.mp hc).2, (List.mem_filter.mp hd).2, hname]

theorem mem_valuesAll {cs : List (Contents α)} {value : α} :
    value ∈ valuesAll cs ↔ ∃ rest, rest ≠ [] ∧ (rest, value) ∈ entriesAll cs := by
  rw [valuesAll_eq, List.mem_map]
  constructor
  · rintro ⟨e, he, rfl⟩
    exact ⟨e.1, path_ne_nil_of_mem_entriesAll he, he⟩
  · rintro ⟨rest, -, he⟩
    exact ⟨(rest, value), he, rfl⟩

end Contents

/-! ## The tree of a site -/

namespace Site
open Marginalia.Path Contents

/-- The contents of the site are a sound tree, whose files are the documents in order. -/
structure Laid (s : Site) (children : List (Contents Nat)) : Prop where
  contents : s.contents = .directory "" "" children
  sound : SoundAll "" children
  entries : entriesAll children = s.documents.zipIdx.map fun e => (segments e.1.source, e.2)

theorem exists_laid {name : String} {ds : List Document} {s : Site} (h : build name ds = .ok s) :
    ∃ children, Laid s children := by
  obtain ⟨hn, -, rfl⟩ := build_eq_ok_iff.mp h
  refine ⟨(numberAll 0 (rootChildren (ds.map fun d => (d.source, d)))).1, ?_, ?_, ?_⟩
  · rw [arrange_eq]
    rfl
  · exact SoundAll.numberAll 0 _ (rootChildren_sound (nodup_paths hn))
  · rw [entriesAll_numberAll, arrange_entries name, List.zipIdx_map, List.map_map]
    rfl

/-- The names on the way to the directory at a path; no name leads to the root. -/
def wayTo (dir : String) : List String :=
  if dir = "" then [] else segments dir

/-- The file at `path` lies in the directory at `dir` or below it. -/
def LiesIn (dir path : String) : Prop :=
  dir = "" ∨ (dir ++ "/").toList <+: path.toList

theorem liesIn_iff {dir path : String} :
    LiesIn dir path ↔ ∃ rest, rest ≠ [] ∧ segments path = wayTo dir ++ rest := by
  by_cases hd : dir = ""
  · simp [LiesIn, wayTo, hd, segments_ne_nil]
  · rw [LiesIn, wayTo, if_neg hd, ← slash_prefix_iff]
    simp [hd]

/-- No document of the site has an empty name on its path. -/
def Named (s : Site) : Prop :=
  ∀ d ∈ s.documents, ∀ name ∈ segments d.source, name ≠ ""

namespace Laid
variable {s : Site} {children : List (Contents Nat)}

theorem values_eq (h : Laid s children) :
    s.contents.values = List.range s.documents.length := by
  rw [h.contents, values, valuesAll_eq, h.entries, List.map_map, List.range_eq_range']
  exact List.zipIdx_map_snd 0 s.documents

theorem mem_entries (h : Laid s children) {names : List String} {i : Nat} :
    (names, i) ∈ entriesAll children ↔ ∃ d, s.documents[i]? = some d ∧ segments d.source = names := by
  rw [h.entries, List.mem_map]
  constructor
  · rintro ⟨⟨d, j⟩, hmem, he⟩
    cases he
    exact ⟨d, List.mk_mem_zipIdx_iff_getElem?.mp hmem, rfl⟩
  · rintro ⟨d, hd, rfl⟩
    exact ⟨(d, i), List.mk_mem_zipIdx_iff_getElem?.mpr hd, rfl⟩

theorem reaches_file_iff (h : Laid s children) {names : List String} {last : String} {i : Nat} :
    s.contents.Reaches names (.file last i) ↔
      ∃ d, s.documents[i]? = some d ∧ names = segments d.source ∧ last = fileName d.source := by
  rw [h.contents, Contents.reaches_file_iff, h.mem_entries]
  constructor
  · rintro ⟨⟨d, hd, rfl⟩, hlast⟩
    rw [segments_eq_dropLast_append, List.getLast?_concat, Option.some.injEq] at hlast
    exact ⟨d, hd, rfl, hlast.symm⟩
  · rintro ⟨d, hd, rfl, rfl⟩
    refine ⟨⟨d, hd, rfl⟩, ?_⟩
    rw [segments_eq_dropLast_append, List.getLast?_concat]

/-- The directory that is found at a path is the one that the names on the way lead to. -/
theorem directory?_eq_some_iff (h : Laid s children) {dir : String} {node : Contents Nat} :
    s.contents.directory? dir = some node ↔
      s.contents.Reaches (wayTo dir) node ∧ node.isDirectory = true := by
  rw [h.contents, ← descend_eq_some_iff h.sound, directory?, wayTo]
  by_cases hd : dir = ""
  · simp [hd, isDirectory, descend]
  · simp [hd]

theorem mem_values_iff (h : Laid s children) {dir : String} {node : Contents Nat}
    (hnode : s.contents.directory? dir = some node) {i : Nat} :
    i ∈ node.values ↔ ∃ d, s.documents[i]? = some d ∧ LiesIn dir d.source := by
  obtain ⟨hreach, hdir⟩ := h.directory?_eq_some_iff.mp hnode
  cases node with
  | file last j => cases hdir
  | directory name path inner =>
    rw [h.contents] at hreach
    rw [values, mem_valuesAll]
    constructor
    · rintro ⟨rest, hrest, he⟩
      obtain ⟨d, hd, hsegments⟩ :=
        h.mem_entries.mp ((hreach.mem_entriesAll_iff h.sound hrest).mp he)
      exact ⟨d, hd, liesIn_iff.mpr ⟨rest, hrest, hsegments⟩⟩
    · rintro ⟨d, hd, hlies⟩
      obtain ⟨rest, hrest, hsegments⟩ := liesIn_iff.mp hlies
      exact ⟨rest, hrest, (hreach.mem_entriesAll_iff h.sound hrest).mpr
        (h.mem_entries.mpr ⟨d, hd, hsegments⟩)⟩

theorem values_ne_nil (h : Laid s children) {names : List String} {node : Contents Nat}
    (hreach : s.contents.Reaches names node) (hne : names ≠ []) : node.values ≠ [] := by
  cases node with
  | file last i => simp [values]
  | directory name path inner =>
    rw [h.contents] at hreach
    obtain ⟨-, hsound, hinner⟩ := hreach.directory_sound h.sound
    exact hsound.values_ne_nil (hinner hne)

theorem exists_directory?_iff (h : Laid s children) {dir : String} :
    (∃ node, s.contents.directory? dir = some node) ↔
      dir = "" ∨ ∃ d ∈ s.documents, LiesIn dir d.source := by
  constructor
  · rintro ⟨node, hnode⟩
    by_cases hd : dir = ""
    · exact .inl hd
    · have hway : wayTo dir ≠ [] := by
        rw [wayTo, if_neg hd]
        exact segments_ne_nil dir
      have hreach := (h.directory?_eq_some_iff.mp hnode).1
      obtain ⟨i, hi⟩ := List.exists_mem_of_ne_nil _ (h.values_ne_nil hreach hway)
      obtain ⟨d, hd, hlies⟩ := (h.mem_values_iff hnode).mp hi
      exact .inr ⟨d, List.mem_of_getElem? hd, hlies⟩
  · rintro (rfl | ⟨d, hd, hlies⟩)
    · refine ⟨s.contents, h.directory?_eq_some_iff.mpr ⟨.here _, ?_⟩⟩
      rw [h.contents]
      rfl
    · obtain ⟨rest, hrest, hsegments⟩ := liesIn_iff.mp hlies
      obtain ⟨i, hi⟩ := List.mem_iff_getElem?.mp hd
      obtain ⟨name, path, inner, hreach⟩ :=
        exists_reaches_directory "" "" hrest (h.mem_entries.mpr ⟨d, hi, hsegments⟩)
      exact ⟨_, h.directory?_eq_some_iff.mpr ⟨h.contents ▸ hreach, rfl⟩⟩

/-- The names on the way to a directory are those that the paths of its documents start with. -/
theorem directory_path (h : Laid s children) (hnamed : Named s) {names : List String}
    {name path : String} {inner : List (Contents Nat)}
    (hreach : s.contents.Reaches names (.directory name path inner)) : path = ofSegments names := by
  have hnames : ∀ t ∈ names, t ≠ "" := by
    by_cases hne : names = []
    · simp [hne]
    · obtain ⟨i, hi⟩ := List.exists_mem_of_ne_nil _ (h.values_ne_nil hreach hne)
      rw [h.contents] at hreach
      obtain ⟨rest, hrest, he⟩ := mem_valuesAll.mp hi
      obtain ⟨d, hd, hsegments⟩ :=
        h.mem_entries.mp ((hreach.mem_entriesAll_iff h.sound hrest).mp he)
      intro t ht
      exact hnamed d (List.mem_of_getElem? hd) t (hsegments ▸ List.mem_append_left rest ht)
  rw [h.contents] at hreach
  rw [(hreach.directory_sound h.sound).1, foldl_under_root hnames]

end Laid

theorem ofSegments_wayTo (dir : String) : ofSegments (wayTo dir) = dir := by
  rw [wayTo]
  split
  next he => rw [he]; rfl
  next => exact ofSegments_segments dir

theorem exists_range_of_infix {l : List Nat} {n : Nat} (h : l <:+: List.range n) :
    ∃ start count, l = List.range' start count := by
  obtain ⟨front, back, hsplit⟩ := h
  rw [List.range_eq_range', List.append_assoc] at hsplit
  obtain ⟨k, -, -, hrest⟩ := List.range'_eq_append_iff.mp hsplit.symm
  obtain ⟨m, -, hl, -⟩ := List.range'_eq_append_iff.mp hrest.symm
  exact ⟨_, _, hl⟩

theorem named_of_normal {name : String} {ds : List Document} {s : Site}
    (hnormal : ∀ d ∈ ds, normalize d.source = d.source ∧ d.source ≠ "")
    (hb : build name ds = .ok s) : Named s := by
  intro d hd t ht
  obtain ⟨hn, hne⟩ := hnormal d ((documents_perm hb).mem_iff.mp hd)
  rw [← hn] at hne ht
  exact (segments_normalize hne t ht).1

/-- The contents of a site are well formed, and looking a directory up is exact. -/
theorem hierarchy_well_formed {name : String} {ds : List Document} {s : Site}
    (hnormal : ∀ d ∈ ds, normalize d.source = d.source ∧ d.source ≠ "")
    (hb : build name ds = .ok s) :
    s.contents.values = List.range s.size ∧
    (∀ names last i, s.contents.Reaches names (.file last i) ↔
      ∃ d, s.documents[i]? = some d ∧ names = segments d.source ∧ last = fileName d.source) ∧
    (∀ names dir path children, s.contents.Reaches names (.directory dir path children) →
      path = ofSegments names ∧ (names ≠ [] → valuesAll children ≠ []) ∧
      ((children.filter (·.isDirectory)).map (·.name)).Nodup) ∧
    ∀ dir,
      ((∃ node, s.contents.directory? dir = some node) ↔
        dir = "" ∨ ∃ d ∈ s.documents, (dir ++ "/").toList <+: d.source.toList) ∧
      ∀ node, s.contents.directory? dir = some node →
        (∃ last children, node = .directory last dir children) ∧
        (∃ start count, node.values = List.range' start count) ∧
        ∀ i, i ∈ node.values ↔ ∃ d, s.documents[i]? = some d ∧
          (dir = "" ∨ (dir ++ "/").toList <+: d.source.toList) := by
  obtain ⟨children, h⟩ := exists_laid hb
  have hnamed := named_of_normal hnormal hb
  refine ⟨h.values_eq, fun names last i => h.reaches_file_iff, ?_, fun dir => ⟨?_, ?_⟩⟩
  · intro names dir path inner hreach
    refine ⟨h.directory_path hnamed hreach, h.values_ne_nil hreach, ?_⟩
    rw [h.contents] at hreach
    exact (hreach.directory_sound h.sound).2.1.directories_nodup
  · rw [h.exists_directory?_iff]
    by_cases hd : dir = ""
    · simp [hd]
    · simp [LiesIn, hd]
  · intro node hnode
    obtain ⟨hreach, hdir⟩ := h.directory?_eq_some_iff.mp hnode
    refine ⟨?_, ?_, fun i => h.mem_values_iff hnode⟩
    · cases node with
      | file last i => cases hdir
      | directory last path inner =>
        have hpath := h.directory_path hnamed hreach
        rw [ofSegments_wayTo] at hpath
        exact ⟨last, inner, by rw [hpath]⟩
    · have hinfix := hreach.values_infix
      rw [h.values_eq] at hinfix
      exact exists_range_of_infix hinfix

/-- A file and a directory of one name, and a directory two levels down. -/
theorem hierarchy_well_formed_at_two_depths :
    ∃ s, build "notes" [
        .read "src" "" (.named "Text") {},
        .read "./src//util/io.rs" "" (.named "Text") {},
        .read "src\\main.rs" "" (.named "Text") {}] = .ok s ∧
      s.contents.values = List.range s.size ∧
      (∃ node, s.contents.directory? "src/util" = some node) ∧
      ¬ ∃ node, s.contents.directory? "src/main.rs" = some node := by
  obtain ⟨s, hb⟩ : ∃ s, build "notes" [
      .read "src" "" (.named "Text") {},
      .read "./src//util/io.rs" "" (.named "Text") {},
      .read "src\\main.rs" "" (.named "Text") {}] = .ok s :=
    ⟨_, build_eq_ok_iff.mpr ⟨by decide, by decide, rfl⟩⟩
  obtain ⟨hvalues, -, -, hdirectory⟩ := hierarchy_well_formed (by
    simp only [List.forall_mem_cons]
    exact ⟨⟨normalize_normalize _, by decide⟩, ⟨normalize_normalize _, by decide⟩,
      ⟨normalize_normalize _, by decide⟩, by simp⟩) hb
  have hperm := documents_perm hb
  refine ⟨s, hb, hvalues, ?_, ?_⟩
  · rw [(hdirectory "src/util").1]
    exact .inr ⟨.read "./src//util/io.rs" "" (.named "Text") {}, hperm.mem_iff.mpr (by simp),
      by decide⟩
  · rw [(hdirectory "src/main.rs").1]
    rintro (he | ⟨d, hd, hbelow⟩)
    · exact absurd he (by decide)
    · have hmem := hperm.mem_iff.mp hd
      simp only [List.mem_cons, List.not_mem_nil, or_false] at hmem
      rcases hmem with rfl | rfl | rfl
      · exact absurd hbelow (by decide)
      · exact absurd hbelow (by decide)
      · exact absurd hbelow (by decide)

end Site

end Marginalia
