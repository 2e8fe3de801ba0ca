import Marginalia.Proofs.Site.Hierarchy

/-! Where a document stands. Its place among the files of its directory is read from the tree of
contents, its neighbours from the list of documents and the directories above it from its path; for
every document of a site the three agree. -/
namespace Marginalia
set_option autoImplicit false

/-! ## Directories of documents -/

namespace Site
open Marginalia.Path Contents

theorem mem_dropLast_segments {path : String} (h : ∀ t ∈ segments path, t ≠ "") :
    ∀ t ∈ (segments path).dropLast, t ≠ "" ∧ '/' ∉ t.toList := by
  intro t ht
  have mem := List.dropLast_subset _ ht
  exact ⟨h t mem, slash_not_mem_segment mem⟩

theorem directory_eq {d : Document} (h : ∀ t ∈ segments d.source, t ≠ "") :
    d.directory = Path.directory d.source := by
  have hkept : Text.dropWhileEnd (· = '/') (Path.directory d.source).toList =
      (Path.directory d.source).toList := by
    rw [Path.directory]
    by_cases hd : (segments d.source).dropLast = []
    · rw [hd]
      rfl
    · have hno : "" ∉ segments (ofSegments (segments d.source).dropLast) := by
        rw [segments_ofSegments hd fun t ht => (mem_dropLast_segments h t ht).2]
        exact fun hm => (mem_dropLast_segments h "" hm).1 rfl
      have hend := Text.dropWhileEnd_slashes 0 (not_slash_of_ends hno).2
      rwa [List.replicate_zero, List.append_nil] at hend
  rw [Document.directory, hkept, String.ofList_toList]

theorem wayTo_ofSegments {parts : List String} (h : ∀ t ∈ parts, t ≠ "" ∧ '/' ∉ t.toList) :
    wayTo (ofSegments parts) = parts := by
  by_cases hp : parts = []
  · rw [hp]
    rfl
  · have hne := ofSegments_ne_empty hp fun t ht => (h t ht).1
    rw [wayTo, if_neg hne, segments_ofSegments hp fun t ht => (h t ht).2]

theorem wayTo_directory {d : Document} (h : ∀ t ∈ segments d.source, t ≠ "") :
    wayTo d.directory = (segments d.source).dropLast := by
  rw [directory_eq h, Path.directory]
  exact wayTo_ofSegments (mem_dropLast_segments h)

theorem wayTo_injective : Function.Injective wayTo := by
  intro a b h
  rw [← ofSegments_wayTo a, h, ofSegments_wayTo]

theorem directory_eq_iff {d : Document} (h : ∀ t ∈ segments d.source, t ≠ "") {dir : String} :
    d.directory = dir ↔ ∃ last, segments d.source = wayTo dir ++ [last] := by
  rw [← wayTo_injective.eq_iff, wayTo_directory h]
  constructor
  · intro hd
    exact ⟨fileName d.source, by rw [← hd, ← segments_eq_dropLast_append]⟩
  · rintro ⟨last, hlast⟩
    rw [hlast, List.dropLast_concat]

/-! ## Files of a directory -/

theorem mem_ownFiles {name path : String} {inner : List (Contents Nat)} {i : Nat} :
    i ∈ ownFiles (.directory name path inner) ↔ ∃ last, ([last], i) ∈ entriesAll inner := by
  rw [ownFiles, children, List.mem_filterMap]
  constructor
  · rintro ⟨child, mem, hchild⟩
    cases child with
    | file last j =>
      cases hchild
      exact ⟨last, mem_entriesAll.mpr ⟨_, mem, List.mem_singleton_self _⟩⟩
    | directory => cases hchild
  · rintro ⟨last, he⟩
    obtain ⟨child, mem, he⟩ := mem_entriesAll.mp he
    cases child with
    | file n j =>
      rw [entries, List.mem_singleton] at he
      cases he
      exact ⟨_, mem, rfl⟩
    | directory n below grandchildren =>
      exact absurd rfl (path_ne_nil_of_mem_entriesAll (mem_entries_directory.mp he).2)

theorem ownFiles_sublist (c : Contents Nat) : (ownFiles c).Sublist c.values := by
  cases c with
  | file name i => exact List.nil_sublist _
  | directory name path inner =>
    rw [ownFiles, children, values]
    induction inner with
    | nil => exact .slnil
    | cons child inner ih =>
      cases child with
      | file n j => exact ih.cons_cons j
      | directory n below grandchildren => exact ih.trans (List.sublist_append_right _ _)

/-- The files of a directory are carried in the order of the documents. -/
theorem Laid.ownFiles_eq {s : Site} {root : List (Contents Nat)} (h : Laid s root)
    (hnamed : Named s) {dir : String} {node : Contents Nat}
    (hnode : s.contents.directory? dir = some node) :
    ownFiles node = (s.documents.zipIdx.filter fun e => e.1.directory = dir).map (·.2) := by
  obtain ⟨hreach, hdir⟩ := h.directory?_eq_some_iff.mp hnode
  have hleft : (ownFiles node).Pairwise (· < ·) := by
    have hrange := (ownFiles_sublist node).trans hreach.values_infix.sublist
    rw [h.values_eq] at hrange
    exact List.pairwise_lt_range.sublist hrange
  have hright : ((s.documents.zipIdx.filter fun e => e.1.directory = dir).map (·.2)).Pairwise
      (· < ·) := by
    have hrange := (List.filter_sublist (p := fun e => decide (e.1.directory = dir))
      (l := s.documents.zipIdx)).map (·.2)
    rw [List.zipIdx_map_snd] at hrange
    exact (List.pairwise_lt_range' 1).sublist hrange
  -- two increasing lists are equal if they have the same members
  refine List.Perm.eq_of_pairwise (fun i j _ _ hij hji => by omega) hleft hright ?_
  rw [List.perm_ext_iff_of_nodup (hleft.imp fun hij => hij.ne) (hright.imp fun hij => hij.ne)]
  intro i
  have hmem : i ∈ (s.documents.zipIdx.filter fun e => e.1.directory = dir).map (·.2) ↔
      ∃ d, s.documents[i]? = some d ∧ d.directory = dir := by
    simp [List.mem_zipIdx_iff_getElem?]
  rw [hmem]
  cases node with
  | file last j => cases hdir
  | directory name path inner =>
    rw [h.contents] at hreach
    rw [mem_ownFiles]
    constructor
    · rintro ⟨last, he⟩
      obtain ⟨d, hd, hsegments⟩ :=
        h.mem_entries.mp ((hreach.mem_entriesAll_iff h.sound (by simp)).mp he)
      exact ⟨d, hd, (directory_eq_iff (hnamed d (List.mem_of_getElem? hd))).mpr ⟨last, hsegments⟩⟩
    · rintro ⟨d, hd, he⟩
      obtain ⟨last, hsegments⟩ := (directory_eq_iff (hnamed d (List.mem_of_getElem? hd))).mp he
      exact ⟨last, (hreach.mem_entriesAll_iff h.sound (by simp)).mpr
        (h.mem_entries.mpr ⟨d, hd, hsegments⟩)⟩

/-! ## Counting -/

theorem length_filter_zipIdx {α : Type} (p : α → Bool) (l : List α) (k : Nat) :
    ((l.zipIdx k).filter fun e => p e.1).length = l.countP p := by
  have hfst := congrArg (List.countP p) (List.zipIdx_map_fst k l)
  rw [List.countP_map, List.countP_eq_length_filter] at hfst
  exact hfst

theorem eq_take_append {α : Type} {l : List α} {i : Nat} {a : α} (h : l[i]? = some a) :
    l = l.take i ++ a :: l.drop (i + 1) ∧ (l.take i).length = i := by
  obtain ⟨hi, ha⟩ := List.getElem?_eq_some_iff.mp h
  refine ⟨?_, by rw [List.length_take]; omega⟩
  conv_lhs => rw [← List.take_append_drop i l, List.drop_eq_getElem_cons hi, ha]

theorem countP_take_lt {α : Type} {p : α → Bool} {l : List α} {i : Nat} {a : α}
    (h : l[i]? = some a) (hp : p a = true) : (l.take i).countP p < l.countP p := by
  conv_rhs => rw [(eq_take_append h).1, List.countP_append, List.countP_cons_of_pos hp]
  omega

theorem findIdx?_filter_zipIdx {α : Type} {p : α → Bool} {l : List α} {i : Nat} {a : α}
    (h : l[i]? = some a) (hp : p a = true) :
    ((l.zipIdx.filter fun e => p e.1).map (·.2)).findIdx? (· = i) =
      some ((l.take i).countP p) := by
  obtain ⟨hl, hlen⟩ := eq_take_append h
  have hfront : (((l.take i).zipIdx.filter fun e => p e.1).map (·.2)).findIdx? (· = i) = none := by
    rw [List.findIdx?_eq_none_iff]
    intro j hj
    obtain ⟨e, he, rfl⟩ := List.mem_map.mp hj
    have hlt := List.snd_lt_of_mem_zipIdx (List.mem_filter.mp he).1
    rw [decide_eq_false_iff_not]
    omega
  conv_lhs => rw [hl, List.zipIdx_append, hlen, Nat.zero_add, List.zipIdx_cons, List.filter_append,
    List.filter_cons_of_pos (by exact hp), List.map_append, List.findIdx?_append, hfront]
  rw [← length_filter_zipIdx p (l.take i) 0]
  simp [List.findIdx?_cons]

/-! ## Breadcrumbs -/

theorem breadcrumbsFrom_getElem? (path : String) (names : List String) (k : Nat) :
    (breadcrumbsFrom path names)[k]? =
      names[k]?.map fun name => ⟨name, (names.take (k + 1)).foldl under path⟩ := by
  induction names generalizing path k with
  | nil => rfl
  | cons name rest ih =>
    rw [breadcrumbsFrom]
    cases k with
    | zero => rfl
    | succ k =>
      rw [List.getElem?_cons_succ, ih]
      rfl

theorem map_name_breadcrumbsFrom (path : String) (names : List String) :
    (breadcrumbsFrom path names).map (·.name) = names := by
  induction names generalizing path with
  | nil => rfl
  | cons name rest ih => rw [breadcrumbsFrom, List.map_cons, ih]

theorem liesIn_iff_wayTo {dir path : String} :
    LiesIn dir path ↔ wayTo dir <+: (segments path).dropLast := by
  rw [liesIn_iff]
  constructor
  · rintro ⟨rest, hne, he⟩
    rw [he, List.dropLast_append_of_ne_nil hne]
    exact List.prefix_append _ _
  · rintro ⟨rest, he⟩
    refine ⟨rest ++ [fileName path], by simp, ?_⟩
    rw [← List.append_assoc, he, ← segments_eq_dropLast_append]

/-- The breadcrumbs along a list of names stand for its front parts, the shortest first. -/
theorem breadcrumb_eq {names : List String} (h : ∀ t ∈ names, t ≠ "" ∧ '/' ∉ t.toList) {k : Nat}
    {crumb : Breadcrumb} (hk : (breadcrumbsFrom "" names)[k]? = some crumb) :
    crumb.path = ofSegments (names.take (k + 1)) ∧ wayTo crumb.path = names.take (k + 1) ∧
      (wayTo crumb.path).getLast? = some crumb.name := by
  have htake : ∀ t ∈ names.take (k + 1), t ≠ "" ∧ '/' ∉ t.toList :=
    fun t ht => h t (List.mem_of_mem_take ht)
  rw [breadcrumbsFrom_getElem?, foldl_under_root fun t ht => (htake t ht).1,
    Option.map_eq_some_iff] at hk
  obtain ⟨name, hname, rfl⟩ := hk
  refine ⟨rfl, wayTo_ofSegments htake, ?_⟩
  rw [wayTo_ofSegments htake, List.getLast?_take, if_neg k.succ_ne_zero, Nat.add_sub_cancel, hname]
  rfl

theorem mem_breadcrumb_paths {names : List String}
    (h : ∀ t ∈ names, t ≠ "" ∧ '/' ∉ t.toList) {p : String} :
    p ∈ (breadcrumbsFrom "" names).map (·.path) ↔ p ≠ "" ∧ wayTo p <+: names := by
  have hroot : p ≠ "" ↔ wayTo p ≠ [] := by
    rw [not_iff_not, ← wayTo_injective.eq_iff (b := "")]
    rfl
  rw [hroot, List.mem_map]
  constructor
  · rintro ⟨crumb, mem, rfl⟩
    obtain ⟨k, hk⟩ := List.mem_iff_getElem?.mp mem
    obtain ⟨-, hway, hlast⟩ := breadcrumb_eq h hk
    refine ⟨fun he => ?_, hway ▸ List.take_prefix _ _⟩
    rw [he] at hlast
    cases hlast
  · rintro ⟨hne, hprefix⟩
    obtain ⟨k, hlen⟩ := Nat.exists_eq_succ_of_ne_zero (List.length_eq_zero_iff.not.mpr hne)
    have hk : k < names.length := by
      have hle := hprefix.length_le
      omega
    have hk' : k < (breadcrumbsFrom "" names).length := by
      rw [← List.length_map, map_name_breadcrumbsFrom]
      exact hk
    refine ⟨(breadcrumbsFrom "" names)[k], List.getElem_mem hk', wayTo_injective ?_⟩
    rw [(breadcrumb_eq h (List.getElem?_eq_getElem hk')).2.1, List.prefix_iff_eq_take.mp hprefix,
      hlen]

/-- Each breadcrumb names a directory of the site, and these are all those around the document. -/
theorem Laid.breadcrumbs {s : Site} {root : List (Contents Nat)} (h : Laid s root)
    (hnamed : Named s) {i : Nat} {d : Document} (hd : s.documents[i]? = some d) :
    (∀ crumb ∈ breadcrumbsFrom "" (segments d.source).dropLast, ∃ inner,
      s.contents.directory? crumb.path = some (.directory crumb.name crumb.path inner)) ∧
    ∀ p, p ∈ (breadcrumbsFrom "" (segments d.source).dropLast).map (·.path) ↔
      p ≠ "" ∧ ∃ node, s.contents.directory? p = some node ∧ i ∈ node.values := by
  have mem := List.mem_of_getElem? hd
  have hnames := mem_dropLast_segments (hnamed d mem)
  refine ⟨fun crumb hcrumb => ?_, fun p => ?_⟩
  · obtain ⟨k, hk⟩ := List.mem_iff_getElem?.mp hcrumb
    obtain ⟨-, hway, hlast⟩ := breadcrumb_eq hnames hk
    have hlies : LiesIn crumb.path d.source := by
      rw [liesIn_iff_wayTo, hway]
      exact List.take_prefix _ _
    obtain ⟨node, hnode⟩ := h.exists_directory?_iff.mpr (.inr ⟨d, mem, hlies⟩)
    obtain ⟨hreach, hdir⟩ := h.directory?_eq_some_iff.mp hnode
    cases node with
    | file last j => cases hdir
    | directory name path inner =>
      have hpath := h.directory_path hnamed hreach
      rw [ofSegments_wayTo] at hpath
      have hne : wayTo crumb.path ≠ [] := fun he => by rw [he] at hlast; cases hlast
      have hname := (hreach.getLast? hne).symm.trans hlast
      cases hname
      exact ⟨inner, hpath ▸ hnode⟩
  · rw [mem_breadcrumb_paths hnames, ← liesIn_iff_wayTo]
    refine and_congr_right fun _ => ?_
    constructor
    · intro hlies
      obtain ⟨node, hnode⟩ := h.exists_directory?_iff.mpr (.inr ⟨d, mem, hlies⟩)
      exact ⟨node, hnode, (h.mem_values_iff hnode).mpr ⟨d, hd, hlies⟩⟩
    · rintro ⟨node, hnode, hi⟩
      obtain ⟨e, he, hlies⟩ := (h.mem_values_iff hnode).mp hi
      cases hd.symm.trans he
      exact hlies

/-! ## Navigation -/

theorem Laid.navigation?_eq {s : Site} {root : List (Contents Nat)} (h : Laid s root)
    (hnamed : Named s) (hn : (s.documents.map (·.source)).Nodup) {i : Nat} {d : Document}
    (hd : s.documents[i]? = some d) :
    s.navigation? d.source = some {
      breadcrumbs := breadcrumbsFrom "" (segments d.source).dropLast
      previous := if i = 0 then none else s.documents[i - 1]?
      next := s.documents[i + 1]?
      position := (s.documents.take i).countP (fun e => e.directory = d.directory) + 1
      siblings := s.documents.countP fun e => e.directory = d.directory } := by
  have hnames := hnamed d (List.mem_of_getElem? hd)
  have hlies : LiesIn d.directory d.source := by
    rw [liesIn_iff_wayTo, wayTo_directory hnames]
  obtain ⟨node, hnode⟩ := h.exists_directory?_iff.mpr (.inr ⟨d, List.mem_of_getElem? hd, hlies⟩)
  have hcrumbs : names d.directory = (segments d.source).dropLast := by
    rw [directory_eq hnames]
    exact names_directory fun t ht => hnames t (List.dropLast_subset _ ht)
  have hplace := findIdx?_filter_zipIdx (p := fun e : Document => decide (e.directory = d.directory))
    hd (by simp)
  have hcount := length_filter_zipIdx (fun e : Document => decide (e.directory = d.directory))
    s.documents 0
  simp only [navigation?, position?_of_getElem? hn hd, hd, hnode, h.ownFiles_eq hnamed hnode,
    Option.bind_eq_bind, Option.bind_some, Option.map_some, Option.getD_some, hplace,
    List.length_map, hcount, hcrumbs]
  rfl

/-- The document that the way around a document leads to next. -/
def next? (s : Site) (d : Document) : Option Document :=
  (s.navigation? d.source).bind (·.next)

/-- The documents met by following the next one as long as there is one. -/
inductive Trail (s : Site) : Document → List Document → Prop
  | last {d : Document} (h : s.next? d = none) : Trail s d [d]
  | step {d e : Document} {rest : List Document} (h : s.next? d = some e) (t : Trail s e rest) :
      Trail s d (d :: rest)

theorem Trail.unique {s : Site} {d : Document} {l l' : List Document} (h : Trail s d l)
    (h' : Trail s d l') : l = l' := by
  induction h generalizing l' with
  | last hnone =>
    cases h' with
    | last _ => rfl
    | step hsome _ => cases hnone.symm.trans hsome
  | step hsome _ ih =>
    cases h' with
    | last hnone => cases hnone.symm.trans hsome
    | step hsome' t =>
      cases hsome.symm.trans hsome'
      rw [ih t]

theorem next?_of_getElem? {s : Site} (hn : (s.documents.map (·.source)).Nodup) {i : Nat}
    {d : Document} (h : s.documents[i]? = some d) : s.next? d = s.documents[i + 1]? := by
  obtain ⟨n, hnav, -, hnext⟩ := navigation?_of_getElem? hn h
  rw [next?, hnav]
  exact hnext

theorem drop_succ_of_drop {α : Type} {l rest : List α} {i : Nat} {a : α}
    (h : l.drop i = a :: rest) : l[i]? = some a ∧ l.drop (i + 1) = rest := by
  constructor
  · rw [← List.head?_drop, h, List.head?_cons]
  · rw [← List.tail_drop, h, List.tail_cons]

theorem trail_of_drop {s : Site} (hn : (s.documents.map (·.source)).Nodup) {i : Nat} {d : Document}
    {rest : List Document} (h : s.documents.drop i = d :: rest) : Trail s d (d :: rest) := by
  induction rest generalizing i d with
  | nil =>
    obtain ⟨hd, hrest⟩ := drop_succ_of_drop h
    exact .last (by rw [next?_of_getElem? hn hd, ← List.head?_drop, hrest, List.head?_nil])
  | cons e rest ih =>
    obtain ⟨hd, hrest⟩ := drop_succ_of_drop h
    exact .step (by rw [next?_of_getElem? hn hd, ← List.head?_drop, hrest, List.head?_cons])
      (ih hrest)

theorem trail_iff {s : Site} (hn : (s.documents.map (·.source)).Nodup) {first : Document}
    {trail : List Document} (h : s.documents.head? = some first) :
    Trail s first trail ↔ trail = s.documents := by
  obtain ⟨rest, hrest⟩ := List.head?_eq_some_iff.mp h
  have hall : Trail s first s.documents := by
    rw [hrest]
    exact trail_of_drop hn (i := 0) hrest
  constructor
  · intro htrail
    exact htrail.unique hall
  · rintro rfl
    exact hall

/-- Every document has its place among its siblings, its neighbours and its breadcrumbs, and the way
from each document to the next passes through all of them. -/
theorem navigation_exact {name : String} {ds : List Document} {s : Site}
    (hnormal : ∀ d ∈ ds, normalize d.source = d.source ∧ d.source ≠ "")
    (hb : build name ds = .ok s) :
    (∀ source, (∃ n, s.navigation? source = some n) ↔ ∃ d ∈ ds, d.source = source) ∧
    s.contents.values = List.range s.documents.length ∧
    (∀ i d n, s.documents[i]? = some d → s.navigation? d.source = some n →
      n.siblings = ds.countP (fun e => e.directory = d.directory) ∧
      n.position = 1 + (s.documents.take i).countP (fun e => e.directory = d.directory) ∧
      1 ≤ n.position ∧ n.position ≤ n.siblings ∧
      n.previous = (if i = 0 then none else s.documents[i - 1]?) ∧
      n.next = s.documents[i + 1]? ∧
      n.breadcrumbs.map (·.name) = (segments d.source).dropLast ∧
      (∀ k crumb, n.breadcrumbs[k]? = some crumb →
        crumb.path = ofSegments ((n.breadcrumbs.take (k + 1)).map (·.name)) ∧
        ∃ inner, s.contents.directory? crumb.path =
          some (.directory crumb.name crumb.path inner)) ∧
      ∀ path, path ∈ n.breadcrumbs.map (·.path) ↔
        path ≠ "" ∧ ∃ node, s.contents.directory? path = some node ∧ i ∈ node.values) ∧
    (∀ first trail, s.documents.head? = some first →
      (Trail s first trail ↔ trail = s.documents)) ∧
    s.documents.Perm ds ∧ s.documents.Nodup := by
  obtain ⟨root, h⟩ := exists_laid hb
  have hnamed := named_of_normal hnormal hb
  have hn := sources_nodup hb
  have hperm := documents_perm hb
  refine ⟨fun source => ?_, h.values_eq, ?_, fun first trail => trail_iff hn, hperm, hn.of_map _⟩
  · constructor
    · rintro ⟨n, hnav⟩
      obtain ⟨i, hi, -⟩ := Option.bind_eq_some_iff.mp hnav
      obtain ⟨hlt, hsource, -⟩ := List.findIdx?_eq_some_iff_getElem.mp hi
      exact ⟨_, hperm.mem_iff.mp (List.getElem_mem hlt), of_decide_eq_true hsource⟩
    · rintro ⟨d, hd, rfl⟩
      obtain ⟨i, hi⟩ := List.mem_iff_getElem?.mp (hperm.mem_iff.mpr hd)
      exact ⟨_, h.navigation?_eq hnamed hn hi⟩
  · intro i d n hd hnav
    rw [h.navigation?_eq hnamed hn hd, Option.some.injEq] at hnav
    subst hnav
    have hlt := countP_take_lt (p := fun e : Document => decide (e.directory = d.directory)) hd
      (by simp)
    have hnames := mem_dropLast_segments (hnamed d (List.mem_of_getElem? hd))
    obtain ⟨hfound, habove⟩ := h.breadcrumbs hnamed hd
    refine ⟨hperm.countP_eq _, Nat.add_comm _ _, Nat.le_add_left _ _, hlt, rfl, rfl,
      map_name_breadcrumbsFrom _ _, fun k crumb hk => ⟨?_, hfound crumb (List.mem_of_getElem? hk)⟩,
      habove⟩
    rw [List.map_take, map_name_breadcrumbsFrom]
    exact (breadcrumb_eq hnames hk).1

/-- Two files beside each other and one further down, of which only paths as stored are known. -/
theorem navigation_exact_beside_another :
    ∃ s n, build "notes" [
        .read "src/lib.rs" "" (.named "Text") {},
        .read "./src//util/io.rs" "" (.named "Text") {},
        .read "src\\main.rs" "" (.named "Text") {}] = .ok s ∧
      s.navigation? "src/main.rs" = some n ∧ n.siblings = 2 ∧
      n.breadcrumbs.map (·.name) = ["src"] ∧
      ¬ ∃ n, s.navigation? "src\\main.rs" = some n := by
  obtain ⟨s, hb⟩ : ∃ s, build "notes" [
      .read "src/lib.rs" "" (.named "Text") {},
      .read "./src//util/io.rs" "" (.named "Text") {},
      .read "src\\main.rs" "" (.named "Text") {}] = .ok s :=
    ⟨_, build_eq_ok_iff.mpr ⟨by decide, by decide, rfl⟩⟩
  obtain ⟨hknown, -, hplace, -, hperm, -⟩ := navigation_exact (by
    simp only [List.forall_mem_cons]
    exact ⟨⟨normalize_normalize _, by decide⟩, ⟨normalize_normalize _, by decide⟩,
      ⟨normalize_normalize _, by decide⟩, by simp⟩) hb
  have hsource : (Document.read "src\\main.rs" "" (.named "Text") {}).source = "src/main.rs" := by
    decide
  have hmem : Document.read "src\\main.rs" "" (.named "Text") {} ∈ s.documents :=
    hperm.mem_iff.mpr (by simp)
  obtain ⟨i, hi⟩ := List.mem_iff_getElem?.mp hmem
  obtain ⟨n, hn⟩ := (hknown "src/main.rs").mpr ⟨_, hperm.mem_iff.mp hmem, hsource⟩
  obtain ⟨hsiblings, -, -, -, -, -, hnames, -⟩ := hplace i _ n hi (hsource ▸ hn)
  have hlib : (Document.read "src/lib.rs" "" (.named "Text") {}).directory = "src" := by decide
  have hio : (Document.read "./src//util/io.rs" "" (.named "Text") {}).directory = "src/util" := by
    decide
  have hmain : (Document.read "src\\main.rs" "" (.named "Text") {}).directory = "src" := by decide
  refine ⟨s, n, hb, hn, ?_, hnames.trans (by rw [hsource]; decide), ?_⟩
  · rw [hsiblings]
    simp [hlib, hio, hmain]
  rw [hknown]
  rintro ⟨d, hd, he⟩
  simp only [List.mem_cons, List.not_mem_nil, or_false] at hd
  rcases hd with rfl | rfl | rfl
  · exact absurd he (by decide)
  · exact absurd he (by decide)
  · exact absurd he (by decide)

end Site

end Marginalia
