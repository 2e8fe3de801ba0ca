import Marginalia.Proofs.Files.Make

/-! The places that paths name. In a file system without links a path that leads anywhere leads where
its segments say, so two paths may name one place; a file that is written to a path stands in the
place that the path names, and all other files stay. -/
namespace Marginalia.Files.World
open Marginalia.Path FileTree
set_option autoImplicit false

variable {w w' : World} {dir : RealPath} {path : String}

/-! ## Places -/

/-- Where segments lead from a directory, whatever stands on the way. -/
def landing : RealPath → List String → RealPath
  | dir, [] => dir
  | dir, s :: rest =>
    if s = "" || s = "." then landing dir rest
    else if s = ".." then landing dir.dropLast rest
    else landing (dir ++ [s]) rest

/-- The place that a path names. -/
def spot (w : World) (path : String) : RealPath :=
  landing (w.origin path) (segments path)

theorem landing_append (dir : RealPath) (front back : List String) :
    landing dir (front ++ back) = landing (landing dir front) back := by
  induction front generalizing dir with
  | nil => rfl
  | cons s front ih =>
    rw [List.cons_append, landing, landing]
    split_ifs <;> exact ih _

theorem landing_names (dir : RealPath) {names : List String} (h : ∀ n ∈ names, IsName n) :
    landing dir names = dir ++ names := by
  induction names generalizing dir with
  | nil => rw [landing, List.append_nil]
  | cons n names ih =>
    obtain ⟨hn, h⟩ := List.forall_mem_cons.mp h
    rw [landing, if_neg (by simp [hn.1, hn.2.1]), if_neg hn.2.2, ih _ h, List.append_assoc,
      List.singleton_append]

/-- A path that can be followed leads where its segments say. -/
theorem landing_of_follow {segments : List String} {last : RealPath}
    (h : w.follow dir segments = .ok last) : landing dir segments = last := by
  induction segments generalizing dir with
  | nil =>
    cases h
    rfl
  | cons s rest ih =>
    rw [follow_of_directory (follow_eq_ok_directory h)] at h
    rw [landing]
    split_ifs at h ⊢ with hblank hup hsome
    · exact ih h
    · exact ih h
    · exact ih h

theorem Keeps.spot (h : Keeps w w') (path : String) : w'.spot path = w.spot path := by
  rw [World.spot, World.spot, h.origin]

theorem spot_of_follow {front : List String} {name : String} (hseg : segments path = front ++ [name])
    (hname : IsName name) (h : w.follow (w.origin path) front = .ok dir) :
    w.spot path = dir ++ [name] := by
  rw [spot, hseg, landing_append, landing_of_follow h, landing_names _ (by simpa using hname)]

/-! ## Below an output directory -/

theorem joinPath_eq {output : String} (hne : output ≠ "") (p : String) :
    ∃ front, joinPath output p = front ++ "/" ++ p ∧
      (output = front ∨ output = front ++ "/" ++ "") := by
  rw [joinPath]
  split_ifs with hslash
  · have hslash : output.toList.getLast? = some '/' := by simpa [hne] using hslash
    obtain ⟨cs, hcs⟩ := List.getLast?_eq_some_iff.mp hslash
    have hout : output = String.ofList cs ++ "/" := by
      rw [← String.toList_inj, hcs]
      simp
    exact ⟨String.ofList cs, by rw [hout], .inr (by rw [hout, String.append_empty])⟩
  · exact ⟨output, rfl, .inl rfl⟩

theorem joinPath_empty (p : String) : joinPath "" p = p :=
  String.empty_append

/-- A path below another names a place from the place that the other names. -/
theorem spot_joinPath (w : World) (output : String) {p : String} (hp : p.toList.head? ≠ some '/') :
    w.spot (joinPath output p) = landing (w.spot output) (segments p) := by
  by_cases hne : output = ""
  · have hhere : w.origin p = w.here := if_neg hp
    rw [hne, joinPath_empty, spot, hhere]
    rfl
  · obtain ⟨front, hjoin, hout⟩ := joinPath_eq hne p
    have horigin : w.origin (joinPath output p) = w.origin output := by
      rw [joinPath]
      split_ifs
      · exact origin_append hne p
      · rw [String.append_assoc, origin_append hne]
    rw [spot, horigin, hjoin, segments_append_slash, landing_append]
    rcases hout with rfl | hout
    · rfl
    · rw [spot, hout, segments_append_slash, landing_append]
      rfl

theorem spot_joinPath_plain (w : World) (output : String) {p : String} (hp : Plain p) :
    w.spot (joinPath output p) = w.spot output ++ segments p := by
  rw [spot_joinPath, landing_names _ hp]
  intro hhead
  obtain ⟨rest, -, hrest⟩ := head_slash_iff.mp hhead
  exact (hp "" (by rw [hrest]; exact List.mem_cons_self ..)).1 rfl

theorem segments_joinPath (output p : String) :
    ∃ front, segments (joinPath output p) = front ++ segments p := by
  by_cases hne : output = ""
  · exact ⟨[], by rw [hne, joinPath_empty, List.nil_append]⟩
  · obtain ⟨front, hjoin, -⟩ := joinPath_eq hne p
    exact ⟨segments front, by rw [hjoin, segments_append_slash]⟩

/-- The place that a path names has the last name of the path. -/
theorem spot_getLast? (w : World) (output : String) {p : String} (hp : IsName (fileName p)) :
    (w.spot (joinPath output p)).getLast? = some (fileName p) := by
  obtain ⟨front, hfront⟩ := segments_joinPath output p
  rw [spot, hfront, segments_eq_dropLast_append p, ← List.append_assoc, landing_append,
    landing_names _ (by simpa using hp), List.getLast?_concat]

/-! ## Writing and reading -/

/-- A file that is written stands in the place that its path names. No other file changes. -/
theorem write_at_spot {text : String} (h : w.write path text = .ok w') :
    Keeps w w' ∧ w'.realPath path = .ok (w.spot path) ∧
      w'.root.at? (w.spot path) = some (.file text.toUTF8) ∧
      ∀ x v, x ≠ w.spot path → w.root.at? x = some (.file v) → w'.root.at? x = some (.file v) := by
  obtain ⟨dir, name, hparent, hfree, rfl⟩ := write_eq_ok h
  obtain ⟨hbad, hne, hfollow, hdir, rfl, hname⟩ := parent_eq_ok hparent
  have hspot := spot_of_follow (segments_eq_dropLast_append path) hname.1 hfollow
  have hkeeps := keeps_insert_file hdir hfree text.toUTF8
  have hat := at?_insert_append w.root (.file text.toUTF8) (dir ++ [fileName path]) []
  rw [List.append_nil] at hat
  rw [hspot]
  refine ⟨hkeeps, realPath_eq_ok_iff.mpr ⟨hbad, hne, ?_⟩, ?_, fun x v hx hv => ?_⟩
  · rw [segments_eq_dropLast_append path, hkeeps.origin, follow_append_ok (hkeeps.follow hfollow)]
    refine follow_names (by simpa using hname.1) ?_
    rw [isDirectory?, Option.isSome_map, hat]
    rfl
  · exact hat
  · exact at?_insert_of_file _ hdir hfree hv hx

theorem read_of_file {text : String} (hr : w.realPath path = .ok dir)
    (h : w.root.at? dir = some (.file text.toUTF8)) : w.read path = .ok text := by
  have htext : String.fromUTF8? text.toUTF8 = some text := dif_pos text.isValidUTF8
  unfold read find
  rw [hr]
  simp only [bind, Except.bind, h, pure, Except.pure, htext]

end Marginalia.Files.World
