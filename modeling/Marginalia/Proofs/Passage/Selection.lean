import Marginalia.Proofs.Passage.Marker
import Marginalia.Proofs.Passage.Progress

/-! How a file is cut depends on the markers of its language as sets: their order and repetition and
empty ones do not matter, and of the markers that fit the longest is used. -/
namespace Marginalia
open Text
set_option autoImplicit false

/-! ## Empty marks -/

/-- The mark, unless it is empty. -/
def given (mark : Option String) : Option String :=
  mark.filter (· ≠ "")

theorem getD_given (mark : Option String) : (given mark).getD "" = mark.getD "" := by
  cases mark with
  | none => rfl
  | some m => by_cases h : m = "" <;> simp [given, Option.filter, h]

/-- The comment, with an empty middle marker taken for none. -/
def BlockComment.tidy (b : BlockComment) : BlockComment :=
  { b with middle := given b.middle }

def Marker.tidy : Marker → Marker
  | .line marker => .line marker
  | .block b => .block b.tidy

namespace Passage

def State.tidy : State → State
  | .outside => .outside
  | .inside b depth => .inside b.tidy depth

/-! ## Comments read alike -/

theorem bears_given (mark : Option String) (cs : List Char) :
    bears (given mark) cs = bears mark cs := by
  cases mark with
  | none => rfl
  | some m => by_cases h : m = "" <;> simp [given, bears, Language.marks, h]

theorem findClose_tidy (b : BlockComment) (nesting : Bool) (skip depth : Nat) (cs : List Char) :
    findClose b.tidy nesting skip depth cs = findClose b nesting skip depth cs := by
  induction cs generalizing skip depth with
  | nil => rw [findClose, findClose]
  | cons c cs ih =>
    cases skip with
    | succ skip => rw [findClose, findClose, ih]
    | zero =>
      rw [findClose, findClose, ih, ih, ih]
      rfl

theorem middleMark_tidy (b : BlockComment) : middleMark b.tidy = middleMark b := by
  rw [middleMark, middleMark, BlockComment.tidy, getD_given]

theorem openingStart_tidy (b : BlockComment) (cs : List Char) :
    openingStart b.tidy cs = openingStart b cs := by
  simp only [openingStart, middleMark_tidy]

theorem interiorStart_tidy (b : BlockComment) (cs : List Char) :
    interiorStart b.tidy cs = interiorStart b cs := by
  simp only [interiorStart, middleMark_tidy]

theorem openComment_tidy (l : Language) (cs : List Char) (indent : Nat) (b : BlockComment) :
    openComment l cs indent b.tidy =
      ((openComment l cs indent b).1, (openComment l cs indent b).2.tidy) := by
  have ho : b.tidy.opening = b.opening := rfl
  have hn : nests l b.tidy = nests l b := rfl
  have hc : codeAfter b.tidy = codeAfter b := rfl
  simp only [openComment, findClose_tidy, openingStart_tidy, ho, hn, hc]
  split
  · split <;> rfl
  · rfl

theorem insideComment_tidy (l : Language) (cs : List Char) (b : BlockComment) (depth : Nat) :
    insideComment l cs b.tidy depth =
      ((insideComment l cs b depth).1, (insideComment l cs b depth).2.tidy) := by
  have hn : nests l b.tidy = nests l b := rfl
  have hc : codeAfter b.tidy = codeAfter b := rfl
  simp only [insideComment, findClose_tidy, interiorStart_tidy, hn, hc]
  split
  · split <;> rfl
  · rfl

end Passage

/-! ## The same markers -/

namespace Language

/-- Two languages with the same markers as sets, where one comment of each opening counts and empty
marks count as none. -/
structure SameMarkers (l m : Language) : Prop where
  nested : l.nested = m.nested
  proseOnly : l.proseOnly = m.proseOnly
  line : ∀ marker, marker ≠ "" → (marker ∈ l.lineComments ↔ marker ∈ m.lineComments)
  block : ∀ b, b.opening ≠ "" →
    (b ∈ l.blockComments.map BlockComment.tidy ↔ b ∈ m.blockComments.map BlockComment.tidy)
  apart : ∀ b ∈ l.blockComments, ∀ c ∈ l.blockComments, b.opening ≠ "" → b.opening = c.opening →
    b.tidy = c.tidy
  ignore : given l.ignoreMark = given m.ignoreMark
  fold : given l.foldMark = given m.foldMark

namespace SameMarkers

theorem exists_block {l m : Language} (h : SameMarkers l m) {b : BlockComment}
    (hb : b ∈ l.blockComments) (hne : b.opening ≠ "") :
    ∃ c ∈ m.blockComments, c.tidy = b.tidy :=
  List.mem_map.mp ((h.block b.tidy hne).mp (List.mem_map_of_mem hb))

theorem opening_eq {b c : BlockComment} (h : b.tidy = c.tidy) : b.opening = c.opening := by
  have ht : b.tidy.opening = c.tidy.opening := by rw [h]
  exact ht

theorem symm {l m : Language} (h : SameMarkers l m) : SameMarkers m l where
  nested := h.nested.symm
  proseOnly := h.proseOnly.symm
  line marker hne := (h.line marker hne).symm
  block b hne := (h.block b hne).symm
  apart b hb c hc hne hbc := by
    obtain ⟨b', hb', hbt⟩ := List.mem_map.mp ((h.block b.tidy hne).mpr (List.mem_map_of_mem hb))
    obtain ⟨c', hc', hct⟩ :=
      List.mem_map.mp ((h.block c.tidy (hbc ▸ hne)).mpr (List.mem_map_of_mem hc))
    have hopen : b'.opening = c'.opening := by rw [opening_eq hbt, opening_eq hct, hbc]
    rw [← hbt, ← hct]
    exact h.apart b' hb' c' hc' (by rw [opening_eq hbt]; exact hne) hopen
  ignore := h.ignore.symm
  fold := h.fold.symm

theorem fits_line {l m : Language} (h : SameMarkers l m) {text : List Char} {marker : String}
    (hf : Fits l text (.line marker)) : Fits m text (.line marker) := by
  cases hf with
  | line mem ne start => exact .line ((h.line marker ne).mp mem) ne start

theorem fits_block {l m : Language} (h : SameMarkers l m) {text : List Char} {b : BlockComment}
    (hf : Fits l text (.block b)) : ∃ c, c.tidy = b.tidy ∧ Fits m text (.block c) := by
  cases hf with
  | block mem ne start ends =>
    obtain ⟨c, hc, he⟩ := h.exists_block mem ne
    have ho := opening_eq he
    exact ⟨c, he, .block hc (ho ▸ ne) (ho ▸ start) (ho ▸ ends)⟩

theorem exists_fits {l m : Language} (h : SameMarkers l m) {text : List Char} {x : Marker}
    (hf : Fits l text x) : ∃ y : Marker, y.text = x.text ∧ Fits m text y := by
  cases x with
  | line marker => exact ⟨.line marker, rfl, h.fits_line hf⟩
  | block b =>
    obtain ⟨c, hc, hfc⟩ := h.fits_block hf
    exact ⟨.block c, opening_eq hc, hfc⟩

theorem longest_text_le {l m : Language} (h : SameMarkers l m) {text : List Char} {x y : Marker}
    (hx : Fits l text x) (hy : Longest m text y) : x.text.length ≤ y.text.length := by
  obtain ⟨z, hz, hfz⟩ := h.exists_fits hx
  rw [← hz]
  exact hy.longest z hfz

theorem longest_text_eq {l m : Language} (h : SameMarkers l m) {text : List Char} {x y : Marker}
    (hx : Longest l text x) (hy : Longest m text y) : x.text = y.text := by
  have hle := h.longest_text_le hx.fits hy
  have hge := h.symm.longest_text_le hy.fits hx
  exact hx.fits.text_eq hy.fits (Nat.le_antisymm hle hge)

theorem not_line_block {l m : Language} (h : SameMarkers l m) {text : List Char} {marker : String}
    {b : BlockComment} (hx : Longest l text (.line marker)) (hy : Longest m text (.block b)) :
    False := by
  obtain ⟨c, hc, hfc⟩ := h.symm.fits_block hy.fits
  have hlt := hx.tie marker c rfl hfc
  have heq : marker = b.opening := h.longest_text_eq hx hy
  rw [opening_eq hc, heq] at hlt
  exact absurd hlt (Nat.lt_irrefl _)

theorem longest_tidy_eq {l m : Language} (h : SameMarkers l m) {text : List Char} {x y : Marker}
    (hx : Longest l text x) (hy : Longest m text y) : x.tidy = y.tidy := by
  have htext := h.longest_text_eq hx hy
  cases x with
  | line marker =>
    cases y with
    | line other => exact congrArg Marker.line htext
    | block c => exact (h.not_line_block hx hy).elim
  | block b =>
    cases y with
    | line other => exact (h.symm.not_line_block hy hx).elim
    | block c =>
      obtain ⟨c', hc, hfc⟩ := h.symm.fits_block hy.fits
      cases hx.fits with
      | block memb neb _ _ =>
        cases hfc with
        | block memc _ _ _ =>
          have hopen : b.opening = c'.opening := htext.trans (opening_eq hc).symm
          exact congrArg Marker.block ((h.apart b memb c' memc neb hopen).trans hc)

theorem marker?_tidy {l m : Language} (h : SameMarkers l m) (text : List Char) :
    (l.marker? text).map Marker.tidy = (m.marker? text).map Marker.tidy := by
  cases hx : l.marker? text with
  | none =>
    have hnone : m.marker? text = none := by
      rw [marker?_eq_none_iff] at hx ⊢
      intro y hy
      obtain ⟨x, -, hfx⟩ := h.symm.exists_fits hy
      exact hx x hfx
    rw [hnone]
  | some x =>
    have hlx := marker?_longest hx
    cases hy : m.marker? text with
    | none =>
      obtain ⟨y, -, hfy⟩ := h.exists_fits hlx.fits
      exact absurd hfy (marker?_eq_none_iff.mp hy y)
    | some y =>
      rw [Option.map_some, Option.map_some, h.longest_tidy_eq hlx (marker?_longest hy)]

end SameMarkers
end Language

/-! ## Files read alike -/

namespace Passage
open Marginalia.Language

theorem lineComment_congr {l m : Language} (h : SameMarkers l m) (cs : List Char) (indent : Nat)
    (marker : String) : lineComment l cs indent marker = lineComment m cs indent marker := by
  have hignore : bears l.ignoreMark = bears m.ignoreMark := by
    funext body
    rw [← bears_given, h.ignore, bears_given]
  have hfold : bears l.foldMark = bears m.foldMark := by
    funext body
    rw [← bears_given, h.fold, bears_given]
  have hmark : l.foldMark.getD "" = m.foldMark.getD "" := by
    rw [← getD_given, h.fold, getD_given]
  simp only [lineComment, hignore, hfold, hmark]

theorem openComment_congr {l m : Language} (h : l.nested = m.nested) (cs : List Char) (indent : Nat)
    {b c : BlockComment} (hbc : b.tidy = c.tidy) :
    (openComment l cs indent b).1 = (openComment m cs indent c).1 ∧
      (openComment l cs indent b).2.tidy = (openComment m cs indent c).2.tidy := by
  have hl := openComment_tidy l cs indent b
  have hm := openComment_tidy m cs indent c
  have hlm : openComment l cs indent c.tidy = openComment m cs indent c.tidy := by
    simp only [openComment, nests, h]
  rw [hbc, hlm, hm, Prod.mk.injEq] at hl
  exact ⟨hl.1.symm, hl.2.symm⟩

theorem insideComment_congr {l m : Language} (h : l.nested = m.nested) (cs : List Char)
    {b c : BlockComment} (hbc : b.tidy = c.tidy) (depth : Nat) :
    (insideComment l cs b depth).1 = (insideComment m cs c depth).1 ∧
      (insideComment l cs b depth).2.tidy = (insideComment m cs c depth).2.tidy := by
  have hl := insideComment_tidy l cs b depth
  have hm := insideComment_tidy m cs c depth
  have hlm : insideComment l cs c.tidy depth = insideComment m cs c.tidy depth := by
    simp only [insideComment, nests, h]
  rw [hbc, hlm, hm, Prod.mk.injEq] at hl
  exact ⟨hl.1.symm, hl.2.symm⟩

theorem readBy_congr {l m : Language} (h : SameMarkers l m) (cs : List Char) {x y : Option Marker}
    (hxy : x.map Marker.tidy = y.map Marker.tidy) :
    (readBy l cs x).1 = (readBy m cs y).1 ∧ (readBy l cs x).2.tidy = (readBy m cs y).2.tidy := by
  rcases x with _ | a | b <;> rcases y with _ | a' | c <;> simp [Marker.tidy] at hxy
  · exact ⟨rfl, rfl⟩
  · subst hxy
    exact ⟨lineComment_congr h cs _ a, rfl⟩
  · exact openComment_congr h.nested cs _ hxy

theorem classifyLine_congr {l m : Language} (h : SameMarkers l m) (first : Bool) {s t : State}
    (hst : s.tidy = t.tidy) (cs : List Char) :
    (classifyLine l first s cs).1 = (classifyLine m first t cs).1 ∧
      (classifyLine l first s cs).2.tidy = (classifyLine m first t cs).2.tidy := by
  unfold classifyLine
  rw [h.proseOnly]
  split
  · exact ⟨rfl, hst⟩
  · cases s with
    | outside =>
      cases t with
      | outside =>
        dsimp only
        rw [outsideComment_eq, outsideComment_eq]
        split
        · exact ⟨rfl, rfl⟩
        · split
          · exact ⟨rfl, rfl⟩
          · exact readBy_congr h cs (h.marker?_tidy (trimStart cs))
      | inside c depth => simp [State.tidy] at hst
    | inside b depth =>
      cases t with
      | outside => simp [State.tidy] at hst
      | inside c depth' =>
        simp only [State.tidy, State.inside.injEq] at hst
        obtain ⟨hbc, rfl⟩ := hst
        exact insideComment_congr h.nested cs hbc depth

theorem classifyFrom_congr {l m : Language} (h : SameMarkers l m) (first : Bool) {s t : State}
    (hst : s.tidy = t.tidy) (lines : List (List Char)) :
    classifyFrom l first s lines = classifyFrom m first t lines := by
  induction lines generalizing first s t with
  | nil => rfl
  | cons cs rest ih =>
    obtain ⟨hline, hstate⟩ := classifyLine_congr h first hst cs
    rw [classifyFrom_cons, classifyFrom_cons, hline, ih false hstate]

/-- The passages of a file depend on the markers only as sets, and a line outside comments is read by
the longest marker that fits, by the opening one of two equally long. -/
theorem segment_by_longest_marker (l : Language) (text : String) :
    (∀ m, SameMarkers l m → segment l text = segment m text) ∧
    (l.proseOnly = false → ∀ i cs, (Text.lines text.toList)[i]? = some cs →
      stateBefore l text i = .outside → allBlank cs = false → isShebang (i == 0) cs = false →
      ∃ used, (classify l text)[i]? = some (readBy l cs used).1 ∧
        stateBefore l text (i + 1) = (readBy l cs used).2 ∧
        (used = none ↔ ∀ x, ¬ Fits l (trimStart cs) x) ∧
        ∀ x, used = some x → Longest l (trimStart cs) x) := by
  refine ⟨fun m h => ?_, fun hl i cs hcs hstate hblank hsb => ?_⟩
  · rw [segment, segment, classify, classify, classifyFrom_congr h true rfl]
  · have hline : classifyLine l (i == 0) (stateBefore l text i) cs =
        readBy l cs (l.marker? (trimStart cs)) := by
      simp [classifyLine, hl, hstate, outsideComment_eq, hblank, hsb]
    refine ⟨l.marker? (trimStart cs), ?_, ?_, marker?_eq_none_iff, fun x hx => marker?_longest hx⟩
    · rw [classify_getElem?, hcs, Option.map_some, hline]
    · rw [stateBefore_succ hcs, hline]

theorem segment_by_longest_marker_reordered :
    segment { name := "A", lineComments := ["//", "///"], blockComments := [⟨"/*", "*/", some ""⟩] }
        "/// a\n/* b" =
      segment
        { name := "B", lineComments := ["///", "", "//"], blockComments := [⟨"/*", "*/", none⟩] }
        "/// a\n/* b" ∧
    ∃ x, Longest
      { name := "A", lineComments := ["//", "///"], blockComments := [⟨"/*", "*/", some ""⟩] }
      "/// a".toList x := by
  obtain ⟨hsame, hline⟩ := segment_by_longest_marker
    { name := "A", lineComments := ["//", "///"], blockComments := [⟨"/*", "*/", some ""⟩] }
    "/// a\n/* b"
  refine ⟨hsame _ ⟨rfl, rfl, ?_, ?_, by decide, rfl, rfl⟩, ?_⟩
  · intro marker hne
    simp only [List.mem_cons, List.not_mem_nil, or_false, hne, false_or]
    exact or_comm
  · intro b _
    simp [BlockComment.tidy, given, Option.filter]
  · obtain ⟨used, -, -, hnone, hlongest⟩ := hline rfl 0 _ rfl rfl rfl rfl
    cases used with
    | none =>
      exact absurd (.line (by decide) (by decide) ⟨"/ a".toList, rfl⟩) (hnone.mp rfl (.line "//"))
    | some x => exact ⟨x, hlongest x rfl⟩

end Passage
end Marginalia
