import Marginalia.Proofs.Passage.Position

/-! Which marker a line outside comments is read by: the longest of those that stand at its
indentation, and the opening one of two equally long. -/
namespace Marginalia
open Text
set_option autoImplicit false

/-- A marker that a line can be read by. -/
inductive Marker where
  | line (text : String)
  | block (comment : BlockComment)
  deriving DecidableEq, Repr

namespace Marker

/-- What stands in the line. -/
def text : Marker → String
  | line text => text
  | block comment => comment.opening

end Marker

namespace Language

/-! ## Markers at the start of a text -/

/-- The text goes on with the one character of which the marker, longer than one byte, is a run. -/
def RunGoesOn (marker : String) (rest : List Char) : Prop :=
  1 < marker.utf8ByteSize ∧ ∃ c, (∀ d ∈ marker.toList, d = c) ∧ rest.head? = some c

/-- The markers of the language that the text starts with. -/
inductive Fits (l : Language) (text : List Char) : Marker → Prop where
  | line {marker : String} (mem : marker ∈ l.lineComments) (ne : marker ≠ "")
      (start : marker.toList <+: text) : Fits l text (.line marker)
  | block {b : BlockComment} {rest : List Char} (mem : b ∈ l.blockComments) (ne : b.opening ≠ "")
      (start : text = b.opening.toList ++ rest) (ends : ¬ RunGoesOn b.opening rest) :
      Fits l text (.block b)

theorem continuesRun_iff {marker : String} {rest : List Char} :
    continuesRun marker rest = true ↔ RunGoesOn marker rest := by
  unfold continuesRun RunGoesOn
  split
  next h =>
    have hm : marker = "" := String.toList_eq_nil_iff.mp h
    subst hm
    simp
  next c others h =>
    simp only [h, Bool.and_eq_true, decide_eq_true_eq, List.all_eq_true, List.mem_cons,
      forall_eq_or_imp, and_assoc]
    constructor
    · rintro ⟨hlong, hall, hhead⟩
      exact ⟨hlong, c, rfl, hall, hhead⟩
    · rintro ⟨hlong, d, rfl, hall, hhead⟩
      exact ⟨hlong, hall, hhead⟩

theorem marks_iff {marker : String} {text : List Char} :
    marks marker text = true ↔ marker ≠ "" ∧ marker.toList <+: text := by
  simp [marks, startsWith_iff]

theorem opens_iff {b : BlockComment} {text : List Char} :
    opens b text = true ↔ b.opening ≠ "" ∧
      ∃ rest, text = b.opening.toList ++ rest ∧ ¬ RunGoesOn b.opening rest := by
  rw [opens, Bool.and_eq_true, decide_eq_true_eq]
  cases ha : after? b.opening.toList text with
  | none =>
    simp only [Bool.false_eq_true, and_false, false_iff, not_and, not_exists]
    intro _ rest he
    rw [after?_eq_some_iff.mpr he] at ha
    cases ha
  | some rest =>
    have he := after?_eq_some_iff.mp ha
    have hr : continuesRun b.opening rest = true ↔ RunGoesOn b.opening rest := continuesRun_iff
    simp only [Bool.not_eq_true', ← Bool.not_eq_true, hr]
    constructor
    · rintro ⟨hne, hends⟩
      exact ⟨hne, rest, he, hends⟩
    · rintro ⟨hne, rest', he', hends⟩
      rw [he] at he'
      exact ⟨hne, List.append_cancel_left he' ▸ hends⟩

theorem mem_filter_marks {l : Language} {text : List Char} {marker : String} :
    marker ∈ l.lineComments.filter (marks · text) ↔ Fits l text (.line marker) := by
  rw [List.mem_filter, marks_iff]
  constructor
  · rintro ⟨hm, hne, hs⟩
    exact .line hm hne hs
  · rintro ⟨hm, hne, hs⟩
    exact ⟨hm, hne, hs⟩

theorem mem_filter_opens {l : Language} {text : List Char} {b : BlockComment} :
    b ∈ l.blockComments.filter (opens · text) ↔ Fits l text (.block b) := by
  rw [List.mem_filter, opens_iff]
  constructor
  · rintro ⟨hm, hne, rest, hs, hends⟩
    exact .block hm hne hs hends
  · rintro ⟨⟩
    next rest hm hne hs hends => exact ⟨hm, hne, rest, hs, hends⟩

/-! ## The marker that counts -/

/-- The marker that the text is read by. -/
def marker? (l : Language) (text : List Char) : Option Marker :=
  match l.lineMarker? text, l.blockOpening? text with
  | some marker, some b =>
    if b.opening.length < marker.length then some (.line marker) else some (.block b)
  | none, some b => some (.block b)
  | some marker, none => some (.line marker)
  | none, none => none

/-- No marker that fits is longer, and a line marker is longer than every opening that fits. -/
structure Longest (l : Language) (text : List Char) (m : Marker) : Prop where
  fits : Fits l text m
  longest : ∀ other, Fits l text other → other.text.length ≤ m.text.length
  tie : ∀ marker b, m = .line marker → Fits l text (.block b) →
    b.opening.length < marker.length

theorem lineMarker?_eq_none_iff {l : Language} {text : List Char} :
    l.lineMarker? text = none ↔ ∀ marker, ¬ Fits l text (.line marker) := by
  rw [lineMarker?, largest?_eq_none_iff, List.eq_nil_iff_forall_not_mem]
  simp only [mem_filter_marks]

theorem blockOpening?_eq_none_iff {l : Language} {text : List Char} :
    l.blockOpening? text = none ↔ ∀ b, ¬ Fits l text (.block b) := by
  rw [blockOpening?, largest?_eq_none_iff, List.eq_nil_iff_forall_not_mem]
  simp only [mem_filter_opens]

theorem lineMarker?_longest {l : Language} {text : List Char} {marker : String}
    (h : l.lineMarker? text = some marker) : Fits l text (.line marker) ∧
      ∀ other, Fits l text (.line other) → other.length ≤ marker.length :=
  ⟨mem_filter_marks.mp (largest?_mem h),
    fun other ho => le_largest? h other (mem_filter_marks.mpr ho)⟩

theorem blockOpening?_longest {l : Language} {text : List Char} {b : BlockComment}
    (h : l.blockOpening? text = some b) : Fits l text (.block b) ∧
      ∀ other, Fits l text (.block other) → other.opening.length ≤ b.opening.length :=
  ⟨mem_filter_opens.mp (largest?_mem h),
    fun other ho => le_largest? h other (mem_filter_opens.mpr ho)⟩

theorem marker?_eq_none_iff {l : Language} {text : List Char} :
    l.marker? text = none ↔ ∀ m, ¬ Fits l text m := by
  have hboth : l.marker? text = none ↔ l.lineMarker? text = none ∧ l.blockOpening? text = none := by
    unfold marker?
    split
    · split <;> simp_all
    all_goals simp_all
  rw [hboth, lineMarker?_eq_none_iff, blockOpening?_eq_none_iff]
  constructor
  · rintro ⟨hl, hb⟩ (marker | b)
    · exact hl marker
    · exact hb b
  · intro h
    exact ⟨fun marker => h (.line marker), fun b => h (.block b)⟩

theorem marker?_longest {l : Language} {text : List Char} {m : Marker}
    (h : l.marker? text = some m) : Longest l text m := by
  unfold marker? at h
  split at h
  next marker b hm hb =>
    obtain ⟨hfm, hlm⟩ := lineMarker?_longest hm
    obtain ⟨hfb, hlb⟩ := blockOpening?_longest hb
    split at h
    next hlt =>
      cases h
      refine ⟨hfm, ?_, ?_⟩
      · rintro (other | other) ho
        · exact hlm other ho
        · exact (hlb other ho).trans hlt.le
      · rintro _ other ⟨⟩ ho
        exact (hlb other ho).trans_lt hlt
    next hge =>
      cases h
      refine ⟨hfb, ?_, fun _ _ he => by simp at he⟩
      rintro (other | other) ho
      · exact (hlm other ho).trans (Nat.not_lt.mp hge)
      · exact hlb other ho
  next b hm hb =>
    cases h
    obtain ⟨hfb, hlb⟩ := blockOpening?_longest hb
    refine ⟨hfb, ?_, fun _ _ he => by simp at he⟩
    rintro (other | other) ho
    · exact absurd ho (lineMarker?_eq_none_iff.mp hm other)
    · exact hlb other ho
  next marker hm hb =>
    cases h
    obtain ⟨hfm, hlm⟩ := lineMarker?_longest hm
    refine ⟨hfm, ?_, fun _ other _ ho => absurd ho (blockOpening?_eq_none_iff.mp hb other)⟩
    rintro (other | other) ho
    · exact hlm other ho
    · exact absurd ho (blockOpening?_eq_none_iff.mp hb other)
  next => cases h

theorem Fits.prefix_text {l : Language} {text : List Char} {m : Marker} (h : Fits l text m) :
    m.text.toList <+: text := by
  cases h with
  | line _ _ start => exact start
  | block _ _ start _ => exact ⟨_, start.symm⟩

/-- Markers of one length that fit one text are the same text. -/
theorem Fits.text_eq {l m : Language} {text : List Char} {x y : Marker} (hx : Fits l text x)
    (hy : Fits m text y) (h : x.text.length = y.text.length) : x.text = y.text := by
  have hlen : x.text.toList.length = y.text.toList.length := by
    rw [String.length_toList, String.length_toList, h]
  exact String.toList_injective <|
    (List.prefix_of_prefix_length_le hx.prefix_text hy.prefix_text hlen.le).eq_of_length hlen

/-- A line marker counts if and only if it is the longest marker that fits. -/
theorem marker?_eq_line_iff {l : Language} {text : List Char} {marker : String} :
    l.marker? text = some (.line marker) ↔ Longest l text (.line marker) := by
  refine ⟨marker?_longest, fun h => ?_⟩
  cases hm : l.marker? text with
  | none => exact absurd h.fits (marker?_eq_none_iff.mp hm _)
  | some m =>
    have hl := marker?_longest hm
    have hle := hl.longest _ h.fits
    cases m with
    | line other =>
      have hlen := Nat.le_antisymm (h.longest _ hl.fits) hle
      have htext : other = marker := hl.fits.text_eq h.fits hlen
      rw [htext]
    | block b => exact absurd (h.tie marker b rfl hl.fits) (Nat.not_lt.mpr hle)

end Language

namespace Passage
open Marginalia.Language

/-! ## Lines read by their marker -/

/-- The line, read by the marker at its indentation. Without a marker it is code. -/
def readBy (l : Language) (cs : List Char) : Option Marker → Classified × State
  | none => (codeLine cs, .outside)
  | some (.line marker) =>
    (lineComment l cs (cs.length - (trimStart cs).length) marker, .outside)
  | some (.block b) => openComment l cs (cs.length - (trimStart cs).length) b

/-- The text starts with a mark that is given and not empty. -/
def Bears (mark : Option String) (cs : List Char) : Prop :=
  ∃ m, mark = some m ∧ m ≠ "" ∧ m.toList <+: cs

theorem bears_iff {mark : Option String} {cs : List Char} :
    bears mark cs = true ↔ Bears mark cs := by
  simp only [bears, Option.any_eq_true, marks_iff, Bears]

/-- A first line that starts with `#!` is never a comment. -/
def isShebang (first : Bool) (cs : List Char) : Bool :=
  first && startsWith ['#', '!'] (trimStart cs)

/-- What a line outside comments is: blank, code in spite of its marker, or read by its marker. -/
theorem outsideComment_eq (l : Language) (first : Bool) (cs : List Char) :
    outsideComment l first cs =
      if allBlank cs then ({ kind := none, line := .plain cs }, .outside)
      else if isShebang first cs then (codeLine cs, .outside)
      else readBy l cs (l.marker? (trimStart cs)) := by
  have hb : (trimStart cs).isEmpty = allBlank cs := by
    rw [Bool.eq_iff_iff, List.isEmpty_iff, trimStart_eq_nil_iff]
  unfold outsideComment
  simp only [hb]
  split
  · rfl
  · unfold isShebang
    split
    · rfl
    · unfold marker?
      cases l.lineMarker? (trimStart cs) with
      | none => cases l.blockOpening? (trimStart cs) <;> rfl
      | some marker =>
        cases l.blockOpening? (trimStart cs) with
        | none => rfl
        | some b =>
          dsimp only
          split <;> rfl

end Passage
end Marginalia
