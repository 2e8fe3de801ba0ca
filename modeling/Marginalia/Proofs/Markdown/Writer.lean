import Marginalia.Markdown.Render
import Marginalia.Proofs.Markdown.Walk
import Mathlib.Data.List.Infix

/-! What one event does to a writer: its output only grows, a heading that starts outside images takes
the next identifier and nothing else does, and images open and close like brackets. -/
namespace Marginalia.Markdown.Writer
open Html
set_option autoImplicit false

/-! ## Writing -/

theorem write_out (w : Writer) (text : String) : (w.write text).out = w.out ++ text := by
  rw [write]
  split
  next h => rw [h, String.append_empty]
  next => rfl

/-- The writer went on writing, and neither identifiers nor images came into it. -/
structure Extends (w next : Writer) : Prop where
  ids : next.ids = w.ids
  image : next.image = w.image
  out : ∃ text, next.out = w.out ++ text

theorem extends_self (w : Writer) : Extends w w :=
  ⟨rfl, rfl, "", String.append_empty.symm⟩

theorem extends_write (w : Writer) (text : String) : Extends w (w.write text) := by
  refine ⟨?_, ?_, text, write_out w text⟩
  · rw [write]
    split
    · rfl
    · rfl
  · rw [write]
    split
    · rfl
    · rfl

theorem extends_line (w : Writer) (text : String) : Extends w (w.line text) :=
  extends_write w _

theorem Extends.trans {w next last : Writer} (h : Extends w next) (h' : Extends next last) :
    Extends w last := by
  obtain ⟨text, ht⟩ := h.out
  obtain ⟨more, hm⟩ := h'.out
  exact ⟨h'.ids.trans h.ids, h'.image.trans h.image, text ++ more, by
    rw [hm, ht, String.append_assoc]⟩

theorem extends_number (w : Writer) (label : String) : Extends w (w.number label).2 := by
  rw [number]
  split
  · exact extends_self w
  · exact ⟨rfl, rfl, "", String.append_empty.symm⟩

/-! ## Starts and stops outside images -/

theorem extends_start {w : Writer} {tag : Tag} (hh : headingStart? (.start tag) = none)
    (hi : startsImage (.start tag) = false) : Extends w (w.start tag) := by
  cases tag with
  | heading level offset => exact absurd hh (by simp [headingStart?])
  | image destination title => exact absurd hi (by simp [startsImage])
  | html => exact extends_self w
  | fenced info =>
    rw [start, startFenced]
    split
    · exact extends_line w _
    · exact extends_line w _
  | list first =>
    cases first with
    | none => exact extends_line w _
    | some first =>
      rw [start]
      split
      · exact extends_line w _
      · exact extends_line w _
  | footnote label => exact (extends_number w label).trans (extends_line _ _)
  | table columns =>
    have h := extends_write { w with columns } "<table>"
    exact ⟨h.ids, h.image, h.out⟩
  | tableHead =>
    have h := extends_write { w with inHead := true, cell := 0 } "<thead><tr>"
    exact ⟨h.ids, h.image, h.out⟩
  | tableRow =>
    have h := extends_write { w with cell := 0 } "<tr>"
    exact ⟨h.ids, h.image, h.out⟩
  | paragraph => exact extends_line w _
  | quote => exact extends_line w _
  | indented => exact extends_line w _
  | item => exact extends_line w _
  | tableCell => exact extends_write w _
  | emphasis => exact extends_write w _
  | strong => exact extends_write w _
  | struck => exact extends_write w _
  | link kind destination title offset => exact extends_write w _

theorem extends_stop (w : Writer) (tag : Tag) : Extends w (w.stop tag) := by
  cases tag with
  | html => exact extends_self w
  | image destination title => exact extends_self w
  | list first =>
    cases first with
    | none => exact extends_write w _
    | some first => exact extends_write w _
  | tableHead =>
    have h := extends_write w "</tr></thead><tbody>\n"
    exact ⟨h.ids, h.image, h.out⟩
  | tableCell =>
    have h := extends_write w (if w.inHead then "</th>" else "</td>")
    exact ⟨h.ids, h.image, h.out⟩
  | _ => exact extends_write w _

/-- Does the event neither start nor stop a part? -/
def isLeaf : Event → Bool
  | .start _ => false
  | .stop _ => false
  | _ => true

theorem extends_leaf {w : Writer} {e : Event} (h : isLeaf e = true) : Extends w (w.plainStep e) := by
  cases e with
  | start tag => exact absurd h (by simp [isLeaf])
  | stop tag => exact absurd h (by simp [isLeaf])
  | text content => exact ⟨rfl, rfl, _, rfl⟩
  | rule => exact extends_line w _
  | note label => exact (extends_number w label).trans (extends_write _ _)
  | _ => exact extends_write w _

/-- The tag of a heading, with its identifier if there is one. -/
def headingTag (level : Nat) (id? : Option String) : String :=
  "<h" ++ Nat.repr level ++ (id?.elim "" fun id => " id=\"" ++ escape id ++ "\"") ++ ">"

/-- A heading takes the next identifier. -/
theorem startHeading_spec (w : Writer) (level : Nat) :
    (w.startHeading level).ids = w.ids.tail ∧ (w.startHeading level).image = w.image ∧
      (w.startHeading level).out =
        w.out ++ ((if w.fresh then "" else "\n") ++ headingTag level w.ids.head?) := by
  have hline : ∀ text, (w.line text).out = w.out ++ ((if w.fresh then "" else "\n") ++ text) := by
    intro text
    rw [line, write_out]
    split
    · rw [String.empty_append]
    · rfl
  rw [startHeading]
  cases hids : w.ids with
  | nil =>
    refine ⟨(extends_line w _).ids.trans hids, (extends_line w _).image, ?_⟩
    rw [hline]
    simp [headingTag, String.append_assoc]
  | cons id ids =>
    refine ⟨rfl, (extends_line w _).image, ?_⟩
    have hclose : "\">" = "\"" ++ ">" := by decide
    rw [hline, hclose]
    simp only [headingTag, List.head?_cons, Option.elim_some, String.append_assoc]

/-! ## Inside images -/

/-- How many parts have to stop before the writer stands outside images. -/
def level (w : Writer) : Nat :=
  (w.image.map (·.depth + 1)).getD 0

theorem image_eq_none_of_level {w : Writer} (h : w.level = 0) : w.image = none := by
  cases hi : w.image with
  | none => rfl
  | some image => simp [level, hi] at h

theorem level_eq_zero {w : Writer} (h : w.image = none) : w.level = 0 := by
  rw [level, h]
  rfl

theorem imageStep_spec (w : Writer) (image : OpenImage) (e : Event) :
    (w.imageStep image e).ids = w.ids ∧ ∃ text, (w.imageStep image e).out = w.out ++ text := by
  cases e with
  | start tag => exact ⟨rfl, "", String.append_empty.symm⟩
  | stop tag =>
    rw [imageStep]
    split
    · have h := extends_write { w with image := none } (titleAttribute image.title ++ "\" />")
      exact ⟨h.ids, h.out⟩
    · exact ⟨rfl, "", String.append_empty.symm⟩
  | text content => exact ⟨rfl, _, rfl⟩
  | code content => exact ⟨rfl, _, rfl⟩
  | html content => exact ⟨rfl, _, rfl⟩
  | note label =>
    obtain ⟨text, ht⟩ := (extends_number w label).out
    refine ⟨(extends_number w label).ids, text ++ "[" ++ Nat.repr (w.number label).1 ++ "]", ?_⟩
    simp only [imageStep, ht, String.append_assoc]
  | _ => exact ⟨(extends_write w _).ids, (extends_write w _).out⟩

theorem imageStep_image {w : Writer} {image : OpenImage} {e : Event} (h : isLeaf e = true) :
    (w.imageStep image e).image = w.image := by
  cases e with
  | start tag => exact absurd h (by simp [isLeaf])
  | stop tag => exact absurd h (by simp [isLeaf])
  | text content => rfl
  | code content => rfl
  | html content => rfl
  | note label => exact (extends_number w label).image
  | _ => exact (extends_write w _).image

/-! ## One event -/

theorem step_outside {w : Writer} (h : w.image = none) (e : Event) : w.step e = w.plainStep e := by
  rw [step, h]

theorem step_inside {w : Writer} {image : OpenImage} (h : w.image = some image) (e : Event) :
    w.step e = w.imageStep image e := by
  rw [step, h]

/-- Outside images an event that starts neither heading nor image only writes. -/
theorem extends_step {w : Writer} {e : Event} (hw : w.image = none) (hh : headingStart? e = none)
    (hi : startsImage e = false) : Extends w (w.step e) := by
  rw [step_outside hw]
  cases e with
  | start tag => exact extends_start hh hi
  | stop tag => exact extends_stop w tag
  | _ => exact extends_leaf rfl

theorem start_image_spec (w : Writer) (destination title : String) :
    (w.start (.image destination title)).ids = w.ids ∧
      ∃ text, (w.start (.image destination title)).out = w.out ++ text := by
  have h := extends_write w ("<img src=\"" ++ escapeAddress destination ++ "\" alt=\"")
  exact ⟨h.ids, h.out⟩

theorem step_grows (w : Writer) (e : Event) : ∃ text, (w.step e).out = w.out ++ text := by
  cases hw : w.image with
  | some image =>
    rw [step_inside hw]
    exact (imageStep_spec w image e).2
  | none =>
    obtain ⟨level, offset, rfl⟩ | ⟨destination, title, rfl⟩ | ⟨hh, hi⟩ := start_cases e
    · rw [step_outside hw]
      exact ⟨_, (startHeading_spec w level).2.2⟩
    · rw [step_outside hw]
      exact (start_image_spec w destination title).2
    · exact (extends_step hw hh hi).out

theorem step_ids (w : Writer) {e : Event} (h : headingStart? e = none) : (w.step e).ids = w.ids := by
  cases hw : w.image with
  | some image =>
    rw [step_inside hw]
    exact (imageStep_spec w image e).1
  | none =>
    obtain ⟨level, offset, rfl⟩ | ⟨destination, title, rfl⟩ | ⟨hh, hi⟩ := start_cases e
    · exact absurd h (by simp [headingStart?])
    · rw [step_outside hw]
      exact (start_image_spec w destination title).1
    · exact (extends_step hw hh hi).ids

theorem level_leaf (w : Writer) {e : Event} (h : isLeaf e = true) : (w.step e).level = w.level := by
  cases hw : w.image with
  | none => rw [level, level, step_outside hw, (extends_leaf h).image]
  | some image => rw [level, level, step_inside hw, imageStep_image h]

theorem level_stop (w : Writer) (tag : Tag) : (w.step (.stop tag)).level = w.level - 1 := by
  cases hw : w.image with
  | none =>
    rw [level, step_outside hw, plainStep, (extends_stop w tag).image, level, hw]
    rfl
  | some image =>
    rw [step_inside hw, imageStep, level, level, hw]
    split
    next hdepth =>
      rw [(extends_write { w with image := none } _).image, Option.map_some, hdepth]
      rfl
    next depth hdepth =>
      rw [Option.map_some, Option.map_some, hdepth]
      rfl

theorem level_start_le (w : Writer) (tag : Tag) : (w.step (.start tag)).level ≤ w.level + 1 := by
  cases hw : w.image with
  | some image =>
    rw [step_inside hw, level, level, hw]
    exact Nat.le_refl _
  | none =>
    obtain ⟨level, offset, he⟩ | ⟨destination, title, he⟩ | ⟨hh, hi⟩ := start_cases (.start tag)
    · rw [he, step_outside hw]
      have himage := (startHeading_spec w level).2.1.trans hw
      exact Nat.le_trans (Nat.le_of_eq (level_eq_zero himage)) (Nat.zero_le _)
    · rw [he, step_outside hw, level_eq_zero hw]
      exact Nat.le_refl _
    · have himage := (extends_step hw hh hi).image.trans hw
      exact Nat.le_trans (Nat.le_of_eq (level_eq_zero himage)) (Nat.zero_le _)

end Marginalia.Markdown.Writer
