import Marginalia.Markdown.Event
import Mathlib.Data.List.Basic

/-! The shape of the events of a text. Outside inline text they start and stop blocks one by one; a
heading starts, holds inline text and stops; and inline text holds no headings. -/
namespace Marginalia.Markdown
set_option autoImplicit false

/-! ## Headings and images among events -/

/-- The level of the heading that the event starts, and its offset. -/
def headingStart? : Event → Option (Nat × Nat)
  | .start (.heading level offset) => some (level, offset)
  | _ => none

/-- Does the event start or stop a heading? -/
def marksHeading : Event → Bool
  | .start (.heading ..) => true
  | .stop (.heading ..) => true
  | _ => false

/-- Does the event start an image? -/
def startsImage : Event → Bool
  | .start (.image ..) => true
  | _ => false

theorem headingStart?_of_not_marks {e : Event} (h : marksHeading e = false) :
    headingStart? e = none := by
  unfold headingStart?
  split
  · exact absurd h (by simp [marksHeading])
  · rfl

theorem start_cases (e : Event) :
    (∃ level offset, e = .start (.heading level offset)) ∨
    (∃ destination title, e = .start (.image destination title)) ∨
    (headingStart? e = none ∧ startsImage e = false) := by
  cases e with
  | start tag =>
    cases tag with
    | heading level offset => exact .inl ⟨level, offset, rfl⟩
    | image destination title => exact .inr (.inl ⟨destination, title, rfl⟩)
    | _ => exact .inr (.inr ⟨rfl, rfl⟩)
  | _ => exact .inr (.inr ⟨rfl, rfl⟩)

theorem headingStarts_eq_nil {es : List Event} (h : ∀ e ∈ es, marksHeading e = false) :
    es.filterMap headingStart? = [] :=
  List.filterMap_eq_nil_iff.mpr fun e he => headingStart?_of_not_marks (h e he)

theorem not_marks_within {tag : Tag} {es : List Event} (hs : marksHeading (.start tag) = false)
    (ht : marksHeading (.stop tag) = false) (h : ∀ e ∈ es, marksHeading e = false) :
    ∀ e ∈ within tag es, marksHeading e = false := by
  intro e he
  simp only [within, List.mem_cons, List.mem_append, List.not_mem_nil, or_false] at he
  obtain (rfl | he) | rfl := he
  · exact hs
  · exact h e he
  · exact ht

mutual

theorem not_marks_events (i : Inline) : ∀ e ∈ i.events, marksHeading e = false := by
  cases i with
  | emphasis content => exact not_marks_within rfl rfl (not_marks_inlineEvents content)
  | strong content => exact not_marks_within rfl rfl (not_marks_inlineEvents content)
  | struck content => exact not_marks_within rfl rfl (not_marks_inlineEvents content)
  | link kind destination title offset content =>
    exact not_marks_within rfl rfl (not_marks_inlineEvents content)
  | image destination title content =>
    exact not_marks_within rfl rfl (not_marks_inlineEvents content)
  | _ => simp [Inline.events, marksHeading]

theorem not_marks_inlineEvents (is : List Inline) :
    ∀ e ∈ inlineEvents is, marksHeading e = false := by
  cases is with
  | nil => simp [inlineEvents]
  | cons i is =>
    rw [inlineEvents, List.forall_mem_append]
    exact ⟨not_marks_events i, not_marks_inlineEvents is⟩

end

theorem headingStarts_heading (level offset : Nat) (is : List Inline) :
    (within (.heading level offset) (inlineEvents is)).filterMap headingStart? =
      [(level, offset)] := by
  have hstart : headingStart? (.start (.heading level offset)) = some (level, offset) := rfl
  rw [within, List.filterMap_append, List.filterMap_cons_some hstart,
    headingStarts_eq_nil (not_marks_inlineEvents is)]
  rfl

/-! ## Walks through blocks -/

/-- Events of a walk through blocks: single ones, inline text, and headings around inline text. -/
inductive Walk : List Event → Prop where
  | nil : Walk []
  | event {e : Event} {es : List Event} (hm : marksHeading e = false) (hi : startsImage e = false)
      (rest : Walk es) : Walk (e :: es)
  | inline (is : List Inline) {es : List Event} (rest : Walk es) : Walk (inlineEvents is ++ es)
  | heading (level offset : Nat) (is : List Inline) {es : List Event} (rest : Walk es) :
      Walk (within (.heading level offset) (inlineEvents is) ++ es)

namespace Walk

theorem append {as bs : List Event} (ha : Walk as) (hb : Walk bs) : Walk (as ++ bs) := by
  induction ha with
  | nil => exact hb
  | event hm hi _ ih => exact .event hm hi ih
  | inline is _ ih =>
    rw [List.append_assoc]
    exact .inline is ih
  | heading level offset is _ ih =>
    rw [List.append_assoc]
    exact .heading level offset is ih

theorem ofInline (is : List Inline) : Walk (inlineEvents is) := by
  have h := Walk.inline is .nil
  rwa [List.append_nil] at h

theorem ofHeading (level offset : Nat) (is : List Inline) :
    Walk (within (.heading level offset) (inlineEvents is)) := by
  have h := Walk.heading level offset is .nil
  rwa [List.append_nil] at h

theorem within {tag : Tag} {es : List Event} (h : Walk es) (hs : marksHeading (.start tag) = false)
    (hi : startsImage (.start tag) = false) (ht : marksHeading (.stop tag) = false) :
    Walk (within tag es) :=
  .event hs hi (h.append (.event ht rfl .nil))

theorem flatMap {α : Type} {f : α → List Event} (as : List α) (h : ∀ a ∈ as, Walk (f a)) :
    Walk (as.flatMap f) := by
  induction as with
  | nil => exact .nil
  | cons a as ih =>
    rw [List.flatMap_cons]
    exact (h a (List.mem_cons_self ..)).append (ih fun b hb => h b (List.mem_cons_of_mem a hb))

theorem row {tag : Tag} (cells : List (List Inline)) (hs : marksHeading (.start tag) = false)
    (hi : startsImage (.start tag) = false) (ht : marksHeading (.stop tag) = false) :
    Walk (rowEvents tag cells) :=
  (flatMap cells fun cell _ => (ofInline cell).within rfl rfl rfl).within hs hi ht

end Walk

mutual

theorem walk_events (tight : Bool) (b : Block (List Inline)) : Walk (b.events tight) := by
  cases b with
  | paragraph content =>
    rw [Block.events]
    split
    · exact .ofInline content
    · exact (Walk.ofInline content).within rfl rfl rfl
  | heading level offset content => exact .ofHeading level offset content
  | fenced info text => exact (Walk.event rfl rfl .nil).within rfl rfl rfl
  | indented text => exact (Walk.event rfl rfl .nil).within rfl rfl rfl
  | html text => exact (Walk.event rfl rfl .nil).within rfl rfl rfl
  | rule => exact .event rfl rfl .nil
  | quote content => exact (walk_blockEvents false content).within rfl rfl rfl
  | list first tight items => exact (walk_itemEvents tight items).within rfl rfl rfl
  | task done => exact .event rfl rfl .nil
  | table columns head rows =>
    exact ((Walk.row head rfl rfl rfl).append
      (.flatMap rows fun row _ => .row row rfl rfl rfl)).within rfl rfl rfl
  | footnote label content => exact (walk_blockEvents false content).within rfl rfl rfl

theorem walk_blockEvents (tight : Bool) (bs : List (Block (List Inline))) :
    Walk (blockEvents tight bs) := by
  cases bs with
  | nil => exact .nil
  | cons b bs => exact (walk_events tight b).append (walk_blockEvents tight bs)

theorem walk_itemEvents (tight : Bool) (items : List (List (Block (List Inline)))) :
    Walk (itemEvents tight items) := by
  cases items with
  | nil => exact .nil
  | cons bs items =>
    exact ((walk_blockEvents tight bs).within rfl rfl rfl).append (walk_itemEvents tight items)

end

/-- The events of a text are a walk through blocks. -/
theorem walk_of_text (text : String) : Walk (events text) :=
  walk_blockEvents false (parse text)

end Marginalia.Markdown
