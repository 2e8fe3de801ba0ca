import Marginalia.Outline.Basic
import Marginalia.Proofs.Markdown.Walk
import Marginalia.Proofs.Outline.Anchor

/-! The headings of an outline: one for each heading that the prose starts, in order, with its level
and its line, and with the anchors that the texts of the headings are given one after the other. -/
namespace Marginalia.Outline
open Markdown
set_option autoImplicit false

namespace Collector

/-! ## One event -/

/-- The level and the line of the heading that has started. -/
def place (c : Collector) : Option (Nat × Nat) :=
  c.current.map fun h => (h.level, h.line)

/-- The collectors agree on headings, anchors, and on where the heading that has started stands. -/
structure Alike (c next : Collector) : Prop where
  headings : next.headings = c.headings
  anchors : next.anchors = c.anchors
  place : next.place = c.place

theorem alike_write (c : Collector) (text : String) : Alike c (c.write text) :=
  ⟨rfl, rfl, by simp [place, write, Function.comp_def]⟩

theorem alike_addLink (c : Collector) (kind : LinkKind) (destination : String) (line : Nat) :
    Alike c (c.addLink kind destination line) := by
  unfold addLink
  split
  · split
    · exact ⟨rfl, rfl, rfl⟩
    · exact ⟨rfl, rfl, rfl⟩
  · exact ⟨rfl, rfl, rfl⟩

theorem alike_step (line : Nat → Nat) (c : Collector) {e : Event} (h : marksHeading e = false) :
    Alike c (c.step line e) := by
  unfold step
  split
  · exact absurd h (by simp [marksHeading])
  · exact absurd h (by simp [marksHeading])
  · exact alike_write c _
  · exact alike_write c _
  · exact alike_addLink c _ _ _
  · exact ⟨rfl, rfl, rfl⟩

theorem alike_foldl (line : Nat → Nat) (c : Collector) {es : List Event}
    (h : ∀ e ∈ es, marksHeading e = false) : Alike c (es.foldl (step line) c) := by
  induction es generalizing c with
  | nil => exact ⟨rfl, rfl, rfl⟩
  | cons e es ih =>
    have hstep := alike_step line c (h e (List.mem_cons_self ..))
    have hrest := ih (c.step line e) fun e' he => h e' (List.mem_cons_of_mem e he)
    exact ⟨hrest.headings.trans hstep.headings, hrest.anchors.trans hstep.anchors,
      hrest.place.trans hstep.place⟩

/-! ## Whole walks -/

/-- The collector has found these headings after it stood at `c`, and stands outside headings. -/
structure Finds (c next : Collector) (found : List Heading) : Prop where
  headings : next.headings = found.reverse ++ c.headings
  anchors : next.anchors = c.anchors.after (found.map (·.text))
  given : found.map (·.anchor) = c.anchors.given (found.map (·.text))
  outside : next.current = none

theorem Finds.trans {c next last : Collector} {found more : List Heading}
    (h : Finds c next found) (h' : Finds next last more) : Finds c last (found ++ more) where
  headings := by rw [h'.headings, h.headings, List.reverse_append, List.append_assoc]
  anchors := by
    rw [h'.anchors, h.anchors, Anchors.after, Anchors.after, Anchors.after, List.map_append,
      List.foldl_append]
  given := by
    rw [List.map_append, List.map_append, Anchors.given_append, h.given, h'.given, h.anchors]
  outside := h'.outside

theorem finds_nothing {c next : Collector} (h : Alike c next) (hc : c.current = none) :
    Finds c next [] where
  headings := h.headings
  anchors := h.anchors
  given := rfl
  outside := by
    have hplace := h.place
    rw [place, place, hc] at hplace
    simpa using hplace

theorem finds_stopHeading {c : Collector} {h : OpenHeading} (hc : c.current = some h) :
    ∃ text, Finds c c.stopHeading [⟨h.level, text, (c.anchors.take text).1, h.line⟩] := by
  refine ⟨String.ofList (Text.trim h.text.toList), ?_⟩
  rw [stopHeading, hc]
  exact ⟨rfl, rfl, rfl, rfl⟩

/-- A heading is found where it stops, with the level and the line of where it started. -/
theorem finds_heading (line : Nat → Nat) (c : Collector) (level offset : Nat) (is : List Inline) :
    ∃ text, Finds c ((within (.heading level offset) (inlineEvents is)).foldl (step line) c)
      [⟨level, text, (c.anchors.take text).1, line offset⟩] := by
  let opened : Collector := { c with current := some { level, line := line offset } }
  have hinner := alike_foldl line opened (not_marks_inlineEvents is)
  obtain ⟨h, hcurrent, hplace⟩ := Option.map_eq_some_iff.mp hinner.place
  have hlevel : h.level = level := congrArg Prod.fst hplace
  have hline : h.line = line offset := congrArg Prod.snd hplace
  obtain ⟨text, hstop⟩ := finds_stopHeading hcurrent
  have hanchors : ((inlineEvents is).foldl (step line) opened).anchors = c.anchors := hinner.anchors
  have hheadings : ((inlineEvents is).foldl (step line) opened).headings = c.headings :=
    hinner.headings
  rw [hlevel, hline, hanchors] at hstop
  refine ⟨text, ?_⟩
  rw [within, List.cons_append, List.foldl_cons, List.foldl_append]
  exact ⟨hstop.headings.trans (by rw [hheadings]), hstop.anchors.trans (by rw [hanchors]), rfl,
    hstop.outside⟩

/-- The level and the line of each heading that starts among the events. -/
def starts (line : Nat → Nat) (es : List Event) : List (Nat × Nat) :=
  (es.filterMap headingStart?).map fun (level, offset) => (level, line offset)

theorem starts_append (line : Nat → Nat) (front back : List Event) :
    starts line (front ++ back) = starts line front ++ starts line back := by
  rw [starts, List.filterMap_append, List.map_append]
  rfl

theorem finds_walk (line : Nat → Nat) {es : List Event} (h : Walk es) (c : Collector)
    (hc : c.current = none) :
    ∃ found, Finds c (es.foldl (step line) c) found ∧
      found.map (fun g => (g.level, g.line)) = starts line es := by
  induction h generalizing c with
  | nil => exact ⟨[], finds_nothing ⟨rfl, rfl, rfl⟩ hc, rfl⟩
  | @event e es hm _ _ ih =>
    have hfirst := finds_nothing (alike_step line c hm) hc
    obtain ⟨found, hrest, hstarts⟩ := ih (c.step line e) hfirst.outside
    refine ⟨found, hfirst.trans hrest, ?_⟩
    rw [hstarts, starts, starts, List.filterMap_cons_none (headingStart?_of_not_marks hm)]
  | @inline is es _ ih =>
    have hfirst := finds_nothing (alike_foldl line c (not_marks_inlineEvents is)) hc
    obtain ⟨found, hrest, hstarts⟩ := ih _ hfirst.outside
    refine ⟨found, ?_, ?_⟩
    · rw [List.foldl_append]
      exact hfirst.trans hrest
    · rw [hstarts, starts_append, starts, starts,
        headingStarts_eq_nil (not_marks_inlineEvents is)]
      rfl
  | @heading level offset is es _ ih =>
    obtain ⟨text, hfirst⟩ := finds_heading line c level offset is
    obtain ⟨found, hrest, hstarts⟩ := ih _ hfirst.outside
    refine ⟨⟨level, text, (c.anchors.take text).1, line offset⟩ :: found, ?_, ?_⟩
    · rw [List.foldl_append]
      exact hfirst.trans hrest
    · rw [List.map_cons, hstarts, starts_append, starts, starts, headingStarts_heading]
      rfl

/-- The level and the line of each heading that starts in a passage of prose. -/
def passageStarts (p : Passage) : List (Nat × Nat) :=
  starts (lineAt p.start p.text.toList) (events p.text)

theorem finds_passages (ps : List Passage) (c : Collector) (hc : c.current = none) :
    ∃ found, Finds c (ps.foldl passage c) found ∧
      found.map (fun g => (g.level, g.line)) = ps.flatMap passageStarts := by
  induction ps generalizing c with
  | nil => exact ⟨[], finds_nothing ⟨rfl, rfl, rfl⟩ hc, rfl⟩
  | cons p ps ih =>
    have hself : { c with current := none } = c := by rw [← hc]
    obtain ⟨first, hfirst, hstarts⟩ :=
      finds_walk (lineAt p.start p.text.toList) (walk_of_text p.text) c hc
    obtain ⟨found, hrest, hstarts'⟩ := ih _ hfirst.outside
    refine ⟨first ++ found, ?_, ?_⟩
    · rw [List.foldl_cons, passage, hself]
      exact hfirst.trans hrest
    · rw [List.map_append, hstarts, hstarts', List.flatMap_cons, passageStarts]

end Collector

/-! ## The outline of a file -/

/-- The headings of an outline are those that its prose starts. -/
theorem ofPassages_starts (ps : List Passage) :
    (ofPassages ps).headings.map (fun g => (g.level, g.line)) =
      (ps.filter (·.isProse)).flatMap Collector.passageStarts := by
  obtain ⟨found, hfinds, hstarts⟩ := Collector.finds_passages (ps.filter (·.isProse)) {} rfl
  rw [ofPassages, hfinds.headings, List.append_nil, List.reverse_reverse, hstarts]

/-- The anchors of an outline are those that the texts of its headings are given. -/
theorem ofPassages_anchors (ps : List Passage) :
    (ofPassages ps).headings.map (·.anchor) =
      Anchors.given {} ((ofPassages ps).headings.map (·.text)) := by
  obtain ⟨found, hfinds, -⟩ := Collector.finds_passages (ps.filter (·.isProse)) {} rfl
  rw [ofPassages, hfinds.headings, List.append_nil, List.reverse_reverse, hfinds.given]

end Marginalia.Outline
