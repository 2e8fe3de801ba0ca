import Marginalia.Page.Parts
import Marginalia.Proofs.Markdown.Writer

/-! Prose as it is written on a page. Pointing links at pages changes neither headings nor images, so
the writer follows the walk through the blocks: between two blocks it stands outside images, and only
headings take identifiers. -/
namespace Marginalia.Page
open Markdown Outline
set_option autoImplicit false

/-! ## Links -/

theorem pointLink_cases (s : Site) (source : String) (kind : LinkKind) (destination title : String)
    (offset : Nat) :
    ((namesFile kind && isRelativeTarget destination && (s.href? source destination).isNone) = true ∧
      pointLink s source (.start (.link kind destination title offset)) =
        .html (brokenTag destination)) ∨
    ((namesFile kind && isRelativeTarget destination && (s.href? source destination).isNone) = false ∧
      ∃ address, pointLink s source (.start (.link kind destination title offset)) =
        .start (.link kind address title offset)) := by
  rw [pointLink]
  split
  next hfile =>
    cases hr : s.href? source destination with
    | none => exact .inl ⟨by rw [hfile]; rfl, rfl⟩
    | some address => exact .inr ⟨by rw [hfile]; rfl, address, rfl⟩
  next hfile => exact .inr ⟨by rw [Bool.eq_false_iff.mpr hfile]; rfl, destination, rfl⟩

theorem pointLink_start (s : Site) (source : String) (tag : Tag) :
    (∃ pointed, pointLink s source (.start tag) = .start pointed) ∨
    Writer.isLeaf (pointLink s source (.start tag)) = true := by
  cases tag with
  | link kind destination title offset =>
    obtain ⟨-, hp⟩ | ⟨-, address, hp⟩ := pointLink_cases s source kind destination title offset
    · exact .inr (by rw [hp]; rfl)
    · exact .inl ⟨_, hp⟩
  | _ => exact .inl ⟨_, rfl⟩

theorem pointLink_of_leaf (s : Site) (source : String) {e : Event} (h : Writer.isLeaf e = true) :
    pointLink s source e = e := by
  cases e with
  | start tag => exact absurd h (by simp [Writer.isLeaf])
  | _ => rfl

theorem pointLink_keeps (s : Site) (source : String) (e : Event) :
    headingStart? (pointLink s source e) = headingStart? e ∧
      startsImage (pointLink s source e) = startsImage e := by
  cases e with
  | start tag =>
    cases tag with
    | link kind destination title offset =>
      obtain ⟨-, hp⟩ | ⟨-, address, hp⟩ := pointLink_cases s source kind destination title offset
      · rw [hp]
        exact ⟨rfl, rfl⟩
      · rw [hp]
        exact ⟨rfl, rfl⟩
    | _ => exact ⟨rfl, rfl⟩
  | _ => exact ⟨rfl, rfl⟩

/-! ## Stretches of events -/

def written (w next : Writer) : List Char :=
  next.out.toList.drop w.out.toList.length

theorem written_of_out {w next : Writer} {text : String} (h : next.out = w.out ++ text) :
    written w next = text.toList := by
  rw [written, h, String.toList_append, List.drop_left]

/-- The writer once it has taken in the events of a file. -/
def writeEvents (s : Site) (source : String) (w : Writer) (es : List Event) : Writer :=
  es.foldl (fun w e => w.step (pointLink s source e)) w

theorem writeEvents_append (s : Site) (source : String) (w : Writer) (front back : List Event) :
    writeEvents s source w (front ++ back) =
      writeEvents s source (writeEvents s source w front) back :=
  List.foldl_append

theorem proseBody_eq (s : Site) (source : String) (ids : List String) (p : Passage) :
    proseBody s source ids p =
      ((writeEvents s source { ids } (events p.text)).out,
        (writeEvents s source { ids } (events p.text)).ids) := by
  rw [proseBody, render, List.foldl_map]
  rfl

theorem writeEvents_grows (s : Site) (source : String) (w : Writer) (es : List Event) :
    ∃ text, (writeEvents s source w es).out = w.out ++ text := by
  induction es generalizing w with
  | nil => exact ⟨"", String.append_empty.symm⟩
  | cons e es ih =>
    obtain ⟨text, ht⟩ := w.step_grows (pointLink s source e)
    obtain ⟨more, hm⟩ := ih (w.step (pointLink s source e))
    refine ⟨text ++ more, ?_⟩
    rw [← String.append_assoc, ← ht]
    exact hm

theorem writeEvents_ids (s : Site) (source : String) (w : Writer) {es : List Event}
    (h : ∀ e ∈ es, marksHeading e = false) : (writeEvents s source w es).ids = w.ids := by
  induction es generalizing w with
  | nil => rfl
  | cons e es ih =>
    have hnone : headingStart? (pointLink s source e) = none := by
      rw [(pointLink_keeps s source e).1]
      exact headingStart?_of_not_marks (h e (List.mem_cons_self ..))
    have hrest := ih (w.step (pointLink s source e)) fun e' he => h e' (List.mem_cons_of_mem e he)
    exact hrest.trans (w.step_ids hnone)

/-! ## Images in inline text -/

theorem level_leaf_le (s : Site) (source : String) (w : Writer) {e : Event}
    (h : Writer.isLeaf e = true) : (writeEvents s source w [e]).level ≤ w.level := by
  have hstep : writeEvents s source w [e] = w.step e :=
    congrArg w.step (pointLink_of_leaf s source h)
  exact Nat.le_of_eq (by rw [hstep, w.level_leaf h])

/-- A part raises the level by at most one where it starts, and lowers it where it stops. A link that
leads nowhere stops without a start, which closes an image early. -/
theorem level_within_le (s : Site) (source : String) (w : Writer) (tag : Tag) {es : List Event}
    (h : ∀ w, (writeEvents s source w es).level ≤ w.level) :
    (writeEvents s source w (within tag es)).level ≤ w.level := by
  let opened := w.step (pointLink s source (.start tag))
  have hopened : opened.level ≤ w.level + 1 := by
    obtain ⟨pointed, hp⟩ | hleaf := pointLink_start s source tag
    · have hstart := w.level_start_le pointed
      rwa [← hp] at hstart
    · have hsame := w.level_leaf hleaf
      exact Nat.le_succ_of_le (Nat.le_of_eq hsame)
  have hinner := h opened
  have hrun : writeEvents s source w (within tag es) =
      (writeEvents s source opened es).step (.stop tag) := by
    rw [within, List.cons_append, writeEvents, List.foldl_cons, List.foldl_append]
    rfl
  rw [hrun, Writer.level_stop]
  omega

mutual

theorem level_events_le (s : Site) (source : String) (w : Writer) (i : Inline) :
    (writeEvents s source w i.events).level ≤ w.level := by
  cases i with
  | emphasis content =>
    exact level_within_le s source w _ fun w => level_inlineEvents_le s source w content
  | strong content =>
    exact level_within_le s source w _ fun w => level_inlineEvents_le s source w content
  | struck content =>
    exact level_within_le s source w _ fun w => level_inlineEvents_le s source w content
  | link kind destination title offset content =>
    exact level_within_le s source w _ fun w => level_inlineEvents_le s source w content
  | image destination title content =>
    exact level_within_le s source w _ fun w => level_inlineEvents_le s source w content
  | _ => exact level_leaf_le s source w rfl

theorem level_inlineEvents_le (s : Site) (source : String) (w : Writer) (is : List Inline) :
    (writeEvents s source w (inlineEvents is)).level ≤ w.level := by
  cases is with
  | nil => exact Nat.le_refl _
  | cons i is =>
    rw [inlineEvents, writeEvents_append]
    exact Nat.le_trans (level_inlineEvents_le s source _ is) (level_events_le s source w i)

end

/-- Inline text that starts outside images ends outside images. -/
theorem image_inlineEvents (s : Site) (source : String) {w : Writer} (hw : w.image = none)
    (is : List Inline) : (writeEvents s source w (inlineEvents is)).image = none := by
  have hle := level_inlineEvents_le s source w is
  rw [Writer.level_eq_zero hw] at hle
  exact Writer.image_eq_none_of_level (Nat.le_zero.mp hle)

/-! ## All the prose of a document -/

section
variable {α : Type}

/-- What is gathered from the passages of prose while the document is written, given the identifiers
of the headings to come. -/
def gather (f : Writer → List Event → List α) (s : Site) (source : String) :
    List String → List Passage → List α
  | _, [] => []
  | ids, p :: rest =>
    if p.isProse then
      f { ids } (events p.text) ++ gather f s source (proseBody s source ids p).2 rest
    else gather f s source ids rest

/-- What is made from what is gathered can be gathered as well, if it is made piece by piece. -/
theorem gather_map {β : Type} {f : Writer → List Event → List α} {g : Writer → List Event → List β}
    (h : List α → List β) (hnil : h [] = []) (happend : ∀ as bs, h (as ++ bs) = h as ++ h bs)
    (hstep : ∀ w es, g w es = h (f w es)) (s : Site) (source : String) (ids : List String)
    (ps : List Passage) : gather g s source ids ps = h (gather f s source ids ps) := by
  induction ps generalizing ids with
  | nil => exact hnil.symm
  | cons p ps ih =>
    rw [gather, gather]
    split
    · rw [happend, hstep, ih]
    · exact ih ids

theorem gather_const (f : List Event → List α) (s : Site) (source : String) (ids : List String)
    (ps : List Passage) :
    gather (fun _ => f) s source ids ps =
      (ps.filter (·.isProse)).flatMap fun p => f (events p.text) := by
  induction ps generalizing ids with
  | nil => rfl
  | cons p ps ih =>
    rw [gather, List.filter_cons]
    split
    · rw [List.flatMap_cons, ih]
    · exact ih ids

end

end Marginalia.Page
