import Marginalia.Outline.Basic
import Marginalia.Proofs.Url.Percent

/-! The links of an outline. A destination makes a reference exactly when it is relative and does not
start with its query, and an outline holds the references of its prose in order. -/
namespace Marginalia
set_option autoImplicit false

/-! ## Trimmed text -/

theorem Text.trim_cons {c : Char} (h : isBlank c = false) (cs : List Char) :
    trim (c :: cs) = c :: trimEnd cs := by
  rw [trim, trimStart, List.dropWhile_cons_of_neg (by simp [h]), trimEnd, trimEnd, dropWhileEnd,
    dropWhileEnd, List.reverse_cons, List.dropWhile_append]
  split
  next he =>
    rw [List.isEmpty_iff.mp he, List.dropWhile_cons_of_neg (by simp [h])]
    rfl
  next => rw [List.reverse_append, List.reverse_singleton, List.singleton_append]

namespace Outline
open Markdown

/-! ## References -/

/-- The destination starts with its query, so it names no file. -/
def startsWithQuery (destination : String) : Bool :=
  destination.toList.head? = some '?'

theorem before_cons (sep c : Char) (cs : List Char) :
    before sep (c :: cs) = if c = sep then [] else c :: before sep cs := by
  rw [before, Text.cutAt]
  split_ifs with h
  · rfl
  · rw [before]
    cases Text.cutAt sep cs with
    | none => rfl
    | some parts => rfl

theorem isRelativeTarget_of_query {destination : String} (h : startsWithQuery destination = true) :
    isRelativeTarget destination = true := by
  obtain ⟨cs, hcs⟩ := List.head?_eq_some_iff.mp (of_decide_eq_true h)
  have hscheme : hasScheme ('?' :: Text.trimEnd cs) = false := by
    rw [hasScheme, Text.cutAt, if_neg (by decide)]
    cases Text.cutAt ':' (Text.trimEnd cs) with
    | none => rfl
    | some parts => rfl
  rw [isRelativeTarget, hcs, Text.trim_cons (by decide)]
  simp [hscheme]

theorem head_of_isRelativeTarget {destination : String} (h : isRelativeTarget destination = true) :
    ∃ c cs, destination.toList = c :: cs ∧ c ≠ '#' := by
  cases hcs : destination.toList with
  | nil =>
    rw [isRelativeTarget, hcs] at h
    exact absurd h (by decide)
  | cons c cs =>
    refine ⟨c, cs, rfl, ?_⟩
    rintro rfl
    rw [isRelativeTarget, hcs, Text.trim_cons (by decide)] at h
    simp at h

def codedPath (destination : String) : List Char :=
  before '?' (before '#' destination.toList)

/-- What follows the first `#` of a destination. -/
def fragmentOf (destination : String) : Option String :=
  (Text.cutAt '#' destination.toList).map fun parts => String.ofList parts.2

theorem codedPath_eq_nil_iff {destination : String} (h : isRelativeTarget destination = true) :
    codedPath destination = [] ↔ startsWithQuery destination = true := by
  obtain ⟨c, cs, hcs, hc⟩ := head_of_isRelativeTarget h
  rw [codedPath, startsWithQuery, hcs, before_cons, if_neg hc, before_cons]
  by_cases hq : c = '?'
  · simp [hq]
  · simp [hq]

theorem parseReference_of_relative {destination : String} (h : isRelativeTarget destination = true)
    (line : Nat) :
    parseReference destination line =
      if Url.percentDecode (codedPath destination) = [] then none
      else some ⟨destination, String.ofList (Url.percentDecode (codedPath destination)),
        fragmentOf destination, line⟩ := by
  cases hcut : Text.cutAt '#' destination.toList with
  | none =>
    have hfront : before '#' destination.toList = destination.toList := by
      rw [before, hcut]
    simp only [parseReference, h, Bool.not_true, Bool.false_eq_true, if_false, hcut, codedPath,
      hfront, fragmentOf]
    cases Url.percentDecode (before '?' destination.toList) with
    | nil => rfl
    | cons c cs => rfl
  | some parts =>
    have hfront : before '#' destination.toList = parts.1 := by
      rw [before, hcut]
    simp only [parseReference, h, Bool.not_true, Bool.false_eq_true, if_false, hcut, codedPath,
      hfront, fragmentOf]
    cases Url.percentDecode (before '?' parts.1) with
    | nil => rfl
    | cons c cs => rfl

/-- What a destination makes: nothing, or a reference to the path it names. -/
theorem parseReference_cases (destination : String) (line : Nat) :
    (isRelativeTarget destination = false ∧ parseReference destination line = none) ∨
    (startsWithQuery destination = true ∧ parseReference destination line = none) ∨
    (isRelativeTarget destination = true ∧ startsWithQuery destination = false ∧
      parseReference destination line = some ⟨destination,
        String.ofList (Url.percentDecode (codedPath destination)), fragmentOf destination, line⟩) := by
  cases hr : isRelativeTarget destination with
  | false => exact .inl ⟨rfl, by simp [parseReference, hr]⟩
  | true =>
    have hparse := parseReference_of_relative hr line
    have hquery := codedPath_eq_nil_iff hr
    rw [← Url.percentDecode_eq_nil_iff] at hquery
    rw [hparse]
    by_cases hd : Url.percentDecode (codedPath destination) = []
    · exact .inr (.inl ⟨hquery.mp hd, if_pos hd⟩)
    · exact .inr (.inr ⟨rfl, Bool.eq_false_iff.mpr fun hq => hd (hquery.mpr hq), if_neg hd⟩)

/-! ## Outlines -/

/-- The destination of a link that may name a file. -/
def fileLink? : Event → Option String
  | .start (.link kind destination _ _) => if namesFile kind then some destination else none
  | _ => none

def reference? (line : Nat → Nat) : Event → Option Reference
  | .start (.link kind destination _ offset) =>
    if namesFile kind then parseReference destination (line offset) else none
  | _ => none

theorem reference?_cases (line : Nat → Nat) (e : Event) :
    (fileLink? e = none ∧ reference? line e = none) ∨
    ∃ destination n, fileLink? e = some destination ∧
      reference? line e = parseReference destination n := by
  unfold fileLink? reference?
  split
  next kind destination title offset =>
    cases namesFile kind with
    | false => exact .inl ⟨rfl, rfl⟩
    | true => exact .inr ⟨destination, line offset, rfl, rfl⟩
  next => exact .inl ⟨rfl, rfl⟩

theorem step_references (line : Nat → Nat) (c : Collector) (e : Event) :
    (c.step line e).references = (reference? line e).toList ++ c.references := by
  fun_cases Collector.step line c e with
  | case1 => rfl
  | case2 =>
    rw [Collector.stopHeading]
    split
    · rfl
    · rfl
  | case3 => rfl
  | case4 => rfl
  | case5 kind destination title offset =>
    rw [Collector.addLink, reference?]
    split
    · cases parseReference destination (line offset) with
      | none => rfl
      | some r => rfl
    · rfl
  | case6 e _ _ _ _ hlink =>
    have hnone : reference? line e = none := by
      unfold reference?
      split
      · exact absurd rfl (hlink _ _ _ _)
      · rfl
    rw [hnone]
    rfl

theorem foldl_references (line : Nat → Nat) (es : List Event) (c : Collector) :
    (es.foldl (Collector.step line) c).references =
      (es.filterMap (reference? line)).reverse ++ c.references := by
  induction es generalizing c with
  | nil => rfl
  | cons e es ih =>
    rw [List.foldl_cons, ih, step_references]
    cases hr : reference? line e with
    | none => rw [List.filterMap_cons_none hr]; rfl
    | some r => rw [List.filterMap_cons_some hr, List.reverse_cons, List.append_assoc]; rfl

def passageReferences (p : Passage) : List Reference :=
  (events p.text).filterMap (reference? (lineAt p.start p.text.toList))

/-- An outline holds the references of the passages of prose, in order. -/
theorem ofPassages_references (passages : List Passage) :
    (ofPassages passages).references =
      (passages.filter (·.isProse)).flatMap passageReferences := by
  have hfold : ∀ (ps : List Passage) (c : Collector),
      (ps.foldl Collector.passage c).references =
        (ps.flatMap passageReferences).reverse ++ c.references := by
    intro ps
    induction ps with
    | nil => exact fun c => rfl
    | cons p ps ih =>
      intro c
      rw [List.foldl_cons, ih, Collector.passage, foldl_references, List.flatMap_cons,
        List.reverse_append, List.append_assoc]
      rfl
  rw [ofPassages, hfold]
  simp

/-! ## References and their destinations -/

/-- The destination of a link that may name a file, and its line. -/
def fileLinkAt? (line : Nat → Nat) : Event → Option (String × Nat)
  | .start (.link kind destination _ offset) =>
    if namesFile kind then some (destination, line offset) else none
  | _ => none

theorem reference?_eq_bind (line : Nat → Nat) (e : Event) :
    reference? line e = (fileLinkAt? line e).bind fun link => parseReference link.1 link.2 := by
  unfold reference? fileLinkAt?
  split
  next kind destination title offset =>
    cases namesFile kind with
    | false => rfl
    | true => rfl
  next => rfl

/-- The links in the prose of a file that may name a file, in order. -/
def proseLinks (passages : List Passage) : List (String × Nat) :=
  (passages.filter (·.isProse)).flatMap fun p =>
    (events p.text).filterMap (fileLinkAt? (lineAt p.start p.text.toList))

theorem references_eq_filterMap (passages : List Passage) :
    (ofPassages passages).references =
      (proseLinks passages).filterMap fun link => parseReference link.1 link.2 := by
  rw [ofPassages_references, proseLinks, List.filterMap_flatMap]
  refine List.flatMap_congr fun p _ => ?_
  rw [passageReferences, List.filterMap_filterMap]
  exact List.filterMap_congr fun e _ => reference?_eq_bind _ e

/-- A destination is read in the same way on every line. -/
theorem parseReference_line {destination : String} {n : Nat} {r : Reference}
    (h : parseReference destination n = some r) (k : Nat) :
    parseReference r.raw k = some { r with line := k } := by
  obtain ⟨-, hp⟩ | ⟨-, hp⟩ | ⟨hrelative, hquery, hp⟩ := parseReference_cases destination n
  · exact absurd (h.symm.trans hp) (by simp)
  · exact absurd (h.symm.trans hp) (by simp)
  · obtain rfl := Option.some.inj (h.symm.trans hp)
    obtain ⟨hr, -⟩ | ⟨hq, -⟩ | ⟨-, -, hk⟩ := parseReference_cases destination k
    · exact absurd (hrelative.symm.trans hr) (by decide)
    · exact absurd (hquery.symm.trans hq) (by decide)
    · exact hk

/-- The references of an outline are what their destinations are read as. -/
theorem parseReference_of_mem {passages : List Passage} {r : Reference}
    (h : r ∈ (ofPassages passages).references) (k : Nat) :
    parseReference r.raw k = some { r with line := k } := by
  rw [references_eq_filterMap] at h
  obtain ⟨link, -, hlink⟩ := List.mem_filterMap.mp h
  exact parseReference_line hlink k

end Outline

end Marginalia
