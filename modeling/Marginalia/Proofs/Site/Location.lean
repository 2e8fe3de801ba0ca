import Marginalia.Proofs.Outline.Heading
import Marginalia.Proofs.Passage.Progress
import Marginalia.Proofs.Site.Unresolved
import Marginalia.Proofs.Text.Lines

/-! The lines that headings, links and broken links are reported on. An offset into the text of a
passage is turned into a line by counting line feeds; that line is the one of the source file on
which the offset lies, so everything that is reported lies in the prose of its file. -/
namespace Marginalia
set_option autoImplicit false

/-! ## Lines of passages and of the file -/

namespace Passage
open Outline

/-- Line `n` of the file, counted from one, lies in the passage, which has it as `line`. -/
structure HasLine (text : String) (p : Passage) (n : Nat) (line : Line) : Prop where
  start_le : p.start ≤ n
  le_stop : n ≤ p.stop
  in_passage : p.lines[n - p.start]? = some line
  in_file : 1 ≤ n ∧ (Text.lines text.toList)[n - 1]? = some line.whole.toList

/-- The offset lies in the text of the line with the number `n`, or at its end. -/
def LiesOn (p : Passage) (offset n : Nat) (line : Line) : Prop :=
  ∃ k ≤ line.content.length, offset =
    (Text.ended ((p.lines.take (n - p.start)).map (·.content.toList))).length + k

theorem whole_of_segment {l : Language} {text : String} {p : Passage} (hp : p ∈ segment l text)
    {k : Nat} {line : Line} (hk : p.lines[k]? = some line) :
    1 ≤ p.start ∧ (Text.lines text.toList)[p.start - 1 + k]? = some line.whole.toList := by
  refine ⟨(number_line (runs_uniform _) (segment_eq l text ▸ hp) hk).1, ?_⟩
  obtain ⟨s, hs, -, rfl⟩ := segment_line hp hk
  have hwhole : (settle none (classify l text)).map (·.line.whole) =
      (Text.lines text.toList).map String.ofList := by
    have h := congrArg (List.map Line.whole) (settle_lines none (classify l text))
    rw [List.map_map, List.map_map] at h
    exact h.trans (classifyFrom_whole l true .outside _)
  have h := congrArg (·[p.start - 1 + k]?) hwhole
  simp only [List.getElem?_map, hs, Option.map_some] at h
  obtain ⟨cs, hcs, heq⟩ := Option.map_eq_some_iff.mp h.symm
  rw [hcs, ← heq, String.toList_ofList]

theorem not_mem_content {l : Language} {text : String} {p : Passage} (hp : p ∈ segment l text) :
    ∀ cs ∈ p.lines.map (·.content.toList), '\n' ∉ cs := by
  intro cs hcs
  obtain ⟨line, hline, rfl⟩ := List.mem_map.mp hcs
  obtain ⟨k, hk⟩ := List.mem_iff_getElem?.mp hline
  have hwhole := Text.not_mem_of_mem_lines (List.mem_of_getElem? (whole_of_segment hp hk).2)
  intro hm
  refine hwhole ?_
  rw [Line.whole, String.toList_append, String.toList_append]
  exact List.mem_append_left _ (List.mem_append_right _ hm)

theorem toList_text (p : Passage) :
    p.text.toList = ['\n'].intercalate (p.lines.map (·.content.toList)) := by
  rw [text, Text.join, String.toList_ofList, List.map_map]
  rfl

/-- The line that is counted for an offset is the line of the file on which the offset lies. -/
theorem exists_hasLine {l : Language} {text : String} {p : Passage} (hp : p ∈ segment l text)
    (offset : Nat) :
    ∃ line, HasLine text p (lineAt p.start p.text.toList offset) line ∧
      (offset ≤ p.text.length → LiesOn p offset (lineAt p.start p.text.toList offset) line) := by
  have hne : p.lines.map (·.content.toList) ≠ [] := by
    rw [ne_eq, List.map_eq_nil_iff]
    exact number_ne_nil (runs_ne_nil _) p (segment_eq l text ▸ hp)
  obtain ⟨i, cs, k, hi, hk, htake, hcount⟩ := Text.exists_line_at hne (not_mem_content hp) offset
  rw [← toList_text] at htake hcount
  rw [List.getElem?_map] at hi
  obtain ⟨line, hline, rfl⟩ := Option.map_eq_some_iff.mp hi
  obtain ⟨hstart, hwhole⟩ := whole_of_segment hp hline
  have hlt := (List.getElem?_eq_some_iff.mp hline).1
  have hback : p.start + i - p.start = i := by omega
  rw [lineAt, hcount]
  refine ⟨line, ⟨by omega, ?_, by rwa [hback], by omega, ?_⟩, fun hle => ⟨k, ?_, ?_⟩⟩
  · rw [stop]
    omega
  · rw [← hwhole]
    congr 1
    omega
  · rwa [String.length_toList] at hk
  · have hlength := congrArg List.length htake
    rw [List.length_take, String.length_toList, List.length_append, List.length_take] at hlength
    rw [hback, ← List.map_take] at *
    omega

/-- The offset at which a heading or a link starts. -/
def startOffset? : Markdown.Event → Option Nat
  | .start (.heading _ offset) => some offset
  | .start (.link _ _ _ offset) => some offset
  | _ => none

/-- A heading or a link in the prose of the file starts on line `n` of the file. -/
def StartsOn (l : Language) (text : String) (n : Nat) : Prop :=
  ∃ p ∈ segment l text, p.isProse = true ∧
    (∃ e ∈ Markdown.events p.text, ∃ offset, startOffset? e = some offset ∧
      n = lineAt p.start p.text.toList offset) ∧
    ∃ line, HasLine text p n line

theorem startsOn_lineAt {l : Language} {text : String} {p : Passage}
    (hp : p ∈ (segment l text).filter (·.isProse)) {e : Markdown.Event}
    (he : e ∈ Markdown.events p.text) {offset : Nat} (ho : startOffset? e = some offset) :
    StartsOn l text (lineAt p.start p.text.toList offset) := by
  obtain ⟨hp, hprose⟩ := List.mem_filter.mp hp
  obtain ⟨line, hline, -⟩ := exists_hasLine hp offset
  exact ⟨p, hp, hprose, ⟨e, he, offset, ho, rfl⟩, line, hline⟩

end Passage

/-! ## Headings and links of documents -/

namespace Outline
open Markdown Passage

theorem line_of_parseReference {destination : String} {n : Nat} {r : Reference}
    (h : parseReference destination n = some r) : r.line = n := by
  obtain ⟨-, hp⟩ | ⟨-, hp⟩ | ⟨-, -, hp⟩ := parseReference_cases destination n
  · exact absurd (h.symm.trans hp) (by simp)
  · exact absurd (h.symm.trans hp) (by simp)
  · obtain rfl := Option.some.inj (h.symm.trans hp)
    rfl

theorem offset_of_headingStart? {e : Event} {level offset : Nat}
    (h : headingStart? e = some (level, offset)) : startOffset? e = some offset := by
  unfold headingStart? at h
  split at h
  · cases h
    rfl
  · cases h

theorem offset_of_reference? {line : Nat → Nat} {e : Event} {r : Reference}
    (h : reference? line e = some r) : ∃ offset, startOffset? e = some offset ∧ r.line = line offset := by
  unfold reference? at h
  split at h
  · split at h
    · exact ⟨_, rfl, line_of_parseReference h⟩
    · cases h
  · cases h

theorem heading_startsOn {l : Language} {text : String} {h : Heading}
    (hh : h ∈ (ofPassages (segment l text)).headings) : StartsOn l text h.line := by
  have hmem : (h.level, h.line) ∈ (ofPassages (segment l text)).headings.map
      (fun g => (g.level, g.line)) := List.mem_map_of_mem hh
  rw [ofPassages_starts, List.mem_flatMap] at hmem
  obtain ⟨p, hp, hstart⟩ := hmem
  rw [Collector.passageStarts, Collector.starts, List.mem_map] at hstart
  obtain ⟨⟨level, offset⟩, hstart, heq⟩ := hstart
  obtain ⟨e, he, hoffset⟩ := List.mem_filterMap.mp hstart
  have hline : lineAt p.start p.text.toList offset = h.line := congrArg Prod.snd heq
  rw [← hline]
  exact startsOn_lineAt hp he (offset_of_headingStart? hoffset)

theorem reference_startsOn {l : Language} {text : String} {r : Reference}
    (hr : r ∈ (ofPassages (segment l text)).references) : StartsOn l text r.line := by
  rw [ofPassages_references, List.mem_flatMap] at hr
  obtain ⟨p, hp, hr⟩ := hr
  obtain ⟨e, he, hreference⟩ := List.mem_filterMap.mp hr
  obtain ⟨offset, hoffset, hline⟩ := offset_of_reference? hreference
  rw [hline]
  exact startsOn_lineAt hp he hoffset

end Outline

/-! ## Broken links of sites -/

namespace Site
open Outline Passage

/-- The line that is counted for an offset into prose lies in the passage, is a line of the file, and
the offset lies on it. So headings, links and broken links are reported on lines of prose of their
files. -/
theorem reported_on_lines_of_prose :
    (∀ (l : Language) (text : String), ∀ p ∈ segment l text, p.isProse = true →
      ∀ offset ≤ p.text.length, ∃ line,
        HasLine text p (lineAt p.start p.text.toList offset) line ∧
        LiesOn p offset (lineAt p.start p.text.toList offset) line) ∧
    (∀ (path text : String) (l : Language) (m : PageMap),
      (∀ h ∈ (Document.read path text l m).headings, StartsOn l text h.line) ∧
      ∀ r ∈ (Document.read path text l m).references, StartsOn l text r.line) ∧
    ∀ (name : String) (ds : List Document) (s : Site),
      (∀ d ∈ ds, ∃ path text l m, d = Document.read path text l m) → build name ds = .ok s →
      ∀ b ∈ s.brokenLinks, ∃ path text l m, Document.read path text l m ∈ ds ∧
        b.path = Path.normalize path ∧ StartsOn l text b.line := by
  refine ⟨fun l text p hp _ offset hle => ?_, fun path text l m =>
    ⟨fun h => heading_startsOn, fun r => reference_startsOn⟩, fun name ds s hread hb b hm => ?_⟩
  · obtain ⟨line, hline, hlies⟩ := exists_hasLine hp offset
    exact ⟨line, hline, hlies hle⟩
  · obtain ⟨d, hd, hm⟩ := List.mem_flatMap.mp hm
    have hds := (documents_perm hb).mem_iff.mp hd
    obtain ⟨path, text, l, m, rfl⟩ := hread d hds
    obtain ⟨r, hr, rfl⟩ := List.mem_map.mp hm
    exact ⟨path, text, l, m, hds, rfl, reference_startsOn (List.mem_filter.mp hr).1⟩

/-- The second line of a comment below code, and a link of a second line that leads nowhere. -/
theorem reported_on_lines_of_prose_below_code :
    (∃ p ∈ segment { Language.named "Slashes" with lineComments := ["//"] } "x\n// a\n// b",
      ∃ line, HasLine "x\n// a\n// b" p 3 line ∧ LiesOn p 2 3 line) ∧
    ∃ d s, build "notes" [d] = .ok s ∧ ⟨"a.md", 2, "c.md"⟩ ∈ s.brokenLinks ∧
      ∃ path text l m, Document.read path text l m ∈ [d] ∧ "a.md" = Path.normalize path ∧
        StartsOn l text 2 := by
  obtain ⟨hoffsets, -, hbroken⟩ := reported_on_lines_of_prose
  constructor
  · have hp : ⟨.prose, 2, [⟨"// ", "a", ""⟩, ⟨"// ", "b", ""⟩], false⟩ ∈
        segment { Language.named "Slashes" with lineComments := ["//"] } "x\n// a\n// b" := by decide
    exact ⟨_, hp, hoffsets _ _ _ hp rfl 2 (by decide)⟩
  · obtain ⟨d, hd, hsource, -, href⟩ := exists_read_two_links
    have hb : build "notes" [d] = .ok (arrange "notes" [d]) :=
      build_eq_ok_iff.mpr ⟨by simp, by simp, rfl⟩
    have hdocuments : (arrange "notes" [d]).documents = [d] :=
      List.perm_singleton.mp (documents_perm hb)
    have hlost : (arrange "notes" [d]).follow? "a.md" "c.md" = none := by
      rw [follow?_eq_none_iff, hdocuments, List.forall_mem_singleton, hsource]
      decide
    have hm : ⟨"a.md", 2, "c.md"⟩ ∈ (arrange "notes" [d]).brokenLinks := by
      rw [brokenLinks, hdocuments, List.flatMap_singleton, brokenIn, href, hsource]
      exact List.mem_map.mpr ⟨⟨"c.md", "c.md", none, 2⟩, by simp [hlost], rfl⟩
    exact ⟨d, _, hb, hm, hbroken "notes" [d] _
      (List.forall_mem_singleton.mpr ⟨_, _, _, _, hd.symm⟩) hb _ hm⟩

end Site

end Marginalia
