import Marginalia.Page.SearchIndex
import Marginalia.Proofs.Html.Element
import Marginalia.Proofs.Outline.Heading
import Marginalia.Proofs.Page.Output
import Marginalia.Proofs.Page.Prose

/-! Headings on a page have the anchors of the outline. The outline gives out anchors where headings
stop, the page takes them where headings start; both meet the same headings in the same order. -/
namespace Marginalia.Page
open Html Markdown Outline
set_option autoImplicit false

/-! ## The tag of a heading -/

def firstElement (markup : List Char) : Option Element :=
  (readTags none markup).head?.map element

/-- The elements that are written where headings start, one for each heading. -/
def headingTagsFrom (s : Site) (source : String) : Writer → List Event → List (Option Element)
  | _, [] => []
  | w, e :: es =>
    let next := w.step (pointLink s source e)
    (if (headingStart? e).isSome then [firstElement (written w next)] else []) ++
      headingTagsFrom s source next es

theorem isAttributeName_heading (level : Nat) : IsAttributeName ("h" ++ Nat.repr level) := by
  intro c hc
  rw [String.toList_append, List.mem_append] at hc
  obtain hc | hc := hc
  · have hh : c = 'h' := by simpa using hc
    rw [hh]
    decide
  · have hdigit := isDigit_of_mem_repr hc
    refine ⟨?_, ?_, ?_, ?_⟩
    all_goals
      rintro rfl
      exact absurd hdigit (by decide)

def headingAttributes (id? : Option String) : List (String × String) :=
  (id?.map fun id => ("id", escape id)).toList

theorem toList_headingTag (level : Nat) (id? : Option String) :
    (Writer.headingTag level id?).toList =
      '<' :: (("h" ++ Nat.repr level).toList ++ (headingAttributes id?).flatMap inTag) ++ ['>'] := by
  cases id? with
  | none => simp [Writer.headingTag, headingAttributes]
  | some id => simp [Writer.headingTag, headingAttributes, inTag]

theorem firstElement_headingTag {lead : String} (hl : '<' ∉ lead.toList) (level : Nat)
    (id? : Option String) :
    firstElement (lead ++ Writer.headingTag level id?).toList =
      some ⟨"h" ++ Nat.repr level, id?⟩ := by
  have hname := isAttributeName_heading level
  have hwritable : ∀ a ∈ headingAttributes id?, Writable a := by
    intro a ha
    obtain ⟨id, -, rfl⟩ := Option.map_eq_some_iff.mp (Option.mem_toList.mp ha)
    exact .escape (by decide) id
  have hid : (readBack (headingAttributes id?)).lookup "id" = id? := by
    cases id? with
    | none => rfl
    | some id => exact congrArg some (unescape_escape id)
  rw [firstElement, String.toList_append, readTags_text hl, toList_headingTag,
    readTags_tag (end_not_mem_tag hname hwritable), List.head?_cons, Option.map_some,
    element_append hname hwritable, hid]

/-! ## Walks -/

theorem headingTagsFrom_append (s : Site) (source : String) (w : Writer) (front back : List Event) :
    headingTagsFrom s source w (front ++ back) =
      headingTagsFrom s source w front ++
        headingTagsFrom s source (writeEvents s source w front) back := by
  induction front generalizing w with
  | nil => rfl
  | cons e front ih =>
    rw [List.cons_append, headingTagsFrom, headingTagsFrom, ih, List.append_assoc]
    rfl

theorem headingTagsFrom_eq_nil (s : Site) (source : String) (w : Writer) {es : List Event}
    (h : ∀ e ∈ es, marksHeading e = false) : headingTagsFrom s source w es = [] := by
  induction es generalizing w with
  | nil => rfl
  | cons e es ih =>
    have he := headingStart?_of_not_marks (h e (List.mem_cons_self ..))
    rw [headingTagsFrom, he, ih _ fun e' he' => h e' (List.mem_cons_of_mem e he')]
    rfl

/-- Headings of these levels that take identifiers in turn. -/
def headingElements : List Nat → List String → List (Option Element)
  | [], _ => []
  | level :: levels, ids =>
    some ⟨"h" ++ Nat.repr level, ids.head?⟩ :: headingElements levels ids.tail

theorem headingElements_append (front back : List Nat) (ids : List String) :
    headingElements (front ++ back) ids =
      headingElements front ids ++ headingElements back (ids.drop front.length) := by
  induction front generalizing ids with
  | nil => rfl
  | cons level front ih =>
    rw [List.cons_append, headingElements, headingElements, ih, List.cons_append, List.length_cons,
      List.drop_tail]

def headingLevels (es : List Event) : List Nat :=
  (es.filterMap headingStart?).map (·.1)

theorem headingLevels_append (front back : List Event) :
    headingLevels (front ++ back) = headingLevels front ++ headingLevels back := by
  rw [headingLevels, List.filterMap_append, List.map_append]
  rfl

/-- The writer stands outside images and has given the headings their identifiers. -/
structure Gives (s : Site) (source : String) (w : Writer) (es : List Event) : Prop where
  outside : (writeEvents s source w es).image = none
  ids : (writeEvents s source w es).ids = w.ids.drop (headingLevels es).length
  tags : headingTagsFrom s source w es = headingElements (headingLevels es) w.ids

theorem Gives.append {s : Site} {source : String} {w : Writer} {front back : List Event}
    (hf : Gives s source w front) (hb : Gives s source (writeEvents s source w front) back) :
    Gives s source w (front ++ back) where
  outside := by
    rw [writeEvents_append]
    exact hb.outside
  ids := by
    rw [writeEvents_append, hb.ids, hf.ids, List.drop_drop, headingLevels_append,
      List.length_append]
  tags := by
    rw [headingTagsFrom_append, hf.tags, hb.tags, hf.ids, headingLevels_append,
      headingElements_append]

theorem gives_inline (s : Site) (source : String) {w : Writer} (hw : w.image = none)
    (is : List Inline) : Gives s source w (inlineEvents is) := by
  have hmarks := not_marks_inlineEvents is
  have hlevels : headingLevels (inlineEvents is) = [] := by
    rw [headingLevels, headingStarts_eq_nil hmarks]
    rfl
  refine ⟨image_inlineEvents s source hw is, ?_, ?_⟩
  · rw [writeEvents_ids s source w hmarks, hlevels]
    rfl
  · rw [headingTagsFrom_eq_nil s source w hmarks, hlevels]
    rfl

theorem gives_event (s : Site) (source : String) {w : Writer} (hw : w.image = none) {e : Event}
    (hm : marksHeading e = false) (hi : startsImage e = false) : Gives s source w [e] := by
  have hmarks : ∀ e' ∈ [e], marksHeading e' = false := by simpa using hm
  have hlevels : headingLevels [e] = [] := by
    rw [headingLevels, headingStarts_eq_nil hmarks]
    rfl
  obtain ⟨hheading, himage⟩ := pointLink_keeps s source e
  have hextends := Writer.extends_step hw (hheading.trans (headingStart?_of_not_marks hm))
    (himage.trans hi)
  refine ⟨hextends.image.trans hw, ?_, ?_⟩
  · rw [writeEvents_ids s source w hmarks, hlevels]
    rfl
  · rw [headingTagsFrom_eq_nil s source w hmarks, hlevels]
    rfl

theorem gives_start (s : Site) (source : String) {w : Writer} (hw : w.image = none)
    (level offset : Nat) : Gives s source w [.start (.heading level offset)] := by
  obtain ⟨hids, himage, hout⟩ := w.startHeading_spec level
  have hstep : w.step (pointLink s source (.start (.heading level offset))) =
      w.startHeading level := w.step_outside hw _
  have hrun : writeEvents s source w [.start (.heading level offset)] = w.startHeading level := hstep
  have hlead : '<' ∉ (if w.fresh then "" else "\n").toList := by
    split
    · decide
    · decide
  refine ⟨?_, ?_, ?_⟩
  · rw [hrun, himage, hw]
  · rw [hrun, hids, ← List.drop_one]
    rfl
  · rw [headingTagsFrom, hstep, written_of_out hout, firstElement_headingTag hlead]
    rfl

theorem gives_walk (s : Site) (source : String) {es : List Event} (h : Walk es) {w : Writer}
    (hw : w.image = none) : Gives s source w es := by
  induction h generalizing w with
  | nil => exact ⟨hw, rfl, rfl⟩
  | event hm hi _ ih =>
    have hfirst := gives_event s source hw hm hi
    exact hfirst.append (ih hfirst.outside)
  | inline is _ ih =>
    have hfirst := gives_inline s source hw is
    exact hfirst.append (ih hfirst.outside)
  | heading level offset is _ ih =>
    have hstart := gives_start s source hw level offset
    have hinner := hstart.append (gives_inline s source hstart.outside is)
    -- where a heading stops nothing starts, though the event marks a heading
    have hstop : Gives s source (writeEvents s source w
        ([.start (.heading level offset)] ++ inlineEvents is)) [.stop (.heading level offset)] := by
      have hextends := Writer.extends_step hinner.outside
        (rfl : headingStart? (.stop (.heading level offset)) = none) rfl
      exact ⟨hextends.image.trans hinner.outside, hextends.ids, rfl⟩
    have hheading := hinner.append hstop
    exact hheading.append (ih hheading.outside)

/-! ## All the prose of a document -/

/-- The elements that a document's page has where its headings start. -/
def headingTags (s : Site) (d : Document) : List (Option Element) :=
  gather (headingTagsFrom s d.source) s d.source (d.headings.map (·.anchor)) d.passages

/-- The identifiers left over once the passages are written. -/
def idsLeft (s : Site) (source : String) : List String → List Passage → List String
  | ids, [] => ids
  | ids, p :: rest =>
    if p.isProse then idsLeft s source (proseBody s source ids p).2 rest
    else idsLeft s source ids rest

def proseLevels (ps : List Passage) : List Nat :=
  (ps.filter (·.isProse)).flatMap fun p => headingLevels (events p.text)

theorem gives_passages (s : Site) (source : String) (ids : List String) (ps : List Passage) :
    gather (headingTagsFrom s source) s source ids ps = headingElements (proseLevels ps) ids ∧
      idsLeft s source ids ps = ids.drop (proseLevels ps).length := by
  induction ps generalizing ids with
  | nil => exact ⟨rfl, rfl⟩
  | cons p ps ih =>
    rw [gather, idsLeft, proseLevels, List.filter_cons]
    split
    next =>
      have hgives : Gives s source { ids } (events p.text) :=
        gives_walk s source (walk_of_text p.text) rfl
      obtain ⟨htags, hleft⟩ := ih (proseBody s source ids p).2
      have hnext : (proseBody s source ids p).2 =
          ids.drop (headingLevels (events p.text)).length := by
        rw [proseBody_eq]
        exact hgives.ids
      rw [htags, hleft, hgives.tags, hnext, List.flatMap_cons, headingElements_append,
        List.length_append, List.drop_drop]
      exact ⟨rfl, rfl⟩
    next => exact ih ids

theorem proseLevels_eq (ps : List Passage) :
    proseLevels ps = (ofPassages ps).headings.map (·.level) := by
  have hstarts := congrArg (List.map Prod.fst) (ofPassages_starts ps)
  rw [List.map_map, List.map_flatMap] at hstarts
  refine Eq.trans ?_ hstarts.symm
  rw [proseLevels]
  congr 1
  funext p
  rw [Collector.passageStarts, Collector.starts, List.map_map]
  rfl

theorem headingElements_headings (gs : List Heading) :
    headingElements (gs.map (·.level)) (gs.map (·.anchor)) =
      gs.map fun g => some ⟨"h" ++ Nat.repr g.level, some g.anchor⟩ := by
  induction gs with
  | nil => rfl
  | cons g gs ih =>
    rw [List.map_cons, List.map_cons, headingElements, List.tail_cons, ih]
    rfl

/-! ## Tags on the page -/

theorem carries_of_mem_headingTagsFrom {s : Site} {source : String} {w : Writer} {es : List Event}
    {e : Element} {id : String} (h : some e ∈ headingTagsFrom s source w es)
    (hid : e.id = some id) : Carries (writeEvents s source w es).out id := by
  induction es generalizing w with
  | nil => exact absurd h (by simp [headingTagsFrom])
  | cons event es ih =>
    rw [headingTagsFrom, List.mem_append] at h
    obtain h | h := h
    · split at h
      next =>
        rw [List.mem_singleton, firstElement] at h
        obtain ⟨tag, htag, rfl⟩ := Option.map_eq_some_iff.mp h.symm
        obtain ⟨text, ht⟩ := w.step_grows (pointLink s source event)
        obtain ⟨more, hm⟩ :=
          writeEvents_grows s source (w.step (pointLink s source event)) es
        rw [written_of_out ht] at htag
        refine (carries_of_mem_readTags (List.mem_of_head? htag) hid).mono ?_
        refine ⟨w.out.toList, more.toList, ?_⟩
        rw [← String.toList_append, ← ht, ← String.toList_append, ← hm]
        rfl
      next => exact absurd h List.not_mem_nil
    · exact ih h

theorem carries_sections (h : Highlighter) {s : Site} {d : Document} {ids : List String}
    {ps : List Passage} {e : Element} {id : String}
    (he : some e ∈ gather (headingTagsFrom s d.source) s d.source ids ps) (hid : e.id = some id) :
    Carries (sections h s d ids ps) id := by
  induction ps generalizing ids with
  | nil => exact absurd he (by simp [gather])
  | cons p ps ih =>
    rw [gather] at he
    unfold sections
    split at he
    next hp =>
      rw [if_pos hp]
      obtain he | he := List.mem_append.mp he
      · have hbody := carries_of_mem_headingTagsFrom he hid
        refine hbody.mono ?_
        simp only [proseBody_eq, String.toList_append]
        exact (List.infix_append _ _ _).trans (List.prefix_append _ _).isInfix
      · refine (ih he).mono ?_
        simp only [String.toList_append]
        exact (List.suffix_append _ _).isInfix
    next hp =>
      rw [if_neg hp]
      refine (ih he).mono ?_
      rw [String.toList_append]
      exact (List.suffix_append _ _).isInfix

/-! ## Documents of a site -/

section
variable {name : String} {ds : List Document} {s : Site} {d : Document}

theorem headingTags_eq (s : Site) (hr : d.headings = (ofPassages d.passages).headings) :
    headingTags s d = d.headings.map fun g => some ⟨"h" ++ Nat.repr g.level, some g.anchor⟩ := by
  rw [headingTags, (gives_passages ..).1, proseLevels_eq, ← hr, headingElements_headings]

theorem idsLeft_eq_nil (s : Site) (hr : d.headings = (ofPassages d.passages).headings) :
    idsLeft s d.source (d.headings.map (·.anchor)) d.passages = [] := by
  rw [(gives_passages ..).2, proseLevels_eq, ← hr, List.drop_eq_nil_iff, List.length_map,
    List.length_map]

theorem carries_content (h : Highlighter) (s : Site)
    (hr : d.headings = (ofPassages d.passages).headings) {g : Heading} (hg : g ∈ d.headings) :
    Carries (content h s d) g.anchor := by
  have hmem : some ⟨"h" ++ Nat.repr g.level, some g.anchor⟩ ∈ headingTags s d := by
    rw [headingTags_eq s hr]
    exact List.mem_map.mpr ⟨g, hg, rfl⟩
  exact carries_sections h hmem rfl

theorem heading_of_entry (hn : (s.documents.map (·.source)).Nodup) (hd : d ∈ s.documents)
    {e : SearchEntry} (he : e ∈ searchIndex s) (hk : e.kind = .heading) (hp : e.path = d.source) :
    ∃ g ∈ d.headings, e.link = d.page ++ "#" ++ g.anchor := by
  obtain ⟨d', hd', hentry⟩ := List.mem_flatMap.mp he
  obtain rfl | hentry := List.mem_cons.mp hentry
  · exact absurd hk (by simp)
  · obtain ⟨g, hg, rfl⟩ := List.mem_map.mp hentry
    have hsame : d' = d := List.inj_on_of_nodup_map hn hd' hd hp
    subst hsame
    exact ⟨g, hg, rfl⟩

/-- Every heading on the page of a document has its own anchor, no anchor is left over, and the links
of the search index lead to identifiers on the pages they name. -/
theorem headings_carry_their_anchors (hb : Site.build name ds = .ok s) (hd : d ∈ s.documents)
    (hread : ∃ path text l m, d = Document.read path text l m) (h : Highlighter) :
    headingTags s d =
      d.headings.map (fun g => some ⟨"h" ++ Nat.repr g.level, some g.anchor⟩) ∧
    idsLeft s d.source (d.headings.map (·.anchor)) d.passages = [] ∧
    (∃ html, document h s d = .ok html ∧ ∀ g ∈ d.headings, Carries html g.anchor) ∧
    ∃ files, outputFiles h s = .ok files ∧
      ∀ e ∈ searchIndex s, e.kind = .heading → e.path = d.source →
        ∃ f ∈ files, ∃ anchor, e.link = f.path ++ "#" ++ anchor ∧ Carries f.text anchor := by
  have hr : d.headings = (ofPassages d.passages).headings := by
    obtain ⟨path, text, l, m, rfl⟩ := hread
    rfl
  have hn := Site.sources_nodup hb
  refine ⟨headingTags_eq s hr, idsLeft_eq_nil s hr, ?_, ?_⟩
  · obtain ⟨html, hhtml, hinside⟩ := document_holds_content h hn hd
    exact ⟨html, hhtml, fun g hg => (carries_content h s hr hg).mono hinside⟩
  · obtain ⟨files, hfiles, f, hf, hpath, hinside⟩ := content_written hb h hd
    refine ⟨files, hfiles, ?_⟩
    intro e he hk hp
    obtain ⟨g, hg, hlink⟩ := heading_of_entry hn hd he hk hp
    refine ⟨f, hf, g.anchor, ?_, (carries_content h s hr hg).mono hinside⟩
    rw [hlink, hpath]

end

/-- Two headings with one text, in comments before and after code. -/
theorem headings_carry_across_code :
    let l := { Language.named "C" with lineComments := ["//"] }
    let d := Document.read "a.c" "// # Same\nint x;\n// # Same\n" l {}
    ∃ s html, Site.build "notes" [d] = .ok s ∧ d ∈ s.documents ∧
      headingTags s d = [some ⟨"h1", some "same"⟩, some ⟨"h1", some "same-1"⟩] ∧
      document plainHighlighter s d = .ok html ∧ Carries html "same" ∧ Carries html "same-1" := by
  intro l d
  have hb : Site.build "notes" [d] = .ok (Site.arrange "notes" [d]) :=
    Site.build_eq_ok_iff.mpr ⟨by simp, by simp, rfl⟩
  have hd : d ∈ (Site.arrange "notes" [d]).documents :=
    (Site.documents_perm hb).mem_iff.mpr (List.mem_singleton_self d)
  have hheadings : d.headings = [⟨1, "Same", "same", 1⟩, ⟨1, "Same", "same-1", 3⟩] := by
    decide +kernel
  obtain ⟨htags, -, ⟨html, hhtml, hcarries⟩, -⟩ :=
    headings_carry_their_anchors hb hd ⟨_, _, _, _, rfl⟩ plainHighlighter
  rw [hheadings] at htags hcarries
  exact ⟨_, html, hb, hd, htags, hhtml, hcarries _ (List.mem_cons_self ..),
    hcarries _ (List.mem_cons_of_mem _ (List.mem_cons_self ..))⟩

end Marginalia.Page
