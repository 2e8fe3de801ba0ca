import Marginalia.Page.Basic
import Marginalia.Proofs.Html.Link
import Marginalia.Proofs.Page.Prose
import Marginalia.Proofs.Site.Unresolved

/-! Links that lead nowhere, as the pages show them and as the site reports them. Both pick from the
same links of the prose; a page passes over those inside images, and the report passes over those
that start with their query. -/
namespace Marginalia.Page
open Html Markdown Outline
set_option autoImplicit false

/-! ## Written links -/

/-- Can the characters stand in the value of an attribute as they are? -/
def isClean (cs : List Char) : Bool :=
  cs.all fun c => c ≠ '"' && c ≠ '>'

theorem isClean_append (a b : List Char) : isClean (a ++ b) = (isClean a && isClean b) :=
  List.all_append

theorem addressChar_clean (c : Char) : isClean (addressChar c) = true := by
  have hhex : ∀ n < 16, isClean [Url.upperHex n] = true := by decide
  have hbyte : ∀ byte : UInt8, isClean (Url.percentByte byte) = true := by
    intro byte
    have hlt : byte.toNat < 256 := byte.toNat_lt
    have hsplit : Url.percentByte byte =
        ['%'] ++ [Url.upperHex (byte.toNat / 16)] ++ [Url.upperHex (byte.toNat % 16)] := rfl
    rw [hsplit, isClean_append, isClean_append, hhex _ (by omega), hhex _ (by omega)]
    rfl
  unfold addressChar
  split_ifs with hplain
  · have hquote : c ≠ '"' := by
      rintro rfl
      exact absurd hplain (by decide)
    have hend : c ≠ '>' := by
      rintro rfl
      exact absurd hplain (by decide)
    simp [isClean, hquote, hend]
  · decide
  · decide
  · rw [isClean, List.all_flatMap, List.all_eq_true]
    exact fun byte _ => hbyte byte

theorem escapeAddress_clean (s : String) : isClean (escapeAddress s).toList = true := by
  rw [escapeAddress, String.toList_ofList, isClean, List.all_flatMap, List.all_eq_true]
  exact fun c _ => addressChar_clean c

theorem writable_of_clean {name value : String} (hn : IsAttributeName name)
    (hv : isClean value.toList = true) : Writable (name, value) := by
  rw [isClean, List.all_eq_true] at hv
  refine ⟨hn, ?_, ?_⟩
  · intro hm
    exact absurd (hv _ hm) (by decide)
  · intro hm
    exact absurd (hv _ hm) (by decide)

def linkAttributes (kind : LinkKind) (address title : String) : List (String × String) :=
  [("href", (if kind = .mail then "mailto:" else "") ++ escapeAddress address)] ++
    if title = "" then [] else [("title", escape title)]

theorem start_link_out (w : Writer) (kind : LinkKind) (address title : String) (offset : Nat) :
    (w.start (.link kind address title offset)).out =
      w.out ++ startTag (linkAttributes kind address title) := by
  have hopen : "<a href=\"" = "<a" ++ " " ++ "href" ++ "=\"" := by decide
  have htitle : "\" title=\"" = "\"" ++ " " ++ "title" ++ "=\"" := by decide
  have hclose : "\">" = "\"" ++ ">" := by decide
  rw [Writer.start, Writer.write_out]
  congr 1
  unfold linkAttributes Writer.titleAttribute
  by_cases ht : title = ""
  · simp only [ht, if_true, startTag, writtenAttribute, List.append_nil, List.map_cons, List.map_nil,
      String.join_cons, String.join_nil, String.append_empty, hopen, hclose, String.append_assoc,
      -String.reduceAppend]
  · simp only [ht, if_false, startTag, writtenAttribute, List.cons_append, List.nil_append,
      List.map_cons, List.map_nil, String.join_cons, String.join_nil, String.append_empty, hopen,
      htitle, hclose, String.append_assoc, -String.reduceAppend]

theorem reads_linkAttributes (kind : LinkKind) (address title : String) :
    ∃ href, Reads (startTag (linkAttributes kind address title)) [⟨href, none⟩] := by
  have hscheme : isClean (if kind = LinkKind.mail then "mailto:" else "").toList = true := by
    split
    · decide
    · decide
  have hvalue : isClean
      ((if kind = .mail then "mailto:" else "") ++ escapeAddress address).toList = true := by
    rw [String.toList_append, isClean_append, hscheme, escapeAddress_clean]
    rfl
  have hhref : Writable ("href", (if kind = .mail then "mailto:" else "") ++ escapeAddress address) :=
    writable_of_clean (by decide) hvalue
  have hwritable : ∀ a ∈ linkAttributes kind address title, Writable a := by
    rw [linkAttributes, List.forall_mem_append]
    refine ⟨List.forall_mem_singleton.mpr hhref, ?_⟩
    split
    · simp
    · exact List.forall_mem_singleton.mpr (.escape (by decide) title)
  have hlink : ∃ href, linkOf (linkAttributes kind address title) = some ⟨href, none⟩ := by
    rw [linkAttributes]
    by_cases ht : title = ""
    · rw [if_pos ht]
      exact ⟨_, rfl⟩
    · rw [if_neg ht]
      exact ⟨_, rfl⟩
  obtain ⟨href, hl⟩ := hlink
  have htag := Reads.startTag hwritable
  rw [hl] at htag
  exact ⟨href, htag⟩

/-- The tag of a broken link keeps the destination and carries the mark. -/
theorem reads_brokenTag (destination : String) :
    Reads (brokenTag destination) [⟨destination, some "broken-link"⟩] := by
  have hopen : "<a href=\"" = "<a" ++ " " ++ "href" ++ "=\"" := by decide
  have hclose : "\" class=\"broken-link\" title=\"broken link\">" =
      "\"" ++ " " ++ "class" ++ "=\"" ++ "broken-link" ++ "\"" ++ " " ++ "title" ++ "=\"" ++
        "broken link" ++ "\"" ++ ">" := by decide
  have heq : brokenTag destination = startTag
      [("href", escape destination), ("class", "broken-link"), ("title", "broken link")] := by
    unfold brokenTag
    simp only [startTag, writtenAttribute, List.map_cons, List.map_nil, String.join_cons,
      String.join_nil, String.append_empty, hopen, hclose, String.append_assoc,
      -String.reduceAppend]
  have htag : Reads
      (startTag [("href", escape destination), ("class", "broken-link"), ("title", "broken link")])
      [⟨unescape (escape destination), some "broken-link"⟩] := by
    apply Reads.startTag
    simp only [List.forall_mem_cons]
    exact ⟨.escape (by decide) _, ⟨by decide, by decide, by decide⟩,
      ⟨by decide, by decide, by decide⟩, by simp⟩
  rwa [unescape_escape, ← heq] at htag

/-! ## Links shown as broken -/

/-- The destinations of the links that markup marks as broken. -/
def brokenMarks (markup : List Char) : List String :=
  ((links markup).filter (·.cls = some "broken-link")).map (·.href)

def isLink : Event → Bool
  | .start (.link ..) => true
  | _ => false

/-- The destinations of the links that are written as broken while a writer takes in the events of a
file. -/
def shownFrom (s : Site) (source : String) : Writer → List Event → List String
  | _, [] => []
  | w, e :: es =>
    let next := w.step (pointLink s source e)
    (if isLink e then brokenMarks (written w next) else []) ++ shownFrom s source next es

/-- A link that may name a file, as a writer comes to it. -/
structure Mention where
  destination : String
  /-- Does it stand inside an image? -/
  inImage : Bool
  deriving DecidableEq, Repr

def mentionsFrom (s : Site) (source : String) : Writer → List Event → List Mention
  | _, [] => []
  | w, e :: es =>
    ((fileLink? e).map fun destination => ⟨destination, w.image.isSome⟩).toList ++
      mentionsFrom s source (w.step (pointLink s source e)) es

/-- The link is relative, and no file of the site is where it leads. -/
def leadsNowhere (s : Site) (source destination : String) : Bool :=
  isRelativeTarget destination && (s.resolve? source destination).isNone

/-- A link is written as broken if it leads nowhere and stands outside images. -/
theorem brokenMarks_link {s : Site} {source : String} (hs : (s.document? source).isSome = true)
    (w : Writer) (kind : LinkKind) (destination title : String) (offset : Nat) :
    brokenMarks (written w
      (w.step (pointLink s source (.start (.link kind destination title offset))))) =
      if namesFile kind && leadsNowhere s source destination && !w.image.isSome then [destination]
      else [] := by
  rw [leadsNowhere, ← Site.href?_isNone hs, ← Bool.and_assoc]
  obtain ⟨hb, hp⟩ | ⟨hb, address, hp⟩ := pointLink_cases s source kind destination title offset
  -- inside an image the tag of a broken link is escaped, and other links write nothing
  · rw [hp, hb, Writer.step]
    cases w.image with
    | none =>
      have hout : (w.plainStep (.html (brokenTag destination))).out =
          w.out ++ brokenTag destination := Writer.write_out w _
      rw [written_of_out hout, brokenMarks, (reads_brokenTag destination).links_eq]
      rfl
    | some image =>
      have hout : (w.imageStep image (.html (brokenTag destination))).out =
          w.out ++ escape (brokenTag destination) := rfl
      rw [written_of_out hout, brokenMarks, Reads.links_eq (Holds.escape _)]
      rfl
  · rw [hp, hb, Writer.step]
    cases w.image with
    | none =>
      obtain ⟨href, hread⟩ := reads_linkAttributes kind address title
      have hout := start_link_out w kind address title offset
      rw [Writer.plainStep, written_of_out hout, brokenMarks, hread.links_eq]
      rfl
    | some image =>
      have hout : (w.imageStep image (.start (.link kind address title offset))).out =
          w.out ++ "" := String.append_empty.symm
      rw [written_of_out hout]
      rfl

theorem link_cases (e : Event) :
    (∃ kind destination title offset, e = .start (.link kind destination title offset)) ∨
    (isLink e = false ∧ fileLink? e = none) := by
  by_cases hl : isLink e = true
  · refine .inl ?_
    unfold isLink at hl
    split at hl
    · exact ⟨_, _, _, _, rfl⟩
    · exact absurd hl (by decide)
  · refine .inr ⟨Bool.eq_false_iff.mpr hl, ?_⟩
    unfold fileLink?
    split
    · exact absurd rfl hl
    · rfl

/-- The links shown as broken are those outside images that lead nowhere. -/
theorem shownFrom_eq {s : Site} {source : String} (hs : (s.document? source).isSome = true)
    (w : Writer) (es : List Event) :
    shownFrom s source w es =
      ((mentionsFrom s source w es).filter fun m =>
        leadsNowhere s source m.destination && !m.inImage).map (·.destination) := by
  induction es generalizing w with
  | nil => rfl
  | cons e es ih =>
    rw [shownFrom, mentionsFrom, ih, List.filter_append, List.map_append]
    congr 1
    obtain ⟨kind, destination, title, offset, rfl⟩ | ⟨hl, hf⟩ := link_cases e
    · rw [isLink, if_pos rfl, brokenMarks_link hs, fileLink?]
      cases namesFile kind with
      | false => rfl
      | true =>
        simp only [Bool.true_and, if_true, Option.map_some, Option.toList_some, List.filter_cons,
          List.filter_nil]
        split
        · rfl
        · rfl
    · rw [hl, hf]
      rfl

theorem mentionsFrom_destinations (s : Site) (source : String) (w : Writer) (es : List Event) :
    (mentionsFrom s source w es).map (·.destination) = es.filterMap fileLink? := by
  induction es generalizing w with
  | nil => rfl
  | cons e es ih =>
    rw [mentionsFrom, List.map_append, ih]
    cases hf : fileLink? e with
    | none => rw [List.filterMap_cons_none hf]; rfl
    | some destination => rw [List.filterMap_cons_some hf]; rfl

/-! ## All the prose of a document -/

/-- The links that may name a file, in all the prose of a document. -/
def mentions (s : Site) (d : Document) : List Mention :=
  gather (mentionsFrom s d.source) s d.source (d.headings.map (·.anchor)) d.passages

/-- The destinations of the links that the page of a document shows as broken. -/
def shownBroken (s : Site) (d : Document) : List String :=
  gather (shownFrom s d.source) s d.source (d.headings.map (·.anchor)) d.passages

/-- The destinations of the links of a document that the site reports as broken. -/
def reportedBroken (s : Site) (d : Document) : List String :=
  (s.brokenLinks.filter (·.path = d.source)).map (·.target)

theorem shownBroken_eq {s : Site} {d : Document} (hs : (s.document? d.source).isSome = true) :
    shownBroken s d = ((mentions s d).filter fun m =>
      leadsNowhere s d.source m.destination && !m.inImage).map (·.destination) := by
  rw [shownBroken, mentions]
  apply gather_map fun ms : List Mention =>
    (ms.filter fun m => leadsNowhere s d.source m.destination && !m.inImage).map (·.destination)
  · rfl
  · intro as bs
    rw [List.filter_append, List.map_append]
  · exact shownFrom_eq hs

theorem mentions_destinations (s : Site) (d : Document) :
    (mentions s d).map (·.destination) =
      (d.passages.filter (·.isProse)).flatMap fun p => (events p.text).filterMap fileLink? := by
  rw [← gather_const (fun es => es.filterMap fileLink?) s d.source (d.headings.map (·.anchor))]
  symm
  apply gather_map (List.map Mention.destination)
  · rfl
  · exact fun as bs => List.map_append
  · exact fun w es => (mentionsFrom_destinations s d.source w es).symm

/-! ## Links reported as broken -/

def isReported (s : Site) (source destination : String) : Bool :=
  leadsNowhere s source destination && !startsWithQuery destination

theorem reported_of_parse (s : Site) (source destination : String) (line : Nat) :
    ((parseReference destination line).toList.filter fun r =>
      (s.follow? source r.path).isNone).map (·.raw) =
      if isReported s source destination then [destination] else [] := by
  obtain ⟨hr, hp⟩ | ⟨hq, hp⟩ | ⟨hr, hq, hp⟩ := parseReference_cases destination line
  · rw [hp, isReported, leadsNowhere, hr]
    rfl
  · rw [hp, isReported, hq, Bool.not_true, Bool.and_false]
    rfl
  · obtain ⟨hr', -⟩ | ⟨hq', -⟩ | ⟨-, -, hp'⟩ := parseReference_cases destination 0
    · exact absurd (hr.symm.trans hr') (by decide)
    · exact absurd (hq.symm.trans hq') (by decide)
    · rw [hp, isReported, leadsNowhere, hr, hq, Site.resolve?, hp']
      cases hf : s.follow? source (String.ofList (Url.percentDecode (codedPath destination))) with
      | none => simp [hf]
      | some target => simp [hf]

theorem reported_of_events (s : Site) (source : String) (line : Nat → Nat) (es : List Event) :
    ((es.filterMap (reference? line)).filter fun r => (s.follow? source r.path).isNone).map (·.raw) =
      (es.filterMap fileLink?).filter (isReported s source) := by
  induction es with
  | nil => rfl
  | cons e es ih =>
    obtain ⟨hf, hr⟩ | ⟨destination, n, hf, hr⟩ := reference?_cases line e
    · rw [List.filterMap_cons_none hf, List.filterMap_cons_none hr, ih]
    · have hcons : (e :: es).filterMap (reference? line) =
          (parseReference destination n).toList ++ es.filterMap (reference? line) := by
        rw [List.filterMap_cons, hr]
        cases parseReference destination n with
        | none => rfl
        | some r => rfl
      rw [hcons, List.filterMap_cons_some hf, List.filter_append, List.map_append, ih,
        reported_of_parse, List.filter_cons]
      split
      · rfl
      · rfl

theorem brokenIn_targets {s : Site} {d : Document}
    (hr : d.references = (Outline.ofPassages d.passages).references) :
    (s.brokenIn d).map (·.target) =
      ((mentions s d).map (·.destination)).filter (isReported s d.source) := by
  rw [Site.brokenIn, List.map_map, hr, ofPassages_references, mentions_destinations]
  generalize d.passages.filter (·.isProse) = ps
  induction ps with
  | nil => rfl
  | cons p ps ih =>
    rw [List.flatMap_cons, List.flatMap_cons, List.filter_append, List.filter_append,
      List.map_append, ih, passageReferences, ← reported_of_events]
    rfl

theorem reportedBroken_eq_brokenIn {s : Site} (hn : (s.documents.map (·.source)).Nodup)
    {d : Document} (hd : d ∈ s.documents) :
    s.brokenLinks.filter (·.path = d.source) = s.brokenIn d := by
  rw [s.brokenLinks_filter_path (· = d.source), Site.filter_eq_singleton hn hd,
    List.flatMap_singleton]

/-! ## Where the two differ -/

/-- Two choices from one list, told apart by their destinations, are the same only if every link is
in both or in neither. -/
theorem filter_shown_eq_iff {ms : List Mention} {nowhere query : String → Bool}
    (hq : ∀ destination, query destination = true → nowhere destination = true) :
    (ms.filter fun m => nowhere m.destination && !m.inImage).map (·.destination) =
        (ms.filter fun m => nowhere m.destination && !query m.destination).map (·.destination) ↔
      ∀ m ∈ ms, (query m.destination = true → m.inImage = true) ∧
        (nowhere m.destination = true → m.inImage = true → query m.destination = true) := by
  constructor
  · intro he
    -- a link that starts with its query is in no report, so none is shown
    have hsub : ∀ m ∈ ms, (nowhere m.destination && !m.inImage) = true →
        (nowhere m.destination && !query m.destination) = true := by
      intro m hm hshown
      have hmem : m.destination ∈
          (ms.filter fun m => nowhere m.destination && !m.inImage).map (·.destination) :=
        List.mem_map_of_mem (List.mem_filter.mpr ⟨hm, hshown⟩)
      rw [he] at hmem
      obtain ⟨m', hm', hd⟩ := List.mem_map.mp hmem
      rw [← hd]
      exact (List.mem_filter.mp hm').2
    -- so what is shown is chosen from what is reported, and they are equally many
    have hfilter : ms.filter (fun m => nowhere m.destination && !m.inImage) =
        (ms.filter fun m => nowhere m.destination && !query m.destination).filter
          fun m => nowhere m.destination && !m.inImage := by
      rw [List.filter_filter]
      apply List.filter_congr
      intro m hm
      cases hs : nowhere m.destination && !m.inImage with
      | false => rfl
      | true => rw [hsub m hm hs, Bool.and_self]
    have hlength := congrArg List.length he
    rw [List.length_map, List.length_map, hfilter, List.length_filter_eq_length_iff] at hlength
    intro m hm
    constructor
    · intro hquery
      by_contra himage
      have hshown : (nowhere m.destination && !m.inImage) = true := by
        rw [hq _ hquery, Bool.eq_false_iff.mpr himage]
        rfl
      have hreported := hsub m hm hshown
      rw [hquery, Bool.not_true, Bool.and_false] at hreported
      exact absurd hreported (by decide)
    · intro hn himage
      by_contra hquery
      have hreported : (nowhere m.destination && !query m.destination) = true := by
        rw [hn, Bool.eq_false_iff.mpr hquery]
        rfl
      have hshown := hlength m (List.mem_filter.mpr ⟨hm, hreported⟩)
      rw [himage, Bool.not_true, Bool.and_false] at hshown
      exact absurd hshown (by decide)
  · intro hagree
    congr 1
    apply List.filter_congr
    intro m hm
    cases hn : nowhere m.destination with
    | false => rfl
    | true => rw [Bool.eq_iff_iff.mpr ⟨(hagree m hm).2 hn, (hagree m hm).1⟩]

theorem leadsNowhere_of_query (s : Site) (source : String) {destination : String}
    (h : startsWithQuery destination = true) : leadsNowhere s source destination = true := by
  have hr := isRelativeTarget_of_query h
  have hp : parseReference destination 0 = none := by
    obtain ⟨hr', -⟩ | ⟨-, hp⟩ | ⟨-, hq, -⟩ := parseReference_cases destination 0
    · exact absurd (hr.symm.trans hr') (by decide)
    · exact hp
    · exact absurd (h.symm.trans hq) (by decide)
  rw [leadsNowhere, hr, Site.resolve?, hp]
  rfl

/-- What is shown as broken and what is reported. They are the same unless a link that starts with
its query stands outside images, or another one that leads nowhere stands inside. -/
theorem shown_eq_reported_iff {name : String} {ds : List Document} {s : Site}
    (hb : Site.build name ds = .ok s) {d : Document} (hd : d ∈ s.documents)
    (hread : ∃ path text l m, d = Document.read path text l m) :
    shownBroken s d = ((mentions s d).filter fun m =>
      leadsNowhere s d.source m.destination && !m.inImage).map (·.destination) ∧
    reportedBroken s d = ((mentions s d).filter fun m =>
      leadsNowhere s d.source m.destination && !startsWithQuery m.destination).map (·.destination) ∧
    (shownBroken s d = reportedBroken s d ↔ ∀ m ∈ mentions s d,
      (startsWithQuery m.destination = true → m.inImage = true) ∧
      (leadsNowhere s d.source m.destination = true → m.inImage = true →
        startsWithQuery m.destination = true)) := by
  have hsome : (s.document? d.source).isSome = true :=
    List.find?_isSome.mpr ⟨d, hd, by simp⟩
  have hrefs : d.references = (Outline.ofPassages d.passages).references := by
    obtain ⟨path, text, l, m, rfl⟩ := hread
    rfl
  have hshown := shownBroken_eq hsome
  have hreported : reportedBroken s d = ((mentions s d).filter fun m =>
      leadsNowhere s d.source m.destination && !startsWithQuery m.destination).map
        (·.destination) := by
    rw [reportedBroken, reportedBroken_eq_brokenIn (Site.sources_nodup hb) hd,
      brokenIn_targets hrefs, List.filter_map]
    rfl
  refine ⟨hshown, hreported, ?_⟩
  rw [hshown, hreported]
  exact filter_shown_eq_iff fun destination => leadsNowhere_of_query s d.source

/-- A link that is only a query is shown as broken and not reported. -/
theorem query_link_shown_and_not_reported :
    let d := Document.read "a.md" "[x](?q)" { Language.named "Markdown" with proseOnly := true } {}
    ∃ s, Site.build "notes" [d] = .ok s ∧ d ∈ s.documents ∧
      shownBroken s d = ["?q"] ∧ reportedBroken s d = [] := by
  intro d
  have hb : Site.build "notes" [d] = .ok (Site.arrange "notes" [d]) :=
    Site.build_eq_ok_iff.mpr ⟨by simp, by simp, rfl⟩
  have hd : d ∈ (Site.arrange "notes" [d]).documents :=
    (Site.documents_perm hb).mem_iff.mpr (List.mem_singleton_self d)
  obtain ⟨hshown, hreported, -⟩ := shown_eq_reported_iff hb hd ⟨_, _, _, _, rfl⟩
  refine ⟨_, hb, hd, ?_, ?_⟩
  · rw [hshown]
    decide +kernel
  · rw [hreported]
    decide +kernel

end Marginalia.Page
