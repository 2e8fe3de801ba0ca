import Marginalia.Proofs.Document.PagePath
import Marginalia.Proofs.Outline.Destination
import Marginalia.Proofs.Path.Relative
import Marginalia.Proofs.Site.Places

/-! Links between the files of a site. Every file can be named from every other, whatever characters
its path holds, by a relative path that is percent-coded. The addresses that pages write are not
coded, and lead back to their pages exactly if they are read as they stand. -/
namespace Marginalia.Site
open Marginalia.Path Outline
set_option autoImplicit false

theorem document?_of_mem {s : Site} (hn : (s.documents.map (·.source)).Nodup) {d : Document}
    (hd : d ∈ s.documents) : s.document? d.source = some d := by
  cases hf : s.document? d.source with
  | none =>
    have hnone := List.find?_eq_none.mp hf d hd
    exact absurd rfl (of_decide_eq_false (Bool.eq_false_iff.mpr hnone))
  | some e =>
    have hsource : e.source = d.source := by simpa using List.find?_some hf
    rw [List.inj_on_of_nodup_map hn (List.mem_of_find?_eq_some hf) hd hsource]

/-! ## Naming a file -/

theorem encodePath_head (source : String) {target : String} (ht : Plain target) :
    ∃ c rest, (Url.encodePath (relativeUrl source target)).toList = c :: rest ∧ c ≠ '/' := by
  obtain ⟨x, xs, hx, hslash⟩ := relativeUrl_head source ht
  have hdecode := Url.percentDecode_encodePath (relativeUrl source target)
  rw [hx] at hdecode
  cases hcs : (Url.encodePath (relativeUrl source target)).toList with
  | nil =>
    rw [hcs, Url.percentDecode_nil] at hdecode
    exact absurd hdecode (by simp)
  | cons c rest =>
    refine ⟨c, rest, rfl, ?_⟩
    rintro rfl
    have hplain : Url.percentDecode ('/' :: rest) = '/' :: Url.percentDecode rest :=
      Url.percentDecode_plain (by decide : '%' ∉ ['/']) rest
    rw [hcs, hplain] at hdecode
    exact hslash (List.cons.inj hdecode).1.symm

/-- A coded path is read as the path, whatever fragment stands behind it. -/
theorem parseReference_encodePath {source target : String} (ht : Plain target)
    (fragment : Option String) (line : Nat) :
    parseReference (withFragment (Url.encodePath (relativeUrl source target)) fragment) line =
      some ⟨withFragment (Url.encodePath (relativeUrl source target)) fragment,
        relativeUrl source target, fragment, line⟩ := by
  obtain ⟨c, rest, hcs, hslash⟩ := encodePath_head source ht
  have hkept : ∀ x ∈ (Url.encodePath (relativeUrl source target)).toList,
      Url.isKept x = true ∨ x = '%' := fun x hx => Url.mem_encodePath hx
  have hhash : '#' ∉ (Url.encodePath (relativeUrl source target)).toList :=
    fun hm => (Url.isKept_ordinary (hkept _ hm)).2.1 rfl
  have hquery : '?' ∉ (Url.encodePath (relativeUrl source target)).toList :=
    fun hm => (Url.isKept_ordinary (hkept _ hm)).2.2.1 rfl
  have hrelative : isRelativeTarget
      (withFragment (Url.encodePath (relativeUrl source target)) fragment) = true := by
    rw [isRelativeTarget_withFragment]
    exact isRelativeTarget_of_kept hcs hslash (hcs ▸ hkept)
  have hne : (relativeUrl source target).toList ≠ [] := by
    obtain ⟨x, xs, hx, -⟩ := relativeUrl_head source ht
    rw [hx]
    simp
  rw [parseReference_of_relative hrelative, codedPath_withFragment hhash, before_eq_self hquery,
    Url.percentDecode_encodePath, if_neg hne, String.ofList_toList,
    fragmentOf_withFragment.mpr hhash]

theorem resolve?_of_plain {s : Site} (hn : (s.documents.map (·.source)).Nodup) (source : String)
    {target : Document} (ht : target ∈ s.documents) (hplain : Plain target.source)
    (fragment : Option String) :
    s.resolve? source (withFragment (Url.encodePath (relativeUrl source target.source)) fragment) =
      some ⟨target.source, target.page, fileAnchor target.source, fragment⟩ := by
  have hfollow : s.follow? source (relativeUrl source target.source) = some target := by
    rw [follow?, join?_relativeUrl source hplain]
    exact document?_of_mem hn ht
  rw [resolve?, parseReference_encodePath hplain]
  simp [hfollow]

/-- Every file of a site is reached by its coded path relative to the file that links to it. -/
theorem encodePath_resolves {name : String} {ds : List Document} {s : Site}
    (hb : build name ds = .ok s) (source : String) {target : Document} (ht : target ∈ s.documents)
    (hread : ∃ path text l m, target = Document.read path text l m) (hne : target.source ≠ "")
    (hup : ".." ∉ segments target.source) (fragment : Option String) :
    s.resolve? source (withFragment (Url.encodePath (relativeUrl source target.source)) fragment) =
      some ⟨target.source, target.page, fileAnchor target.source, fragment⟩ := by
  have hplain : Plain target.source := by
    obtain ⟨path, text, l, m, rfl⟩ := hread
    exact plain_normalize hne hup
  exact resolve?_of_plain (sources_nodup hb) source ht hplain fragment

/-- A name of all the characters that mean something in a link, two directories away. -/
theorem encodePath_resolves_special :
    ∃ s, build "notes" [
        .read "a/b.md" "" (.named "Text") {},
        .read "c d/#?%:é.md" "" (.named "Text") {}] = .ok s ∧
      s.resolve? "a/b.md" "../c%20d/%23%3F%25%3A%C3%A9.md#top" =
        some ⟨"c d/#?%:é.md", "c d/#?%:é.md.html", "c_20_d-_23__3f__25__3a__e9_.md", some "top"⟩ := by
  obtain ⟨s, hb⟩ : ∃ s, build "notes" [
      .read "a/b.md" "" (.named "Text") {},
      .read "c d/#?%:é.md" "" (.named "Text") {}] = .ok s :=
    ⟨_, build_eq_ok_iff.mpr ⟨by decide, by decide, rfl⟩⟩
  have ht : Document.read "c d/#?%:é.md" "" (.named "Text") {} ∈ s.documents :=
    (documents_perm hb).mem_iff.mpr (by simp)
  have hresolve := encodePath_resolves hb "a/b.md" ht ⟨_, _, _, _, rfl⟩ (by decide) (by decide)
    (some "top")
  have hlink : withFragment (Url.encodePath (relativeUrl "a/b.md" "c d/#?%:é.md")) (some "top") =
      "../c%20d/%23%3F%25%3A%C3%A9.md#top" := by decide +kernel
  refine ⟨s, hb, ?_⟩
  rw [← hlink]
  exact hresolve

/-! ## Addresses of pages -/

/-- The address, read as a link on the page, leads to the page of the target and to its fragment. -/
def LeadsBack (page address : String) (t : Target) : Prop :=
  ∃ r, parseReference address 0 = some r ∧ join? (directory page) r.path = some t.page ∧
    r.fragment = t.fragment

/-- The address is read as the path that it spells. -/
def Literal (address : String) : Prop :=
  isRelativeTarget address = true ∧ '#' ∉ address.toList ∧ '?' ∉ address.toList ∧
    Url.percentDecode address.toList = address.toList

theorem parseReference_of_literal {address : String} (h : Literal address)
    (fragment : Option String) (line : Nat) :
    parseReference (withFragment address fragment) line =
      some ⟨withFragment address fragment, address, fragment, line⟩ := by
  obtain ⟨hrelative, hhash, hquery, hdecode⟩ := h
  have hne : address.toList ≠ [] := by
    obtain ⟨c, rest, hcs, -⟩ := head_of_isRelativeTarget hrelative
    rw [hcs]
    simp
  rw [← isRelativeTarget_withFragment _ fragment] at hrelative
  rw [parseReference_of_relative hrelative, codedPath_withFragment hhash, before_eq_self hquery,
    hdecode, if_neg hne, String.ofList_toList, fragmentOf_withFragment.mpr hhash]

theorem href?_eq {s : Site} {source destination : String} {d : Document} {t : Target}
    (hd : s.document? source = some d) (ht : s.resolve? source destination = some t) :
    s.href? source destination = some (withFragment (relativeUrl d.page t.page) t.fragment) := by
  rw [href?, ht, hd]
  cases hf : t.fragment with
  | none => simp [hf, withFragment]
  | some fragment => simp [hf, withFragment]

/-- The path that is read from an address leads to its page only if it is the address itself. -/
theorem join?_decoded_iff (page : String) {target : String} (ht : Plain target) :
    join? (directory page) (String.ofList
        (Url.percentDecode (before '?' (relativeUrl page target).toList))) = some target ↔
      '?' ∉ (relativeUrl page target).toList ∧
        Url.percentDecode (relativeUrl page target).toList = (relativeUrl page target).toList := by
  constructor
  · intro hjoin
    obtain ⟨steps, rest, hu, hsteps, hshortest⟩ := relativeUrl_shortest page target
    have hcode : '%' ∉ steps := by
      intro hm
      rcases hsteps _ hm with h | h
      · exact absurd h (by decide)
      · exact absurd h (by decide)
    have hquery : '?' ∉ steps := by
      intro hm
      rcases hsteps _ hm with h | h
      · exact absurd h (by decide)
      · exact absurd h (by decide)
    rw [hu, before_append_of_not_mem hquery, Url.percentDecode_plain hcode] at hjoin
    have hle := hshortest _ hjoin
    -- reading never makes the rest of the address longer, and shorter wherever it changes it
    rcases not_mem_or_before_shorter '?' rest with hrest | hcut
    · rw [before_eq_self hrest] at hle
      rcases Url.percentDecode_eq_or_shorter rest with hdecode | hlt
      · rw [hu, List.mem_append, not_or, Url.percentDecode_plain hcode, hdecode]
        exact ⟨⟨hquery, hrest⟩, rfl⟩
      · omega
    · rcases Url.percentDecode_eq_or_shorter (before '?' rest) with hdecode | hlt
      · rw [hdecode] at hle
        omega
      · omega
  · rintro ⟨hquery, hdecode⟩
    rw [before_eq_self hquery, hdecode, String.ofList_toList]
    exact join?_relativeUrl page ht

theorem leadsBack_withFragment_iff (page : String) {t : Target} (ht : Plain t.page) :
    LeadsBack page (withFragment (relativeUrl page t.page) t.fragment) t ↔
      Literal (relativeUrl page t.page) := by
  constructor
  · rintro ⟨r, hr, hjoin, hfragment⟩
    obtain ⟨-, hp⟩ | ⟨-, hp⟩ | ⟨hrelative, -, hp⟩ :=
      parseReference_cases (withFragment (relativeUrl page t.page) t.fragment) 0
    · exact absurd (hr.symm.trans hp) (by simp)
    · exact absurd (hr.symm.trans hp) (by simp)
    · obtain rfl := Option.some.inj (hr.symm.trans hp)
      have hhash := fragmentOf_withFragment.mp hfragment
      rw [isRelativeTarget_withFragment] at hrelative
      rw [codedPath_withFragment hhash] at hjoin
      exact ⟨hrelative, hhash, (join?_decoded_iff page ht).mp hjoin⟩
  · intro hliteral
    exact ⟨_, parseReference_of_literal hliteral t.fragment 0, join?_relativeUrl page ht, rfl⟩

theorem Literal.of_kept {address : String} {c : Char} {rest : List Char}
    (hcs : address.toList = c :: rest) (hslash : c ≠ '/')
    (h : ∀ x ∈ address.toList, Url.isKept x = true) : Literal address := by
  have hcode : '%' ∉ address.toList := fun hm => absurd (h _ hm) (by decide)
  have hdecode := Url.percentDecode_plain hcode []
  rw [Url.percentDecode_nil, List.append_nil] at hdecode
  refine ⟨?_, fun hm => absurd (h _ hm) (by decide), fun hm => absurd (h _ hm) (by decide), hdecode⟩
  exact isRelativeTarget_of_kept hcs hslash fun x hx => .inl (h x (hcs ▸ hx))

/-- Addresses of pages with plain names are read as they stand. -/
theorem literal_of_kept (page : String) {target : String} (ht : Plain target)
    (h : ∀ c ∈ target.toList, Url.isKept c = true) : Literal (relativeUrl page target) := by
  obtain ⟨c, rest, hcs, hslash⟩ := relativeUrl_head page ht
  refine .of_kept hcs hslash fun x hx => ?_
  rcases mem_relativeUrl hx with rfl | rfl | hm
  · decide
  · decide
  · exact h x hm

theorem resolve?_eq_some {s : Site} {source destination : String} {t : Target}
    (h : s.resolve? source destination = some t) : ∃ e ∈ s.documents, t.page = e.page := by
  simp only [resolve?, Option.bind_eq_bind, Option.bind_eq_some_iff] at h
  obtain ⟨r, -, e, he, ht⟩ := h
  obtain rfl := Option.some.inj ht
  obtain ⟨path, -, hfind⟩ := Option.bind_eq_some_iff.mp he
  exact ⟨e, List.mem_of_find?_eq_some hfind, rfl⟩

/-- Where the address of a link leads. It leads back to the page of its target if and only if it is
read as it stands, and so it does if the page has a plain name. -/
theorem leadsBack_iff {name : String} {ds : List Document} {s : Site}
    (hread : ∀ d ∈ ds, ∃ path text l m, d = Document.read path text l m)
    (hup : ∀ d ∈ ds, ".." ∉ segments d.source) (hb : build name ds = .ok s) {d : Document}
    (hd : d ∈ s.documents) {destination address : String} {t : Target}
    (hh : s.href? d.source destination = some address)
    (ht : s.resolve? d.source destination = some t) :
    (LeadsBack d.page address t ↔ Literal (relativeUrl d.page t.page)) ∧
      ((∀ c ∈ t.page.toList, Url.isKept c = true) → LeadsBack d.page address t) := by
  have haddress := href?_eq (document?_of_mem (sources_nodup hb) hd) ht
  obtain rfl := Option.some.inj (hh.symm.trans haddress)
  have hplain : Plain t.page := by
    obtain ⟨e, he, hpage⟩ := resolve?_eq_some ht
    have hm := (documents_perm hb).mem_iff.mp he
    have hsource := hup e hm
    obtain ⟨path, text, l, m, rfl⟩ := hread e hm
    rw [hpage]
    exact PageMap.page_plain_of_normalize m hsource
  have hiff := leadsBack_withFragment_iff d.page hplain
  exact ⟨hiff, fun hkept => hiff.mpr (literal_of_kept d.page hplain hkept)⟩

/-- The address of a file whose name holds a number sign leads to another page. -/
theorem number_sign_leads_astray :
    ∃ s t, build "notes" [
        .read "a.md" "" (.named "Text") {},
        .read "b#c.md" "" (.named "Text") {}] = .ok s ∧
      s.resolve? "a.md" "b%23c.md" = some t ∧ t.page = "b#c.md.html" ∧
      s.href? "a.md" "b%23c.md" = some "b#c.md.html" ∧ ¬ LeadsBack "a.md.html" "b#c.md.html" t := by
  obtain ⟨s, hb⟩ : ∃ s, build "notes" [
      .read "a.md" "" (.named "Text") {},
      .read "b#c.md" "" (.named "Text") {}] = .ok s :=
    ⟨_, build_eq_ok_iff.mpr ⟨by decide, by decide, rfl⟩⟩
  have hn := sources_nodup hb
  have hsource : Document.read "a.md" "" (.named "Text") {} ∈ s.documents :=
    (documents_perm hb).mem_iff.mpr (by simp)
  have htarget : Document.read "b#c.md" "" (.named "Text") {} ∈ s.documents :=
    (documents_perm hb).mem_iff.mpr (by simp)
  have hlink : withFragment (Url.encodePath (relativeUrl "a.md" "b#c.md")) none = "b%23c.md" := by
    decide +kernel
  have ht := resolve?_of_plain hn "a.md" htarget (by decide) none
  have hh := href?_eq (document?_of_mem hn hsource) ht
  rw [show (Document.read "b#c.md" "" (.named "Text") {}).source = "b#c.md" from rfl, hlink] at ht hh
  refine ⟨s, _, hb, ht, rfl, hh, ?_⟩
  have hread : ∀ d ∈ [Document.read "a.md" "" (.named "Text") {},
      .read "b#c.md" "" (.named "Text") {}], ∃ path text l m, d = Document.read path text l m := by
    simp only [List.forall_mem_cons]
    exact ⟨⟨_, _, _, _, rfl⟩, ⟨_, _, _, _, rfl⟩, by simp⟩
  have hiff := (leadsBack_iff hread (by decide) hb hsource hh ht).1
  intro hback
  exact (hiff.mp hback).2.1 (by decide)

end Marginalia.Site
