import Marginalia.Proofs.Html.Link
import Mathlib.Data.List.Infix

/-! Elements read back from markup: the name of a tag and its identifier. A tag that is read stands in
the markup letter by letter, so it stands in every text that holds the markup. -/
namespace Marginalia.Html
set_option autoImplicit false

/-! ## Reading -/

/-- An element as a reader of the page finds it. -/
structure Element where
  name : String
  /-- The identifier of the element, if it has one. -/
  id : Option String
  deriving DecidableEq, Repr

def element (tag : List Char) : Element :=
  ⟨String.ofList (tag.takeWhile (· ≠ ' ')), (attributes tag).lookup "id"⟩

def idOf (tag : List Char) : Option String :=
  (element tag).id

/-- The identifiers of markup, in order. -/
def identifiers (markup : List Char) : List String :=
  picked idOf markup

/-- Some tag in the text has the identifier. -/
def Carries (text : String) (id : String) : Prop :=
  ∃ tag, '<' :: tag ++ ['>'] <:+: text.toList ∧ '>' ∉ tag ∧ idOf tag = some id

theorem Carries.mono {a b id : String} (h : Carries a id) (hab : a.toList <:+: b.toList) :
    Carries b id := by
  obtain ⟨tag, htag, hend, hid⟩ := h
  exact ⟨tag, htag.trans hab, hend, hid⟩

/-- A tag that is read stands in the text. In a tag that is open, the rest of it does. -/
theorem mem_readTags_cases (cs : List Char) :
    (∀ tag ∈ readTags none cs, '<' :: tag ++ ['>'] <:+: cs ∧ '>' ∉ tag) ∧
    (∀ seen, ∀ tag ∈ readTags (some seen) cs,
      (∃ more, tag = seen.reverse ++ more ∧ '>' ∉ more ∧ more ++ ['>'] <+: cs) ∨
      ('<' :: tag ++ ['>'] <:+: cs ∧ '>' ∉ tag)) := by
  induction cs with
  | nil => exact ⟨by simp [readTags], by simp [readTags]⟩
  | cons c cs ih =>
    obtain ⟨hout, hin⟩ := ih
    constructor
    · intro tag htag
      rw [readTags] at htag
      split at htag
      next hc =>
        obtain ⟨more, rfl, hend, hbegins⟩ | ⟨hinside, hend⟩ := hin [] tag htag
        · refine ⟨?_, hend⟩
          rw [hc]
          exact ((List.prefix_cons_inj '<').mpr hbegins).isInfix
        · exact ⟨hinside.trans (List.suffix_cons c cs).isInfix, hend⟩
      next =>
        obtain ⟨hinside, hend⟩ := hout tag htag
        exact ⟨hinside.trans (List.suffix_cons c cs).isInfix, hend⟩
    · intro seen tag htag
      rw [readTags] at htag
      split at htag
      next hc =>
        obtain rfl | htag := List.mem_cons.mp htag
        · exact .inl ⟨[], (List.append_nil _).symm, by simp, by simp [hc]⟩
        · obtain ⟨hinside, hend⟩ := hout tag htag
          exact .inr ⟨hinside.trans (List.suffix_cons c cs).isInfix, hend⟩
      next hc =>
        obtain ⟨more, rfl, hend, hbegins⟩ | ⟨hinside, hend⟩ := hin (c :: seen) tag htag
        · refine .inl ⟨c :: more, by simp, ?_, (List.prefix_cons_inj c).mpr hbegins⟩
          rw [List.mem_cons, not_or]
          exact ⟨fun h => hc h.symm, hend⟩
        · exact .inr ⟨hinside.trans (List.suffix_cons c cs).isInfix, hend⟩

theorem carries_of_mem_readTags {text : String} {tag : List Char} {id : String}
    (h : tag ∈ readTags none text.toList) (hid : idOf tag = some id) : Carries text id := by
  obtain ⟨hinside, hend⟩ := (mem_readTags_cases text.toList).1 tag h
  exact ⟨tag, hinside, hend, hid⟩

theorem carries_of_mem_identifiers {text id : String} (h : id ∈ identifiers text.toList) :
    Carries text id := by
  obtain ⟨tag, htag, hid⟩ := List.mem_filterMap.mp h
  exact carries_of_mem_readTags htag hid

/-! ## Tags put together -/

/-- A tag is read as the element it was written for. -/
theorem element_append {name : String} (hn : IsAttributeName name)
    {attrs : List (String × String)} (h : ∀ a ∈ attrs, Writable a) :
    element (name.toList ++ attrs.flatMap inTag) = ⟨name, (readBack attrs).lookup "id"⟩ := by
  have hquote : '"' ∉ name.toList := fun hm => (hn _ hm).1 rfl
  have hname : (name.toList ++ attrs.flatMap inTag).takeWhile (· ≠ ' ') = name.toList := by
    have hall : ∀ c ∈ name.toList, (decide (c ≠ ' ')) = true := by
      intro c hc
      simpa using (hn c hc).2.2.1
    rw [List.takeWhile_append_of_pos hall]
    cases attrs with
    | nil => simp
    | cons a attrs => simp [inTag]
  rw [element, hname, String.ofList_toList, attributes_append _ hquote h]

theorem end_not_mem_tag {name : String} (hn : IsAttributeName name)
    {attrs : List (String × String)} (h : ∀ a ∈ attrs, Writable a) :
    '>' ∉ name.toList ++ attrs.flatMap inTag := by
  rw [List.mem_append, not_or]
  exact ⟨fun hm => (hn _ hm).2.2.2 rfl, end_not_mem_inTag h⟩

theorem idOf_linkTag {attrs : List (String × String)} (h : ∀ a ∈ attrs, Writable a) :
    idOf (linkTag attrs) = (readBack attrs).lookup "id" :=
  congrArg Element.id (@element_append "a" (by decide) attrs h)

end Marginalia.Html
