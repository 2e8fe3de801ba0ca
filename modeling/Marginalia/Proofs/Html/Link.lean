import Marginalia.Proofs.Html.Escape
import Marginalia.Proofs.Text.Pieces

/-! Links read back from markup: the tags of a text, the attributes of a tag, and the links that the
tags make. What is read from markup that was put together from tags and escaped text is what went
into it. -/
namespace Marginalia.Html
open Text
set_option autoImplicit false

/-! ## Reading -/

/-- The tags of markup. Inside a tag, `some seen` holds what has been read of it, last one first. -/
def readTags : Option (List Char) → List Char → List (List Char)
  | _, [] => []
  | none, c :: cs => if c = '<' then readTags (some []) cs else readTags none cs
  | some seen, c :: cs =>
    if c = '>' then seen.reverse :: readTags none cs else readTags (some (c :: seen)) cs

/-- The name of an attribute, from what stands before its value. -/
def attributeName (cs : List Char) : String :=
  String.ofList ((cs.reverse.dropWhile (· = '=')).takeWhile (· ≠ ' ')).reverse

/-- The attributes of a tag whose pieces between quotes are given: names and values take turns. -/
def pairAttributes : List (List Char) → List (String × String)
  | name :: value :: rest =>
    (attributeName name, unescape (String.ofList value)) :: pairAttributes rest
  | _ => []

def attributes (tag : List Char) : List (String × String) :=
  pairAttributes (split '"' tag)

/-- A link as a reader of the page finds it. -/
structure Link where
  href : String
  /-- The class of the link, if it has one. -/
  cls : Option String
  deriving DecidableEq, Repr

def link? (tag : List Char) : Option Link :=
  if tag.takeWhile (· ≠ ' ') = ['a'] then
    ((attributes tag).lookup "href").map fun href => ⟨href, (attributes tag).lookup "class"⟩
  else none

/-- The links of markup, in order. -/
def links (markup : List Char) : List Link :=
  (readTags none markup).filterMap link?

/-! ## Tags put together -/

theorem readTags_seen {seen tag : List Char} (h : '>' ∉ tag) (rest : List Char) :
    readTags (some seen) (tag ++ '>' :: rest) = (seen.reverse ++ tag) :: readTags none rest := by
  induction tag generalizing seen with
  | nil => simp [readTags]
  | cons c tag ih =>
    simp only [List.mem_cons, not_or] at h
    rw [List.cons_append, readTags, if_neg (fun e => h.1 e.symm), ih h.2]
    simp

theorem readTags_text {text : List Char} (h : '<' ∉ text) (rest : List Char) :
    readTags none (text ++ rest) = readTags none rest := by
  induction text with
  | nil => rfl
  | cons c text ih =>
    simp only [List.mem_cons, not_or] at h
    rw [List.cons_append, readTags, if_neg (fun e => h.1 e.symm), ih h.2]

theorem readTags_tag {tag : List Char} (h : '>' ∉ tag) (rest : List Char) :
    readTags none ('<' :: tag ++ '>' :: rest) = tag :: readTags none rest := by
  rw [List.cons_append, readTags, if_pos rfl, readTags_seen h]
  rfl

/-! ## Attributes put together -/

/-- May the text name an attribute? -/
def IsAttributeName (name : String) : Prop :=
  ∀ c ∈ name.toList, c ≠ '"' ∧ c ≠ '=' ∧ c ≠ ' ' ∧ c ≠ '>'

instance (name : String) : Decidable (IsAttributeName name) :=
  List.decidableBAll _ _

theorem attributeName_append {name : String} (h : IsAttributeName name) (front : List Char) :
    attributeName (front ++ ' ' :: name.toList ++ ['=']) = name := by
  have hrev : (front ++ ' ' :: name.toList ++ ['=']).reverse =
      '=' :: (name.toList.reverse ++ ' ' :: front.reverse) := by simp
  have hdrop : (name.toList.reverse ++ ' ' :: front.reverse).dropWhile (· = '=') =
      name.toList.reverse ++ ' ' :: front.reverse := by
    cases hn : name.toList.reverse with
    | nil => rfl
    | cons c cs =>
      have hc := (h c (by rw [← List.mem_reverse, hn]; simp)).2.1
      rw [List.cons_append, List.dropWhile_cons_of_neg (by simpa using hc)]
  have htake : (name.toList.reverse ++ ' ' :: front.reverse).takeWhile (· ≠ ' ') =
      name.toList.reverse := by
    rw [List.takeWhile_append_of_pos]
    · simp
    · intro c hc
      simpa using (h c (List.mem_reverse.mp hc)).2.2.1
  rw [attributeName, hrev, List.dropWhile_cons_of_pos (by simp), hdrop, htake, List.reverse_reverse,
    String.ofList_toList]

/-- An attribute that a tag can hold: a name, and a value as it is written there. -/
structure Writable (a : String × String) : Prop where
  name : IsAttributeName a.1
  no_quote : '"' ∉ a.2.toList
  no_end : '>' ∉ a.2.toList

theorem Writable.escape {name : String} (h : IsAttributeName name) (value : String) :
    Writable (name, escape value) :=
  ⟨h, special_not_mem_escape (by decide) (by decide) value,
    special_not_mem_escape (by decide) (by decide) value⟩

def inTag (a : String × String) : List Char :=
  ' ' :: a.1.toList ++ '=' :: '"' :: a.2.toList ++ ['"']

def linkTag (attrs : List (String × String)) : List Char :=
  'a' :: attrs.flatMap inTag

/-- Attributes with the values that the written ones stand for. -/
def readBack (attrs : List (String × String)) : List (String × String) :=
  attrs.map fun a => (a.1, unescape a.2)

/-- The attributes of a tag are read back. The part before the first one holds no quote. -/
theorem attributes_append (front : List Char) (hf : '"' ∉ front) {attrs : List (String × String)}
    (h : ∀ a ∈ attrs, Writable a) : attributes (front ++ attrs.flatMap inTag) = readBack attrs := by
  induction attrs generalizing front with
  | nil =>
    rw [List.flatMap_nil, List.append_nil, attributes, split_of_not_mem hf]
    rfl
  | cons a attrs ih =>
    have ha := h a (List.mem_cons_self ..)
    have hname : '"' ∉ front ++ ' ' :: a.1.toList ++ ['='] := by
      simp only [List.mem_append, List.mem_cons, List.not_mem_nil, or_false, not_or]
      exact ⟨⟨hf, by decide, fun hm => (ha.name _ hm).1 rfl⟩, by decide⟩
    have hrest := ih [] (by simp) (fun b hb => h b (List.mem_cons_of_mem a hb))
    rw [attributes, List.nil_append] at hrest
    -- the first two pieces between quotes are the name and the value of `a`
    have hsplit : front ++ (a :: attrs).flatMap inTag =
        (front ++ ' ' :: a.1.toList ++ ['=']) ++ '"' :: (a.2.toList ++ '"' ::
          attrs.flatMap inTag) := by simp [inTag]
    rw [attributes, hsplit, split_append hname, split_append ha.no_quote, pairAttributes, hrest,
      attributeName_append ha.name, String.ofList_toList]
    rfl

def linkOf (attrs : List (String × String)) : Option Link :=
  ((readBack attrs).lookup "href").map fun href => ⟨href, (readBack attrs).lookup "class"⟩

theorem link?_linkTag {attrs : List (String × String)} (h : ∀ a ∈ attrs, Writable a) :
    link? (linkTag attrs) = linkOf attrs := by
  have hname : (linkTag attrs).takeWhile (· ≠ ' ') = ['a'] := by
    cases attrs with
    | nil => rfl
    | cons a attrs => simp [linkTag, inTag]
  have hattrs : attributes (linkTag attrs) = readBack attrs :=
    attributes_append ['a'] (by decide) h
  rw [link?, if_pos hname, hattrs, linkOf]

theorem end_not_mem_inTag {attrs : List (String × String)} (h : ∀ a ∈ attrs, Writable a) :
    '>' ∉ attrs.flatMap inTag := by
  intro hm
  simp only [inTag, List.mem_cons, List.mem_flatMap, List.mem_append, List.not_mem_nil,
    or_false] at hm
  rcases hm with ⟨a, ha, ((hm | hm) | hm | hm | hm) | hm⟩
  · exact absurd hm (by decide)
  · exact ((h a ha).name _ hm).2.2.2 rfl
  · exact absurd hm (by decide)
  · exact absurd hm (by decide)
  · exact (h a ha).no_end hm
  · exact absurd hm (by decide)

/-! ## Markup put together -/

def writtenAttribute (a : String × String) : String :=
  " " ++ a.1 ++ "=\"" ++ a.2 ++ "\""

def startTag (attrs : List (String × String)) : String :=
  "<a" ++ String.join (attrs.map writtenAttribute) ++ ">"

theorem toList_startTag (attrs : List (String × String)) :
    (startTag attrs).toList = '<' :: linkTag attrs ++ ['>'] := by
  have ha : (fun a => (writtenAttribute a).toList) = inTag := by
    funext a
    simp only [writtenAttribute, inTag, String.toList_append, List.append_assoc]
    rfl
  rw [startTag, String.toList_append, String.toList_append, String.toList_join, List.flatMap_map, ha]
  rfl

section
variable {β : Type} (pick : List Char → Option β)

/-- What is picked from the tags of markup, in order. -/
def picked (markup : List Char) : List β :=
  (readTags none markup).filterMap pick

/-- The markup holds what is picked from its tags and leaves no tag open: what follows is read on its
own. -/
def Holds (markup : String) (found : List β) : Prop :=
  ∀ rest, picked pick (markup.toList ++ rest) = found ++ picked pick rest

/-- The tags of text that leaves no tag open. -/
def closedTags? : Option (List Char) → List Char → Option (List (List Char))
  | none, [] => some []
  | some _, [] => none
  | none, c :: cs => if c = '<' then closedTags? (some []) cs else closedTags? none cs
  | some seen, c :: cs =>
    if c = '>' then (closedTags? none cs).map (seen.reverse :: ·)
    else closedTags? (some (c :: seen)) cs

theorem readTags_append {seen : Option (List Char)} {cs : List Char} {tags : List (List Char)}
    (h : closedTags? seen cs = some tags) (rest : List Char) :
    readTags seen (cs ++ rest) = tags ++ readTags none rest := by
  induction cs generalizing seen tags with
  | nil =>
    cases seen with
    | none =>
      cases h
      rfl
    | some seen => exact absurd h (by simp [closedTags?])
  | cons c cs ih =>
    cases seen with
    | none =>
      rw [closedTags?] at h
      rw [List.cons_append, readTags]
      split at h
      next hc => rw [if_pos hc, ih h]
      next hc => rw [if_neg hc, ih h]
    | some seen =>
      rw [closedTags?] at h
      rw [List.cons_append, readTags]
      split at h
      next hc =>
        obtain ⟨more, hmore, rfl⟩ := Option.map_eq_some_iff.mp h
        rw [if_pos hc, ih hmore, List.cons_append]
      next hc => rw [if_neg hc, ih h]

/-- Does the text close its tags, and are all of them among the given ones? -/
def isQuiet (tags : List String) (text : String) : Bool :=
  (closedTags? none text.toList).any fun found =>
    found.all fun tag => tags.contains (String.ofList tag)

end

namespace Holds
variable {β : Type} {pick : List Char → Option β}

theorem picked_eq {markup : String} {found : List β} (h : Holds pick markup found) :
    picked pick markup.toList = found := by
  have hr := h []
  rwa [List.append_nil, show picked pick [] = [] from rfl, List.append_nil] at hr

theorem append {a b : String} {as bs : List β} (ha : Holds pick a as) (hb : Holds pick b bs) :
    Holds pick (a ++ b) (as ++ bs) := by
  intro rest
  rw [String.toList_append, List.append_assoc, ha, hb, List.append_assoc]

theorem picked_append {a : String} {as : List β} (h : Holds pick a as) (b : String) :
    picked pick (a ++ b).toList = as ++ picked pick b.toList := by
  rw [String.toList_append, h]

theorem of_no_tag {text : String} (h : '<' ∉ text.toList) : Holds pick text [] := by
  intro rest
  rw [picked, readTags_text h]
  rfl

theorem escape (text : String) : Holds pick (escape text) [] :=
  of_no_tag (special_not_mem_escape (by decide) (by decide) text)

theorem tag {text : String} (h : '>' ∉ text.toList) :
    Holds pick ("<" ++ text ++ ">") (pick text.toList).toList := by
  intro rest
  have ht : ("<" ++ text ++ ">").toList ++ rest = '<' :: text.toList ++ '>' :: rest := by
    rw [String.toList_append, String.toList_append, List.append_assoc]
    rfl
  rw [ht, picked, readTags_tag h, List.filterMap_cons]
  cases pick text.toList with
  | none => rfl
  | some found => rfl

theorem startTag {attrs : List (String × String)} (h : ∀ a ∈ attrs, Writable a) :
    Holds pick (startTag attrs) (pick (linkTag attrs)).toList := by
  intro rest
  have hend : '>' ∉ linkTag attrs := by
    intro hm
    obtain hm | hm := List.mem_cons.mp hm
    · exact absurd hm (by decide)
    · exact end_not_mem_inTag h hm
  rw [toList_startTag, List.append_assoc, List.singleton_append, picked, readTags_tag hend,
    List.filterMap_cons]
  cases pick (linkTag attrs) with
  | none => rfl
  | some found => rfl

theorem join {parts : List String} (h : ∀ part ∈ parts, Holds pick part []) :
    Holds pick (String.join parts) [] := by
  induction parts with
  | nil => exact fun _ => rfl
  | cons part parts ih =>
    rw [String.join_cons]
    exact (h part (List.mem_cons_self ..)).append (ih fun p hp => h p (List.mem_cons_of_mem part hp))

/-- Nothing is picked from text whose tags are all passed over. -/
theorem quiet {tags : List String} (hq : ∀ tag ∈ tags, pick tag.toList = none) {text : String}
    (h : isQuiet tags text = true) : Holds pick text [] := by
  rw [isQuiet, Option.any_eq_true] at h
  obtain ⟨found, hfound, hall⟩ := h
  intro rest
  have hnone : found.filterMap pick = [] := by
    rw [List.filterMap_eq_nil_iff]
    intro tag htag
    have hpick := hq _ (List.contains_iff_mem.mp (List.all_eq_true.mp hall tag htag))
    rwa [String.toList_ofList] at hpick
  rw [picked, readTags_append hfound, List.filterMap_append, hnone]
  rfl

end Holds

/-! ## Links put together -/

/-- The markup holds the links and leaves no tag open. -/
abbrev Reads (markup : String) (found : List Link) : Prop :=
  Holds link? markup found

namespace Reads

theorem links_eq {markup : String} {found : List Link} (h : Reads markup found) :
    links markup.toList = found :=
  h.picked_eq

theorem links_append {a : String} {as : List Link} (h : Reads a as) (b : String) :
    links (a ++ b).toList = as ++ links b.toList :=
  h.picked_append b

theorem startTag {attrs : List (String × String)} (h : ∀ a ∈ attrs, Writable a) :
    Reads (startTag attrs) (linkOf attrs).toList := by
  rw [← link?_linkTag h]
  exact Holds.startTag h

end Reads

end Marginalia.Html
