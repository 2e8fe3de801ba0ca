import Marginalia.Markdown.Render
import Mathlib.Data.List.Basic

/-! Escaped text and how it is read. Reading undoes escaping, and escaped text holds none of the
characters that end an attribute or start a tag. -/
namespace Marginalia.Html
set_option autoImplicit false

/-- Reads the five entities that escaping writes. -/
def unescapeChars : List Char → List Char
  | '&' :: 'a' :: 'm' :: 'p' :: ';' :: rest => '&' :: unescapeChars rest
  | '&' :: 'l' :: 't' :: ';' :: rest => '<' :: unescapeChars rest
  | '&' :: 'g' :: 't' :: ';' :: rest => '>' :: unescapeChars rest
  | '&' :: 'q' :: 'u' :: 'o' :: 't' :: ';' :: rest => '"' :: unescapeChars rest
  | '&' :: '#' :: '3' :: '9' :: ';' :: rest => '\'' :: unescapeChars rest
  | c :: rest => c :: unescapeChars rest
  | [] => []

def unescape (s : String) : String :=
  String.ofList (unescapeChars s.toList)

/-- Is the character one that escaping writes as an entity? -/
def isSpecial (c : Char) : Bool :=
  c = '&' || c = '<' || c = '>' || c = '"' || c = '\''

theorem escapeChar_plain {c : Char} (h : isSpecial c = false) : escapeChar c = [c] := by
  simp only [isSpecial, Bool.or_eq_false_iff, decide_eq_false_iff_not] at h
  obtain ⟨⟨⟨⟨hamp, hlt⟩, hgt⟩, hquote⟩, happ⟩ := h
  unfold escapeChar
  split <;> simp_all

theorem isSpecial_cases {c : Char} (h : isSpecial c = true) :
    c = '&' ∨ c = '<' ∨ c = '>' ∨ c = '"' ∨ c = '\'' := by
  simpa [isSpecial, or_assoc] using h

theorem unescapeChars_plain {c : Char} (h : c ≠ '&') (rest : List Char) :
    unescapeChars (c :: rest) = c :: unescapeChars rest := by
  conv_lhs => unfold unescapeChars
  split <;> simp_all

theorem unescapeChars_escapeChar (c : Char) (rest : List Char) :
    unescapeChars (escapeChar c ++ rest) = c :: unescapeChars rest := by
  cases h : isSpecial c with
  | true => obtain rfl | rfl | rfl | rfl | rfl := isSpecial_cases h <;> rfl
  | false =>
    rw [escapeChar_plain h, List.singleton_append, unescapeChars_plain]
    rintro rfl
    simp [isSpecial] at h

theorem unescape_escape (s : String) : unescape (escape s) = s := by
  have hcs : ∀ cs : List Char, unescapeChars (cs.flatMap escapeChar) = cs := by
    intro cs
    induction cs with
    | nil => rfl
    | cons c cs ih => rw [List.flatMap_cons, unescapeChars_escapeChar, ih]
  rw [unescape, escape, String.toList_ofList, hcs, String.ofList_toList]

theorem escape_eq_self {s : String} (h : ∀ c ∈ s.toList, isSpecial c = false) : escape s = s := by
  have hchars : s.toList.flatMap escapeChar = s.toList := by
    rw [List.flatMap_congr fun c hc => escapeChar_plain (h c hc), List.flatMap_singleton']
  rw [escape, hchars, String.ofList_toList]

theorem escape_append (a b : String) : escape (a ++ b) = escape a ++ escape b := by
  rw [escape, String.toList_append, List.flatMap_append, String.ofList_append]
  rfl

/-- The only special character that escaping writes is the `&` of an entity. -/
theorem special_of_mem_escapeChar {x c : Char} (hc : c ∈ escapeChar x) (hs : isSpecial c = true) :
    c = '&' := by
  cases hx : isSpecial x with
  | true =>
    have hall : (escapeChar x).all (fun c => !isSpecial c || c = '&') = true := by
      obtain rfl | rfl | rfl | rfl | rfl := isSpecial_cases hx <;> decide
    have hc' := List.all_eq_true.mp hall c hc
    rw [hs] at hc'
    exact of_decide_eq_true hc'
  | false =>
    rw [escapeChar_plain hx, List.mem_singleton] at hc
    rw [hc, hx] at hs
    exact absurd hs (by simp)

theorem special_not_mem_escape {c : Char} (h : isSpecial c = true) (hamp : c ≠ '&') (s : String) :
    c ∉ (escape s).toList := by
  rw [escape, String.toList_ofList, List.mem_flatMap]
  rintro ⟨x, -, hx⟩
  exact hamp (special_of_mem_escapeChar hx h)

end Marginalia.Html
