import Marginalia.Proofs.Outline.Reference
import Marginalia.Proofs.Text.Pieces

/-! Destinations with a fragment behind them. The fragment takes no part in whether a destination is
relative, and it is what is read behind the first number sign. -/
namespace Marginalia
set_option autoImplicit false

/-! ## Blanks around a character -/

namespace Text

theorem trimEnd_append_cons {c : Char} (h : isBlank c = false) (front back : List Char) :
    trimEnd (front ++ c :: back) = front ++ c :: trimEnd back := by
  have hstop : ((c :: front.reverse).dropWhile isBlank) = c :: front.reverse :=
    List.dropWhile_cons_of_neg (by simp [h])
  rw [trimEnd, trimEnd, dropWhileEnd, dropWhileEnd, List.reverse_append, List.reverse_cons,
    List.append_assoc, List.singleton_append, List.dropWhile_append]
  split
  next he =>
    rw [List.isEmpty_iff.mp he, hstop]
    simp
  next => simp

theorem trimStart_append_cons {c : Char} (h : isBlank c = false) (front back : List Char) :
    trimStart (front ++ c :: back) = trimStart front ++ c :: back := by
  rw [trimStart, trimStart, List.dropWhile_append]
  split
  next he =>
    rw [List.isEmpty_iff.mp he, List.dropWhile_cons_of_neg (by simp [h])]
    rfl
  next => rfl

theorem trimEnd_subset {c : Char} {cs : List Char} (h : c ∈ trimEnd cs) : c ∈ cs := by
  rw [trimEnd, dropWhileEnd, List.mem_reverse] at h
  exact List.mem_reverse.mp ((List.dropWhile_suffix _).subset h)

end Text

namespace Outline

/-! ## Schemes -/

theorem hasScheme_of_no_colon {cs : List Char} (h : ':' ∉ cs) : hasScheme cs = false := by
  rw [hasScheme, Text.cutAt_eq_none_iff.mpr h]

/-- What stands behind the first colon does not matter. -/
theorem hasScheme_colon {front : List Char} (h : ':' ∉ front) (back back' : List Char) :
    hasScheme (front ++ ':' :: back) = hasScheme (front ++ ':' :: back') := by
  have hcut : ∀ rest, Text.cutAt ':' (front ++ ':' :: rest) = some (front, rest) :=
    fun rest => Text.cutAt_eq_some_iff.mpr ⟨rfl, h⟩
  rw [hasScheme, hasScheme, hcut, hcut]
  cases front with
  | nil => rfl
  | cons c front => rfl

theorem hasScheme_hash {front : List Char} (h : ':' ∉ front) (back : List Char) :
    hasScheme (front ++ '#' :: back) = false := by
  rw [hasScheme]
  split
  next c scheme rest hcut =>
    obtain ⟨hcs, hcolon⟩ := Text.cutAt_eq_some_iff.mp hcut
    -- the colon comes after the number sign, which no scheme holds
    have hmem : '#' ∈ c :: scheme := by
      rcases List.append_eq_append_iff.mp hcs with ⟨as, hfront, hrest⟩ | ⟨bs, hfront, hrest⟩
      · cases as with
        | nil => exact absurd (List.cons.inj hrest).1 (by decide)
        | cons x as =>
          rw [hfront, (List.cons.inj hrest).1]
          simp
      · cases bs with
        | nil => exact absurd (List.cons.inj hrest).1 (by decide)
        | cons x bs =>
          rw [(List.cons.inj hrest).1, hfront] at h
          exact absurd (by simp) h
    rcases List.mem_cons.mp hmem with rfl | hm
    · rfl
    · rw [Bool.and_eq_false_iff]
      refine .inr (List.all_eq_false.mpr ⟨'#', hm, by decide⟩)
  next => rfl

theorem hasScheme_fragment (front back : List Char) :
    hasScheme (front ++ '#' :: back) = hasScheme front := by
  by_cases h : ':' ∈ front
  · obtain ⟨a, b, rfl, ha⟩ := List.eq_append_cons_of_mem h
    rw [List.append_assoc, List.cons_append]
    exact hasScheme_colon ha _ _
  · rw [hasScheme_hash h, hasScheme_of_no_colon h]

theorem hasScheme_trimEnd (cs : List Char) : hasScheme (Text.trimEnd cs) = hasScheme cs := by
  by_cases h : ':' ∈ cs
  · obtain ⟨a, b, rfl, ha⟩ := List.eq_append_cons_of_mem h
    rw [Text.trimEnd_append_cons (by decide)]
    exact hasScheme_colon ha _ _
  · rw [hasScheme_of_no_colon h, hasScheme_of_no_colon fun hm => h (Text.trimEnd_subset hm)]

/-! ## Fragments -/

/-- A destination with a fragment behind it, if there is one. -/
def withFragment (destination : String) : Option String → String
  | some fragment => destination ++ "#" ++ fragment
  | none => destination

theorem toList_withFragment_some (destination fragment : String) :
    (withFragment destination (some fragment)).toList =
      destination.toList ++ '#' :: fragment.toList := by
  rw [withFragment, String.toList_append, String.toList_append, List.append_assoc]
  rfl

/-- A destination is relative by what it starts with after blanks. -/
theorem isRelativeTarget_iff {destination : String} :
    isRelativeTarget destination = true ↔
      ∃ c rest, Text.trimStart destination.toList = c :: rest ∧
        c ≠ '#' ∧ c ≠ '/' ∧ c ≠ '\\' ∧ hasScheme (c :: rest) = false := by
  rw [isRelativeTarget, Text.trim]
  cases hs : Text.trimStart destination.toList with
  | nil => simp [Text.trimEnd, Text.dropWhileEnd]
  | cons c rest =>
    have hc : Text.isBlank c = false := by
      have hhead := List.head?_dropWhile_not Text.isBlank destination.toList
      rw [← Text.trimStart, hs] at hhead
      simpa using hhead
    have htrim : Text.trimEnd (c :: rest) = c :: Text.trimEnd rest :=
      Text.trimEnd_append_cons hc [] rest
    have hscheme : hasScheme (c :: Text.trimEnd rest) = hasScheme (c :: rest) := by
      rw [← htrim, hasScheme_trimEnd]
    rw [htrim]
    simp [hscheme, and_assoc]

/-- A fragment does not change whether a destination is relative. -/
theorem isRelativeTarget_withFragment (destination : String) (fragment : Option String) :
    isRelativeTarget (withFragment destination fragment) = isRelativeTarget destination := by
  cases fragment with
  | none => rfl
  | some fragment =>
    rw [Bool.eq_iff_iff, isRelativeTarget_iff, isRelativeTarget_iff, toList_withFragment_some,
      Text.trimStart_append_cons (by decide)]
    cases Text.trimStart destination.toList with
    | nil => simp
    | cons c rest =>
      have hscheme : hasScheme (c :: (rest ++ '#' :: fragment.toList)) = hasScheme (c :: rest) :=
        hasScheme_fragment (c :: rest) fragment.toList
      simp [hscheme]

theorem before_eq_self {sep : Char} {cs : List Char} (h : sep ∉ cs) : before sep cs = cs := by
  rw [before]
  split
  next front back hcut =>
    obtain ⟨rfl, -⟩ := Text.cutAt_eq_some_iff.mp hcut
    exact absurd (by simp) h
  next => rfl

theorem before_append {sep : Char} {front : List Char} (h : sep ∉ front) (back : List Char) :
    before sep (front ++ sep :: back) = front := by
  rw [before, Text.cutAt_eq_some_iff.mpr ⟨rfl, h⟩]

theorem before_append_of_not_mem {sep : Char} {front : List Char} (h : sep ∉ front)
    (back : List Char) : before sep (front ++ back) = front ++ before sep back := by
  induction front with
  | nil => rfl
  | cons c front ih =>
    simp only [List.mem_cons, not_or] at h
    rw [List.cons_append, before_cons, if_neg (Ne.symm h.1), ih h.2]
    rfl

theorem not_mem_or_before_shorter (sep : Char) (cs : List Char) :
    sep ∉ cs ∨ (before sep cs).length < cs.length := by
  by_cases h : sep ∈ cs
  · obtain ⟨front, back, rfl, hfront⟩ := List.eq_append_cons_of_mem h
    refine .inr ?_
    rw [before_append hfront, List.length_append, List.length_cons]
    omega
  · exact .inl h

theorem codedPath_withFragment {destination : String} (h : '#' ∉ destination.toList)
    (fragment : Option String) :
    codedPath (withFragment destination fragment) = before '?' destination.toList := by
  cases fragment with
  | none => rw [withFragment, codedPath, before_eq_self h]
  | some fragment => rw [codedPath, toList_withFragment_some, before_append h]

/-- The fragment of a destination is read back unless the destination brings one of its own. -/
theorem fragmentOf_withFragment {destination : String} {fragment : Option String} :
    fragmentOf (withFragment destination fragment) = fragment ↔ '#' ∉ destination.toList := by
  constructor
  · intro h hm
    obtain ⟨front, back, hcs, hfront⟩ := List.eq_append_cons_of_mem hm
    cases fragment with
    | none =>
      rw [withFragment, fragmentOf, hcs, Text.cutAt_eq_some_iff.mpr ⟨rfl, hfront⟩] at h
      exact absurd h (by simp)
    | some fragment =>
      rw [fragmentOf, toList_withFragment_some, hcs, List.append_assoc, List.cons_append,
        Text.cutAt_eq_some_iff.mpr ⟨rfl, hfront⟩, Option.map_some, Option.some.injEq] at h
      have hlength := congrArg (fun s : String => s.toList.length) h
      simp at hlength
      omega
  · intro h
    cases fragment with
    | none =>
      cases hcut : Text.cutAt '#' destination.toList with
      | none => rw [withFragment, fragmentOf, hcut]; rfl
      | some parts =>
        rw [(Text.cutAt_eq_some_iff.mp hcut).1] at h
        exact absurd (by simp) h
    | some fragment =>
      rw [fragmentOf, toList_withFragment_some, Text.cutAt_eq_some_iff.mpr ⟨rfl, h⟩]
      simp

/-- A destination of kept characters and percent signs is relative unless it starts with a slash. -/
theorem isRelativeTarget_of_kept {destination : String} {c : Char} {rest : List Char}
    (hcs : destination.toList = c :: rest) (hc : c ≠ '/')
    (h : ∀ x ∈ c :: rest, Url.isKept x = true ∨ x = '%') :
    isRelativeTarget destination = true := by
  obtain ⟨hblank, hhash, -, -, hback⟩ := Url.isKept_ordinary (h c (List.mem_cons_self ..))
  have hcolon : ':' ∉ c :: rest := fun hm => (Url.isKept_ordinary (h ':' hm)).2.2.2.1 rfl
  refine isRelativeTarget_iff.mpr ⟨c, rest, ?_, hhash, hc, hback, hasScheme_of_no_colon hcolon⟩
  rw [hcs, Text.trimStart, List.dropWhile_cons_of_neg (by simp [hblank])]

end Outline

end Marginalia
