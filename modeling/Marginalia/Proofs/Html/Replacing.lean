import Marginalia.Proofs.Html.Escape

/-! Escaping by replacing one character after another. Each replacement runs over what the ones before
it have written, and yet all of them together write each character on its own, since no entity holds
a character that is replaced later. -/
namespace Marginalia.Html
set_option autoImplicit false

/-! ## Replacements -/

/-- The text with `new` for each `c`. -/
def replace (c : Char) (new cs : List Char) : List Char :=
  cs.flatMap fun x => if x = c then new else [x]

/-- The text after all replacements of a table, one after the other. -/
def replaceInTurn (table : List (Char × String)) (cs : List Char) : List Char :=
  table.foldl (fun text entry => replace entry.1 entry.2.toList text) cs

/-- What a table gives for a character: what stands for it in the first entry that has it. -/
def written : List (Char × String) → Char → List Char
  | [], c => [c]
  | entry :: table, c => if c = entry.1 then entry.2.toList else written table c

theorem written_of_not_mem {table : List (Char × String)} {c : Char}
    (h : ∀ entry ∈ table, entry.1 ≠ c) : written table c = [c] := by
  induction table with
  | nil => rfl
  | cons entry table ih =>
    have hc : c ≠ entry.1 := (h entry (List.mem_cons_self ..)).symm
    rw [written, if_neg hc, ih fun later hl => h later (List.mem_cons_of_mem entry hl)]

/-- Replacing in turn is one pass over the text if nothing that is written is replaced later. -/
theorem replaceInTurn_eq_flatMap {table : List (Char × String)}
    (h : table.Pairwise fun entry later => later.1 ∉ entry.2.toList) (cs : List Char) :
    replaceInTurn table cs = cs.flatMap (written table) := by
  induction table generalizing cs with
  | nil => exact (List.flatMap_singleton' cs).symm
  | cons entry table ih =>
    obtain ⟨hentry, htable⟩ := List.pairwise_cons.mp h
    -- the later replacements leave the text of this one as it is
    have hkept : entry.2.toList.flatMap (written table) = entry.2.toList := by
      rw [List.flatMap_congr fun c hc => written_of_not_mem fun later hl e =>
        hentry later hl (e ▸ hc), List.flatMap_singleton']
    calc replaceInTurn (entry :: table) cs
        = replaceInTurn table (replace entry.1 entry.2.toList cs) := rfl
      _ = (replace entry.1 entry.2.toList cs).flatMap (written table) := ih htable _
      _ = cs.flatMap (written (entry :: table)) := by
        rw [replace, List.flatMap_assoc]
        refine List.flatMap_congr fun c _ => ?_
        rw [written]
        split
        · exact hkept
        · exact List.flatMap_singleton ..

/-! ## Entities -/

/-- The characters that are replaced, in this order, and their entities. The `&` comes first, as all
entities hold one. -/
def entities : List (Char × String) :=
  [('&', "&amp;"), ('<', "&lt;"), ('>', "&gt;"), ('"', "&quot;"), ('\'', "&#39;")]

/-- The text with the entities put in one after the other. -/
def escapeInTurn (s : String) : String :=
  String.ofList (replaceInTurn entities s.toList)

theorem written_entities (c : Char) : written entities c = escapeChar c := by
  cases h : isSpecial c with
  | true => obtain rfl | rfl | rfl | rfl | rfl := isSpecial_cases h <;> rfl
  | false =>
    rw [escapeChar_plain h]
    refine written_of_not_mem fun entry he e => ?_
    have hall : entities.all (isSpecial ·.1) = true := by decide
    have hspecial := List.all_eq_true.mp hall entry he
    rw [e, h] at hspecial
    cases hspecial

theorem escapeInTurn_eq (s : String) : escapeInTurn s = escape s := by
  rw [escapeInTurn, replaceInTurn_eq_flatMap (by decide), escape]
  exact congrArg String.ofList (List.flatMap_congr fun c _ => written_entities c)

theorem entity_eq_cons {entry : Char × String} (h : entry ∈ entities) :
    ∃ rest, entry.2.toList = '&' :: rest ∧ '&' ∉ rest := by
  have hall : entities.all (fun entry => entry.2.toList.head? = some '&' &&
      !entry.2.toList.tail.contains '&') = true := by decide
  have hentry := List.all_eq_true.mp hall entry h
  simp only [Bool.and_eq_true, decide_eq_true_eq, Bool.not_eq_true', List.contains_eq_mem,
    decide_eq_false_iff_not] at hentry
  exact ⟨entry.2.toList.tail, List.eq_cons_of_mem_head? hentry.1, hentry.2⟩

theorem exists_entity {c : Char} (h : isSpecial c = true) :
    ∃ entry ∈ entities, escapeChar c = entry.2.toList := by
  obtain rfl | rfl | rfl | rfl | rfl := isSpecial_cases h
  · exact ⟨('&', "&amp;"), by decide, rfl⟩
  · exact ⟨('<', "&lt;"), by decide, rfl⟩
  · exact ⟨('>', "&gt;"), by decide, rfl⟩
  · exact ⟨('"', "&quot;"), by decide, rfl⟩
  · exact ⟨('\'', "&#39;"), by decide, rfl⟩

theorem entity_of_escapeChar {c : Char} {front back : List Char}
    (h : escapeChar c = front ++ '&' :: back) :
    front = [] ∧ ∃ entry ∈ entities, entry.2.toList = '&' :: back := by
  cases hc : isSpecial c with
  | false =>
    rw [escapeChar_plain hc] at h
    have hamp : '&' ∈ [c] := h ▸ List.mem_append_right front (List.mem_cons_self ..)
    rw [← List.mem_singleton.mp hamp] at hc
    cases hc
  | true =>
    obtain ⟨entry, he, hentry⟩ := exists_entity hc
    obtain ⟨rest, hrest, hno⟩ := entity_eq_cons he
    rw [hentry, hrest] at h
    cases front with
    | nil => exact ⟨rfl, entry, he, hrest.trans h⟩
    | cons x front =>
      -- an entity has no second `&`
      obtain ⟨-, htail⟩ := List.cons.inj h
      exact absurd (htail ▸ List.mem_append_right front (List.mem_cons_self ..)) hno

theorem entity_of_flatMap {cs front back : List Char}
    (h : cs.flatMap escapeChar = front ++ '&' :: back) :
    ∃ entry ∈ entities, entry.2.toList <+: '&' :: back := by
  induction cs generalizing front with
  | nil => simp at h
  | cons c cs ih =>
    rw [List.flatMap_cons, List.append_eq_append_iff] at h
    -- the `&` is written for a later character or for this one
    obtain ⟨between, -, hrest⟩ | ⟨between, hchar, hrest⟩ := h
    · exact ih hrest
    · cases between with
      | nil =>
        have hrest : cs.flatMap escapeChar = [] ++ '&' :: back := hrest.symm
        exact ih hrest
      | cons x between =>
        obtain ⟨rfl, hback⟩ := List.cons.inj hrest
        obtain ⟨-, entry, he, hentry⟩ := entity_of_escapeChar hchar
        refine ⟨entry, he, ?_⟩
        rw [hentry, hback]
        exact List.prefix_append ('&' :: between) _

/-- Putting the entities in one after the other writes each character on its own, so a text is escaped
piece by piece. Escaped text holds no angle brackets and no quotes, each `&` in it starts an entity,
and reading the entities from left to right gives the text back. -/
theorem escape_reversible_and_safe :
    (∀ s, escape s = escapeInTurn s ∧ escapeInTurn s = String.ofList (s.toList.flatMap escapeChar)) ∧
    (∀ a b, escape (a ++ b) = escape a ++ escape b) ∧
    ∀ s, (∀ c ∈ ['<', '>', '"', '\''], c ∉ (escape s).toList) ∧
      (∀ front back, (escape s).toList = front ++ '&' :: back →
        ∃ entry ∈ entities, entry.2.toList <+: '&' :: back) ∧
      unescape (escape s) = s := by
  refine ⟨fun s => ⟨(escapeInTurn_eq s).symm, escapeInTurn_eq s⟩, escape_append, fun s =>
    ⟨fun c hc => ?_, fun front back h => ?_, unescape_escape s⟩⟩
  · have hall : ['<', '>', '"', '\''].all (fun c => isSpecial c && c ≠ '&') = true := by decide
    have hspecial := List.all_eq_true.mp hall c hc
    simp only [Bool.and_eq_true, decide_eq_true_eq] at hspecial
    exact special_not_mem_escape hspecial.1 hspecial.2 s
  · rw [escape, String.toList_ofList] at h
    exact entity_of_flatMap h

/-- Text that looks escaped already. -/
theorem escape_reversible_and_safe_entity :
    '<' ∉ (escape "&lt;<").toList ∧ (escape "&lt;<").toList = "&amp;lt;".toList ++ '&' :: "lt;".toList ∧
      (∃ entry ∈ entities, entry.2.toList <+: '&' :: "lt;".toList) ∧
      unescape (escape "&lt;<") = "&lt;<" := by
  obtain ⟨-, -, hsafe⟩ := escape_reversible_and_safe
  obtain ⟨hno, hamp, hback⟩ := hsafe "&lt;<"
  have he : (escape "&lt;<").toList = "&amp;lt;".toList ++ '&' :: "lt;".toList := by decide
  exact ⟨hno '<' (by decide), he, hamp _ _ he, hback⟩

end Marginalia.Html
