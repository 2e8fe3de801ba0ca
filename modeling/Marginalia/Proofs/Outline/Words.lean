import Marginalia.Proofs.Outline.Slug
import Marginalia.Proofs.Text.Lines
import Marginalia.Proofs.Text.Pieces
import Marginalia.Proofs.Text.Trim

/-! Slugs as words. The words of a text are its pieces between blanks, dashes and underscores, less
what is neither letter nor digit. A slug is its words with a dash between each two of them, and it
splits back into them, so no dash stands at its ends and no two stand side by side. -/
namespace Marginalia.Outline
open Marginalia.Text
set_option autoImplicit false

/-! ## Letters in lower case -/

theorem lowerChar_ne_nil (c : Char) : lowerChar c ≠ [] := by
  unfold lowerChar
  split
  next => simp
  next => split <;> simp

theorem lowerRuns_miss_blanks :
    lowerRuns.all (fun r => blankRanges.all fun s =>
      decide (r.last + r.shift < s.first) || decide ((s.last : Int) < r.first + r.shift)) = true := by
  decide

theorem not_blank_of_apply {r : CaseRun} {n : Nat} (hr : r ∈ lowerRuns) (hn : r.holds n = true)
    (hx : 0x80 ≤ (r.apply n).toNat) : isBlank (r.apply n) = false := by
  have hvalue : (r.apply n).toNat = ((n : Int) + r.shift).toNat := by
    rw [CaseRun.apply] at hx ⊢
    by_cases hvalid : (((n : Int) + r.shift).toNat).isValidChar
    · rw [Char.ofNat, dif_pos hvalid]
      rfl
    · rw [Char.ofNat, dif_neg hvalid] at hx
      exact absurd hx (by decide)
  rw [← Bool.not_eq_true]
  intro hblank
  obtain ⟨s, hs, hholds⟩ := List.any_eq_true.mp (inClass_blankRanges hblank hx)
  have hmiss := List.all_eq_true.mp (List.all_eq_true.mp lowerRuns_miss_blanks r hr) s hs
  simp only [CodeRange.holds, CaseRun.holds, Bool.and_eq_true, Bool.or_eq_true,
    decide_eq_true_eq] at hholds hn hmiss
  omega

/-- Lower case makes no blank of a letter. -/
theorem not_blank_of_mem_lowerChar {c x : Char} (hc : isAlphanumeric c = true)
    (h : x ∈ lowerChar c) : isBlank x = false := by
  -- the table of blanks starts beyond ASCII, and within ASCII lower case keeps letters and digits
  by_cases hx : x.toNat < 0x80
  · have hletter := alphanum_of_mem_lowerChar hc h hx
    exact not_blank_of_alphanumeric (by rw [isAlphanumeric, if_pos hx, hletter])
  · obtain ⟨hsmall, rfl⟩ | rfl | rfl | ⟨-, rfl⟩ | ⟨r, hr, hholds, rfl⟩ := mem_lowerChar_cases h
    · have hascii : ∀ n < 0x80, (Char.ofNat n).toLower.toNat < 0x80 := by decide
      have hlower := hascii c.toNat hsmall
      rw [Char.ofNat_toNat] at hlower
      exact absurd hlower hx
    · decide
    · decide
    · exact not_blank_of_alphanumeric hc
    · exact not_blank_of_apply hr hholds (Nat.not_lt.mp hx)

/-- May the character stand in a word of a slug? -/
def isWordChar (x : Char) : Bool :=
  x != '-' && x != '#' && x != '.' && !isBlank x

theorem isWordChar_of_mem_lowerChar {c x : Char} (hc : isAlphanumeric c = true)
    (h : x ∈ lowerChar c) : isWordChar x = true := by
  have hne : ∀ d : Char, d.toNat < 0x80 → d.isAlphanum = false → x ≠ d := by
    rintro d hsmall hd rfl
    rw [alphanum_of_mem_lowerChar hc h hsmall] at hd
    exact absurd hd (by decide)
  simp [isWordChar, not_blank_of_mem_lowerChar hc h, hne '-' (by decide) (by decide),
    hne '#' (by decide) (by decide), hne '.' (by decide) (by decide)]

/-! ## Words -/

/-- The letters and digits of a piece, in lower case. -/
def letters (piece : List Char) : List Char :=
  (piece.filter isAlphanumeric).flatMap lowerChar

/-- The words of pieces: a piece without letter or digit gives none. -/
def wordsOf (pieces : List (List Char)) : List (List Char) :=
  (pieces.map letters).filter (!·.isEmpty)

/-- The words of a text. -/
def words (cs : List Char) : List (List Char) :=
  wordsOf (cs.splitOnP partsWords)

theorem letters_cons_of_alphanumeric {c : Char} (h : isAlphanumeric c = true) (piece : List Char) :
    letters (c :: piece) = lowerChar c ++ letters piece := by
  rw [letters, List.filter_cons_of_pos h, List.flatMap_cons, letters]

theorem letters_cons_ne_nil {c : Char} (h : isAlphanumeric c = true) (piece : List Char) :
    letters (c :: piece) ≠ [] := by
  rw [letters_cons_of_alphanumeric h]
  exact List.append_ne_nil_of_left_ne_nil (lowerChar_ne_nil c) _

theorem letters_cons_of_not {c : Char} (h : isAlphanumeric c = false) (piece : List Char) :
    letters (c :: piece) = letters piece := by
  rw [letters, List.filter_cons_of_neg (by simp [h]), letters]

theorem wordsOf_cons_of_ne {piece : List Char} (h : letters piece ≠ [])
    (pieces : List (List Char)) : wordsOf (piece :: pieces) = letters piece :: wordsOf pieces := by
  rw [wordsOf, List.map_cons, List.filter_cons_of_pos (by simpa using h), wordsOf]

theorem wordsOf_cons_of_nil {piece : List Char} (h : letters piece = [])
    (pieces : List (List Char)) : wordsOf (piece :: pieces) = wordsOf pieces := by
  rw [wordsOf, List.map_cons, List.filter_cons_of_neg (by simp [h]), wordsOf]

theorem wordsOf_cons_congr {piece other : List Char} (h : letters piece = letters other)
    (pieces : List (List Char)) : wordsOf (piece :: pieces) = wordsOf (other :: pieces) := by
  rw [wordsOf, wordsOf, List.map_cons, List.map_cons, h]

theorem not_partsWords_of_alphanumeric {c : Char} (h : isAlphanumeric c = true) :
    partsWords c = false := by
  have hdash : c ≠ '-' := ne_of_alphanumeric h (by decide)
  have hunder : c ≠ '_' := ne_of_alphanumeric h (by decide)
  simp [partsWords, not_blank_of_alphanumeric h, hdash, hunder]

theorem words_cons_of_not {c : Char} (h : isAlphanumeric c = false) (cs : List Char) :
    words (c :: cs) = words cs := by
  cases hsep : partsWords c with
  | true =>
    rw [words, splitOnP_cons_of_sep hsep, wordsOf_cons_of_nil rfl, words]
  | false =>
    obtain ⟨piece, pieces, hs⟩ := List.exists_cons_of_ne_nil (List.splitOnP_ne_nil partsWords cs)
    rw [words, splitOnP_cons_of_not hsep hs, words, hs]
    exact wordsOf_cons_congr (letters_cons_of_not h piece) pieces

theorem ne_nil_of_mem_words {cs w : List Char} (h : w ∈ words cs) : w ≠ [] := by
  have hfull := (List.mem_filter.mp h).2
  simpa using hfull

theorem exists_of_mem_words {cs w : List Char} (h : w ∈ words cs) {x : Char} (hx : x ∈ w) :
    ∃ c ∈ cs, isAlphanumeric c = true ∧ x ∈ lowerChar c := by
  obtain ⟨piece, hpiece, rfl⟩ := List.mem_map.mp (List.mem_filter.mp h).1
  obtain ⟨c, hc, hx⟩ := List.mem_flatMap.mp hx
  obtain ⟨hc, halpha⟩ := List.mem_filter.mp hc
  exact ⟨c, (of_mem_splitOnP hpiece hc).1, halpha, hx⟩

/-! ## Words with dashes between them -/

/-- The words with a dash between each two of them. -/
def dashed (ws : List (List Char)) : List Char :=
  ['-'].intercalate ws

/-- What is written once there is a word: the first piece goes on with that word, unless a dash is
due before it. -/
theorem slugChars_started {cs piece : List Char} {pieces : List (List Char)} (pending : Bool)
    (h : cs.splitOnP partsWords = piece :: pieces) :
    slugChars true pending cs =
      if pending then (wordsOf (piece :: pieces)).flatMap (['-'] ++ ·)
      else letters piece ++ (wordsOf pieces).flatMap (['-'] ++ ·) := by
  induction cs generalizing pending piece pieces with
  | nil =>
    rw [List.splitOnP_nil] at h
    cases h
    cases pending <;> rfl
  | cons c cs ih =>
    obtain ⟨first, rest, hs⟩ := List.exists_cons_of_ne_nil (List.splitOnP_ne_nil partsWords cs)
    cases halpha : isAlphanumeric c with
    | true =>
      -- the letter clears what is due, so the rest goes on with its word
      rw [splitOnP_cons_of_not (not_partsWords_of_alphanumeric halpha) hs] at h
      cases h
      rw [slugChars, if_pos halpha, ih false hs,
        wordsOf_cons_of_ne (letters_cons_ne_nil halpha first),
        letters_cons_of_alphanumeric halpha]
      cases pending <;> simp
    | false =>
      rw [slugChars, if_neg (by simp [halpha])]
      cases hsep : partsWords c with
      | true =>
        rw [splitOnP_cons_of_sep hsep, hs] at h
        cases h
        rw [if_pos rfl, ih true hs, if_pos rfl]
        cases pending with
        | true => rw [if_pos rfl, wordsOf_cons_of_nil rfl (first :: rest)]
        | false => rfl
      | false =>
        -- a dropped character leaves both the word and what is due as they are
        rw [splitOnP_cons_of_not hsep hs] at h
        cases h
        have hsame := letters_cons_of_not halpha first
        rw [if_neg (by decide), ih pending hs, hsame, wordsOf_cons_congr hsame]

/-- Before the first word no dash is written, due or not. -/
theorem slugChars_eq_dashed (pending : Bool) (cs : List Char) :
    slugChars false pending cs = dashed (words cs) := by
  induction cs generalizing pending with
  | nil => rfl
  | cons c cs ih =>
    cases halpha : isAlphanumeric c with
    | true =>
      obtain ⟨first, rest, hs⟩ := List.exists_cons_of_ne_nil (List.splitOnP_ne_nil partsWords cs)
      rw [slugChars, if_pos halpha, slugChars_started false hs, words,
        splitOnP_cons_of_not (not_partsWords_of_alphanumeric halpha) hs,
        wordsOf_cons_of_ne (letters_cons_ne_nil halpha first),
        letters_cons_of_alphanumeric halpha, dashed, intercalate_cons]
      simp
    | false =>
      rw [slugChars, if_neg (by simp [halpha]), words_cons_of_not halpha]
      split
      · exact ih true
      · exact ih pending

/-- Words that dashes can hold apart: there is one, none is empty, and no dash stands in them. -/
structure Joinable (ws : List (List Char)) : Prop where
  some_word : ws ≠ []
  filled : [] ∉ ws
  bare : ∀ w ∈ ws, '-' ∉ w

section Joinable

variable {ws : List (List Char)} (h : Joinable ws)
include h

/-- A dash parts the words into those before it and those after it. -/
theorem Joinable.parts {front back : List Char} (he : dashed ws = front ++ '-' :: back) :
    split '-' front ++ split '-' back = ws := by
  rw [← split_append_sep, ← he]
  exact split_intercalate h.some_word h.bare

theorem Joinable.head_ne : (dashed ws).head? ≠ some '-' := by
  intro hd
  obtain ⟨back, he⟩ := List.head?_eq_some_iff.mp hd
  -- before the dash stands an empty word
  have hparts : split '-' [] ++ split '-' back = ws := h.parts he
  exact h.filled (hparts ▸ List.mem_append_left _ (List.mem_singleton.mpr rfl))

theorem Joinable.last_ne : (dashed ws).getLast? ≠ some '-' := by
  intro hd
  obtain ⟨front, he⟩ := List.getLast?_eq_some_iff.mp hd
  have hparts := h.parts he
  exact h.filled (hparts ▸ List.mem_append_right _ (List.mem_singleton.mpr rfl))

theorem Joinable.single : ¬ ['-', '-'] <:+: dashed ws := by
  rintro ⟨front, back, he⟩
  have hparts : split '-' front ++ split '-' ('-' :: back) = ws :=
    h.parts (by rw [← he, List.append_assoc]; rfl)
  rw [split_self] at hparts
  exact h.filled (hparts ▸ List.mem_append_right _ (List.mem_cons_self ..))

theorem Joinable.dashed_ne_nil : dashed ws ≠ [] := by
  intro he
  have hsplit := split_intercalate h.some_word h.bare
  rw [← dashed, he] at hsplit
  exact h.filled (hsplit ▸ List.mem_singleton.mpr rfl)

end Joinable

theorem mem_dashed {ws : List (List Char)} {x : Char} (h : x ∈ dashed ws) :
    x = '-' ∨ ∃ w ∈ ws, x ∈ w :=
  (of_mem_intercalate h).imp_left List.mem_singleton.mp

/-! ## Words that stay -/

/-- Is the character a letter or a digit that lower case does not change? -/
def isSettled (c : Char) : Bool :=
  isAlphanumeric c && lowerChar c == [c]

theorem letters_eq_self {w : List Char} (h : ∀ c ∈ w, isSettled c = true) : letters w = w := by
  induction w with
  | nil => rfl
  | cons c w ih =>
    have hc := h c (List.mem_cons_self ..)
    rw [isSettled, Bool.and_eq_true, beq_iff_eq] at hc
    rw [letters_cons_of_alphanumeric hc.1, hc.2, ih fun d hd => h d (List.mem_cons_of_mem c hd),
      List.singleton_append]

theorem splitOnP_dashed {ws : List (List Char)} (hne : ws ≠ [])
    (h : ∀ w ∈ ws, ∀ c ∈ w, isAlphanumeric c = true) : (dashed ws).splitOnP partsWords = ws := by
  induction ws with
  | nil => exact absurd rfl hne
  | cons w ws ih =>
    have hw : ∀ c ∈ w, partsWords c = false := fun c hc =>
      not_partsWords_of_alphanumeric (h w (List.mem_cons_self ..) c hc)
    cases ws with
    | nil =>
      rw [dashed, List.intercalate_singleton]
      exact List.splitOnP_eq_singleton hw
    | cons next ws =>
      have hrest := ih (by simp) fun v hv => h v (List.mem_cons_of_mem w hv)
      rw [dashed, List.intercalate_cons_cons, List.append_assoc, List.singleton_append, ← dashed,
        List.splitOnP_append_cons_of_forall_mem hw '-' (by decide), hrest]

/-- Settled words are read back from the text they make with dashes between them. -/
theorem Joinable.words_dashed {ws : List (List Char)} (h : Joinable ws)
    (hs : ∀ w ∈ ws, ∀ c ∈ w, isSettled c = true) : words (dashed ws) = ws := by
  have halpha : ∀ w ∈ ws, ∀ c ∈ w, isAlphanumeric c = true := by
    intro w hw c hc
    have hboth := hs w hw c hc
    rw [isSettled, Bool.and_eq_true] at hboth
    exact hboth.1
  have hmap : ws.map letters = ws := by
    rw [List.map_congr_left fun w hw => letters_eq_self (hs w hw), List.map_id']
  rw [words, splitOnP_dashed h.some_word halpha, wordsOf, hmap, List.filter_eq_self]
  intro w hw
  simpa using fun he : w = [] => h.filled (he ▸ hw)

/-! ## Slugs -/

/-- The words of a slug. A text without words has the slug of one word. -/
def slugWords (text : String) : List (List Char) :=
  if words text.toList = [] then [emptySlug.toList] else words text.toList

theorem slugWords_ne_nil (text : String) : slugWords text ≠ [] := by
  rw [slugWords]
  split
  next => simp
  next hne => exact hne

theorem mem_slugWords {text : String} {w : List Char} (h : w ∈ slugWords text) :
    w = emptySlug.toList ∨ w ∈ words text.toList := by
  rw [slugWords] at h
  split at h
  next => exact .inl (List.mem_singleton.mp h)
  next => exact .inr h

theorem isWordChar_of_mem_slugWords {text : String} {w : List Char} (h : w ∈ slugWords text)
    {x : Char} (hx : x ∈ w) : isWordChar x = true := by
  have hempty : emptySlug.toList.all isWordChar = true := by decide
  obtain rfl | hw := mem_slugWords h
  · exact List.all_eq_true.mp hempty x hx
  · obtain ⟨c, -, halpha, hx⟩ := exists_of_mem_words hw hx
    exact isWordChar_of_mem_lowerChar halpha hx

theorem joinable_slugWords (text : String) : Joinable (slugWords text) where
  some_word := slugWords_ne_nil text
  filled h := by
    obtain he | hw := mem_slugWords h
    · exact absurd he (by decide)
    · exact ne_nil_of_mem_words hw rfl
  bare w hw hdash := absurd (isWordChar_of_mem_slugWords hw hdash) (by decide)

theorem toList_slug (text : String) : (slug text).toList = dashed (slugWords text) := by
  have hjoin := joinable_slugWords text
  by_cases hw : words text.toList = []
  · rw [slug, slugChars_eq_dashed, slugWords, hw, if_pos rfl]
    rfl
  · rw [slugWords, if_neg hw] at hjoin ⊢
    obtain ⟨c, cs, hcs⟩ := List.exists_cons_of_ne_nil hjoin.dashed_ne_nil
    rw [slug, slugChars_eq_dashed, hcs]
    exact String.toList_ofList

/-- The form of a slug: single dashes inside it and none at its ends, and no character at which an
address, a file name or a list of words is cut. -/
structure WellFormed (s : String) : Prop where
  not_empty : s ≠ ""
  head_ne : s.toList.head? ≠ some '-'
  last_ne : s.toList.getLast? ≠ some '-'
  single : ¬ ['-', '-'] <:+: s.toList
  safe : ∀ c ∈ s.toList, c ≠ '#' ∧ c ≠ '.' ∧ isBlank c = false

theorem wellFormed_slug (text : String) : WellFormed (slug text) where
  not_empty he := by
    have hlist := toList_slug text
    rw [he] at hlist
    exact (joinable_slugWords text).dashed_ne_nil hlist.symm
  head_ne := toList_slug text ▸ (joinable_slugWords text).head_ne
  last_ne := toList_slug text ▸ (joinable_slugWords text).last_ne
  single := toList_slug text ▸ (joinable_slugWords text).single
  safe c hc := by
    rw [toList_slug] at hc
    obtain rfl | ⟨w, hw, hc⟩ := mem_dashed hc
    · decide
    · have hchar := isWordChar_of_mem_slugWords hw hc
      simp only [isWordChar, Bool.and_eq_true, bne_iff_ne, Bool.not_eq_true'] at hchar
      exact ⟨hchar.1.1.2, hchar.1.2, hchar.2⟩

/-- Settled words stay: the slug of the slug is the slug. -/
theorem slug_slug_of_settled {text : String}
    (h : ∀ w ∈ slugWords text, ∀ c ∈ w, isSettled c = true) : slug (slug text) = slug text := by
  have hwords : words (slug text).toList = slugWords text := by
    rw [toList_slug]
    exact (joinable_slugWords text).words_dashed h
  rw [← String.toList_inj, toList_slug (slug text), slugWords, hwords,
    if_neg (slugWords_ne_nil text), toList_slug]

/-! ## ASCII -/

/-- Are all characters of the text ASCII? -/
def isAscii (text : String) : Bool :=
  text.toList.all (·.toNat < 0x80)

/-- Is the character a small letter or a digit of ASCII? -/
def isPlain (c : Char) : Bool :=
  c.isLower || c.isDigit

theorem plain_of_ascii {text : String} (ht : isAscii text = true) {w : List Char}
    (hw : w ∈ slugWords text) {x : Char} (hx : x ∈ w) : isPlain x = true ∧ isSettled x = true := by
  have hempty : emptySlug.toList.all (fun c => isPlain c && isSettled c) = true := by decide
  have hascii : ∀ n < 0x80, (!(Char.ofNat n).isAlphanum ||
      isPlain (Char.ofNat n).toLower && isSettled (Char.ofNat n).toLower) = true := by decide
  rw [← Bool.and_eq_true]
  obtain rfl | hw := mem_slugWords hw
  · exact List.all_eq_true.mp hempty x hx
  · obtain ⟨c, hc, halpha, hx⟩ := exists_of_mem_words hw hx
    have hsmall : c.toNat < 0x80 := by simpa using List.all_eq_true.mp ht c hc
    rw [lowerChar, if_pos hsmall, List.mem_singleton] at hx
    rw [isAlphanumeric, if_pos hsmall] at halpha
    have hlower := hascii c.toNat hsmall
    rwa [Char.ofNat_toNat, halpha, Bool.not_true, Bool.false_or, ← hx] at hlower

/-- The slug of a text is its words with a dash between each two of them, and it is well formed. The
slug of an ASCII text has only small letters, digits and dashes, and it is its own slug. -/
theorem slug_well_formed (text : String) :
    (slug text).toList = dashed (slugWords text) ∧ WellFormed (slug text) ∧
      (isAscii text = true →
        (slug text).toList.all (fun c => isPlain c || c = '-') = true ∧
          slug (slug text) = slug text) := by
  refine ⟨toList_slug text, wellFormed_slug text, fun ht => ⟨?_, ?_⟩⟩
  · rw [toList_slug, List.all_eq_true]
    intro c hc
    obtain rfl | ⟨w, hw, hc⟩ := mem_dashed hc
    · decide
    · rw [(plain_of_ascii ht hw hc).1, Bool.true_or]
  · exact slug_slug_of_settled fun w hw c hc => (plain_of_ascii ht hw hc).2

/-- Dashes that are never due, a dropped sign inside a word and one between two separators. -/
theorem slug_well_formed_signs :
    isAscii "-- It's (a_ + -B) C#1.5 _" = true ∧
      slug "-- It's (a_ + -B) C#1.5 _" = "its-a-b-c15" ∧
      WellFormed (slug "-- It's (a_ + -B) C#1.5 _") ∧
      (slug "-- It's (a_ + -B) C#1.5 _").toList.all (fun c => isPlain c || c = '-') = true ∧
      slug (slug "-- It's (a_ + -B) C#1.5 _") = slug "-- It's (a_ + -B) C#1.5 _" := by
  obtain ⟨-, hform, hascii⟩ := slug_well_formed "-- It's (a_ + -B) C#1.5 _"
  obtain ⟨hplain, hsame⟩ := hascii (by decide)
  exact ⟨by decide, by decide, hform, hplain, hsame⟩

/-- Beyond ASCII a slug need not be its own slug: the dotted capital I leaves a dot that is no letter. -/
example : slug (slug "\u0130") = "i" ∧ slug "\u0130" = "i\u0307" := by
  decide +kernel

end Marginalia.Outline
