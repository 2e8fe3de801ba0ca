import Marginalia.Proofs.Outline.Heading

/-! Numbers of anchors. The search for a free number goes on from the number that the slug's last
anchor had. All numbers up to there are taken, so it finds what a search from one would find: the
least number that is free. -/
namespace Marginalia.Outline
set_option autoImplicit false

variable {used earlier : List String} {base : String}

/-! ## The search -/

/-- The search that starts after `n` comes to rest at `k`. It tries one number after the other, as
long as it has to. -/
inductive Rests (used : List String) (base : String) : Nat → Nat → Prop
  | free {n : Nat} : numbered base (n + 1) ∉ used → Rests used base n (n + 1)
  | taken {n k : Nat} : numbered base (n + 1) ∈ used → Rests used base (n + 1) k →
    Rests used base n k

/-- The least number whose anchor is free. -/
structure LeastFree (used : List String) (base : String) (k : Nat) : Prop where
  pos : 1 ≤ k
  free : numbered base k ∉ used
  least : ∀ j, 1 ≤ j → j < k → numbered base j ∈ used

theorem rests_firstFree {tries n : Nat}
    (h : numbered base (firstFree used base tries n) ∉ used) :
    Rests used base n (firstFree used base tries n) := by
  induction tries generalizing n with
  | zero => exact .free h
  | succ tries ih =>
    rw [firstFree] at h ⊢
    split at h
    next hused =>
      rw [if_pos hused]
      exact .taken hused (ih h)
    next hfree =>
      rw [if_neg hfree]
      exact .free hfree

/-- With one try for each anchor in use the search is over before the tries are. -/
theorem rests (used : List String) (base : String) (n : Nat) :
    Rests used base n (firstFree used base used.length n) :=
  rests_firstFree (firstFree_not_mem used base n)

theorem Rests.passes {n k : Nat} (h : Rests used base n k) :
    n < k ∧ numbered base k ∉ used ∧ ∀ j, n < j → j < k → numbered base j ∈ used := by
  induction h with
  | free hfree => exact ⟨Nat.lt_succ_self _, hfree, fun j _ _ => by omega⟩
  | @taken n k hused _ ih =>
    obtain ⟨hlt, hfree, hbetween⟩ := ih
    refine ⟨by omega, hfree, fun j hj hk => ?_⟩
    by_cases heq : j = n + 1
    · rwa [heq]
    · exact hbetween j (by omega) hk

/-- A search that starts where all numbers are taken finds the least one that is free. -/
theorem Rests.leastFree {n k : Nat} (h : Rests used base n k)
    (hn : ∀ j, 1 ≤ j → j ≤ n → numbered base j ∈ used) : LeastFree used base k := by
  obtain ⟨hlt, hfree, hbetween⟩ := h.passes
  refine ⟨by omega, hfree, fun j hj hk => ?_⟩
  by_cases hjn : j ≤ n
  · exact hn j hj hjn
  · exact hbetween j (by omega) hk

theorem LeastFree.unique {j k : Nat} (hj : LeastFree used base j) (hk : LeastFree used base k) :
    j = k := by
  rcases Nat.lt_trichotomy j k with h | h | h
  · exact absurd (hk.least j hj.pos h) hj.free
  · exact h
  · exact absurd (hj.least k hk.pos h) hk.free

theorem LeastFree.congr {k : Nat} (h : LeastFree used base k)
    (hsame : ∀ x, x ∈ used ↔ x ∈ earlier) : LeastFree earlier base k :=
  ⟨h.pos, fun hk => h.free ((hsame _).mpr hk), fun j hj hk => (hsame _).mp (h.least j hj hk)⟩

theorem Rests.congr {n k : Nat} (h : Rests used base n k) (hsame : ∀ x, x ∈ used ↔ x ∈ earlier) :
    Rests earlier base n k := by
  induction h with
  | free hfree => exact .free fun h => hfree ((hsame _).mpr h)
  | taken hused _ ih => exact .taken ((hsame _).mp hused) ih

namespace Anchors

/-! ## What is remembered -/

/-- All numbers up to the one that is remembered for a slug are taken. -/
def Covered (a : Anchors) : Prop :=
  ∀ base j, 1 ≤ j → j ≤ a.count base → numbered base j ∈ a.used

theorem covered_fresh (used : List String) : Covered ⟨used, []⟩ := by
  intro base j hj hcount
  have hzero : Anchors.count ⟨used, []⟩ base = 0 := rfl
  omega

theorem count_cons (used : List String) (counts : List (String × Nat)) (base : String) (n : Nat)
    (other : String) :
    Anchors.count ⟨used, (base, n) :: counts⟩ other =
      if other = base then n else Anchors.count ⟨used, counts⟩ other := by
  rw [count, List.lookup_cons]
  by_cases h : other = base
  · rw [if_pos h, beq_iff_eq.mpr h]
    rfl
  · rw [if_neg h, beq_false_of_ne h]
    rfl

/-- What a call gives and remembers. -/
theorem take_search (a : Anchors) (text : String) :
    (slug text ∉ a.used ∧
      a.take text = (slug text, ⟨slug text :: a.used, (slug text, a.count (slug text)) :: a.counts⟩)) ∨
    (slug text ∈ a.used ∧ ∃ k, Rests a.used (slug text) (a.count (slug text)) k ∧
      a.take text = (numbered (slug text) k,
        ⟨numbered (slug text) k :: a.used, (slug text, k) :: a.counts⟩)) := by
  by_cases h : slug text ∈ a.used
  · refine .inr ⟨h, _, rests a.used (slug text) (a.count (slug text)), ?_⟩
    rw [take, if_pos h]
  · refine .inl ⟨h, ?_⟩
    rw [take, if_neg h]

theorem Covered.take {a : Anchors} (h : a.Covered) (text : String) : (a.take text).2.Covered := by
  intro base j hj hcount
  obtain ⟨-, htake⟩ | ⟨-, k, hk, htake⟩ := a.take_search text
  · rw [htake] at hcount ⊢
    rw [count_cons] at hcount
    refine List.mem_cons_of_mem _ (h base j hj ?_)
    split at hcount
    next heq => rwa [heq]
    next => exact hcount
  · rw [htake] at hcount ⊢
    rw [count_cons] at hcount
    split at hcount
    next heq =>
      -- the number just given is taken now, and the search passed over those before it
      have hleast := hk.leastFree (h (slug text))
      subst heq
      by_cases hlast : j = k
      · rw [hlast]
        exact List.mem_cons_self ..
      · exact List.mem_cons_of_mem _ (hleast.least j hj (by omega))
    next => exact List.mem_cons_of_mem _ (h base j hj hcount)

theorem Covered.after {a : Anchors} (h : a.Covered) (texts : List String) :
    (a.after texts).Covered := by
  induction texts generalizing a with
  | nil => exact h
  | cons text texts ih => exact ih (h.take text)

/-! ## One call -/

/-- The anchor due to a heading: its slug if that is not given out yet, else the slug with the least
number that is free. -/
def Due (earlier : List String) (text anchor : String) : Prop :=
  (slug text ∉ earlier ∧ anchor = slug text) ∨
    (slug text ∈ earlier ∧ ∃ k, LeastFree earlier (slug text) k ∧ anchor = numbered (slug text) k)

theorem Due.unique {text anchor other : String} (h : Due earlier text anchor)
    (h' : Due earlier text other) : anchor = other := by
  obtain ⟨hfree, rfl⟩ | ⟨hused, k, hk, rfl⟩ := h
  · obtain ⟨-, rfl⟩ | ⟨hused, -⟩ := h'
    · rfl
    · exact absurd hused hfree
  · obtain ⟨hfree, -⟩ | ⟨-, j, hj, rfl⟩ := h'
    · exact absurd hused hfree
    · rw [hk.unique hj]

theorem Covered.due {a : Anchors} (h : a.Covered) (text : String) :
    Due a.used text (a.take text).1 := by
  obtain ⟨hfree, htake⟩ | ⟨hused, k, hk, htake⟩ := a.take_search text
  · exact .inl ⟨hfree, by rw [htake]⟩
  · exact .inr ⟨hused, k, hk.leastFree (h (slug text)), by rw [htake]⟩

/-! ## All calls -/

theorem length_given (a : Anchors) (texts : List String) :
    (a.given texts).length = texts.length := by
  induction texts generalizing a with
  | nil => rfl
  | cons text texts ih => rw [given, List.length_cons, List.length_cons, ih]

theorem used_after (a : Anchors) (texts : List String) :
    (a.after texts).used = (a.given texts).reverse ++ a.used := by
  induction texts generalizing a with
  | nil => rfl
  | cons text texts ih =>
    have hstep : a.after (text :: texts) = (a.take text).2.after texts := rfl
    rw [hstep, ih, used_take, given, List.reverse_cons, List.append_assoc, List.singleton_append]

theorem mem_used_after {texts : List String} {x : String} :
    x ∈ (after {} texts).used ↔ x ∈ given {} texts := by
  rw [used_after, List.mem_append, List.mem_reverse]
  exact or_iff_left List.not_mem_nil

/-- The anchors given out when every search starts from one. -/
def recounted (used : List String) : List String → List String
  | [] => []
  | text :: texts =>
    let anchor := (take ⟨used, []⟩ text).1
    anchor :: recounted (anchor :: used) texts

theorem Covered.given_eq_recounted {a : Anchors} (h : a.Covered) (texts : List String) :
    a.given texts = recounted a.used texts := by
  induction texts generalizing a with
  | nil => rfl
  | cons text texts ih =>
    have hfirst : (a.take text).1 = (Anchors.take ⟨a.used, []⟩ text).1 :=
      (h.due text).unique ((covered_fresh a.used).due text)
    rw [given, recounted, ih (h.take text), used_take, hfirst]

theorem Due.congr {text anchor : String} (h : Due used text anchor)
    (hsame : ∀ x, x ∈ used ↔ x ∈ earlier) : Due earlier text anchor := by
  obtain ⟨hfree, heq⟩ | ⟨hused, k, hk, heq⟩ := h
  · exact .inl ⟨fun h => hfree ((hsame _).mpr h), heq⟩
  · exact .inr ⟨(hsame _).mp hused, k, hk.congr hsame, heq⟩

/-- The search ends at the least free number, from what is remembered as from one. -/
theorem Covered.search_ends {a : Anchors} (h : a.Covered) (base : String) :
    ∃ k, LeastFree a.used base k ∧ Rests a.used base (a.count base) k ∧ Rests a.used base 0 k := by
  have hlast := rests a.used base (a.count base)
  have hzero := rests a.used base 0
  have hleast := hlast.leastFree (h base)
  have hleast' := hzero.leastFree fun j hj hj' => by omega
  rw [hleast'.unique hleast] at hzero
  exact ⟨_, hleast, hlast, hzero⟩

theorem given_getElem? {texts : List String} {i : Nat} {text : String} (h : texts[i]? = some text) :
    (given {} texts).take i = given {} (texts.take i) ∧
      (given {} texts)[i]? = some ((after {} (texts.take i)).take text).1 := by
  obtain ⟨hi, rfl⟩ := List.getElem?_eq_some_iff.mp h
  have hsplit : texts = texts.take i ++ texts[i] :: texts.drop (i + 1) := by simp
  have hlength : (given {} (texts.take i)).length = i := by
    rw [length_given, List.length_take, Nat.min_eq_left (Nat.le_of_lt hi)]
  have hgiven := given_append {} (texts.take i) (texts[i] :: texts.drop (i + 1))
  rw [← hsplit, given] at hgiven
  rw [hgiven]
  refine ⟨List.take_left' hlength, ?_⟩
  rw [List.getElem?_append_right (Nat.le_of_eq hlength), hlength, Nat.sub_self, List.getElem?_cons_zero]

/-- Each heading of a file gets its slug, or the slug with the least number that makes it differ from
the anchors before it. The search for that number ends, and ends at the same number whether it goes on
from the last one or starts from one, so the anchors are those of searches that all start from one, and
no two of them are the same. -/
theorem given_least_numbers (texts : List String) :
    (given {} texts).length = texts.length ∧
    (∀ i text, texts[i]? = some text →
      (∃ anchor, (given {} texts)[i]? = some anchor ∧
        Due ((given {} texts).take i) text anchor) ∧
      ∃ k, LeastFree ((given {} texts).take i) (slug text) k ∧
        Rests ((given {} texts).take i) (slug text)
          ((after {} (texts.take i)).count (slug text)) k ∧
        Rests ((given {} texts).take i) (slug text) 0 k) ∧
    given {} texts = recounted [] texts ∧ (given {} texts).Nodup ∧
    ∀ ps : List Passage, ((ofPassages ps).headings.map (·.anchor)).Nodup := by
  refine ⟨length_given {} texts, fun i text h => ?_, (covered_fresh []).given_eq_recounted texts,
    given_nodup {} texts, fun ps => ?_⟩
  · obtain ⟨hearlier, hanchor⟩ := given_getElem? h
    have hcovered : (after {} (texts.take i)).Covered := (covered_fresh []).after (texts.take i)
    have hsame : ∀ x, x ∈ (after {} (texts.take i)).used ↔ x ∈ (given {} texts).take i := by
      intro x
      rw [hearlier, mem_used_after]
    obtain ⟨k, hleast, hlast, hzero⟩ := hcovered.search_ends (slug text)
    exact ⟨⟨_, hanchor, (hcovered.due text).congr hsame⟩, k, hleast.congr hsame, hlast.congr hsame,
      hzero.congr hsame⟩
  · rw [ofPassages_anchors]
    exact given_nodup {} _

/-- The third heading has the slug that the second one got by its number. -/
theorem given_least_numbers_setup :
    given {} ["Setup", "Setup", "Setup-1"] = ["setup", "setup-1", "setup-1-1"] ∧
      Due ["setup", "setup-1"] "Setup-1" "setup-1-1" := by
  have hgiven : given {} ["Setup", "Setup", "Setup-1"] = ["setup", "setup-1", "setup-1-1"] := by
    decide
  obtain ⟨-, hcalls, -⟩ := given_least_numbers ["Setup", "Setup", "Setup-1"]
  obtain ⟨⟨anchor, hanchor, hdue⟩, -⟩ := hcalls 2 "Setup-1" rfl
  rw [hgiven] at hanchor hdue
  cases hanchor
  exact ⟨hgiven, hdue⟩

end Anchors

end Marginalia.Outline
