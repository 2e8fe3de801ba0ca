import Marginalia.Markdown.Render
import Marginalia.Proofs.Html.Escape
import Mathlib.Data.List.Count

/-! How much markup a text has: its angle brackets and quotes. The tally of a text is put together from
the tallies of its parts, and escaped text has none. -/
namespace Marginalia.Html
set_option autoImplicit false

/-! ## Tallies -/

/-- How many characters of each kind that markup is made of. -/
@[ext]
structure Tally where
  opening : Nat
  closing : Nat
  quotes : Nat
  deriving DecidableEq, Repr

namespace Tally

instance : Zero Tally := ⟨⟨0, 0, 0⟩⟩

instance : Add Tally :=
  ⟨fun a b => ⟨a.opening + b.opening, a.closing + b.closing, a.quotes + b.quotes⟩⟩

def times (n : Nat) (t : Tally) : Tally :=
  ⟨n * t.opening, n * t.closing, n * t.quotes⟩

/-- The tallies of several parts together. -/
def total (ts : List Tally) : Tally :=
  ts.foldr (· + ·) 0

def ofChars (cs : List Char) : Tally :=
  ⟨cs.count '<', cs.count '>', cs.count '"'⟩

@[simp] theorem opening_zero : (0 : Tally).opening = 0 := rfl
@[simp] theorem closing_zero : (0 : Tally).closing = 0 := rfl
@[simp] theorem quotes_zero : (0 : Tally).quotes = 0 := rfl
@[simp] theorem opening_add (a b : Tally) : (a + b).opening = a.opening + b.opening := rfl
@[simp] theorem closing_add (a b : Tally) : (a + b).closing = a.closing + b.closing := rfl
@[simp] theorem quotes_add (a b : Tally) : (a + b).quotes = a.quotes + b.quotes := rfl
@[simp] theorem opening_times (n : Nat) (t : Tally) : (t.times n).opening = n * t.opening := rfl
@[simp] theorem closing_times (n : Nat) (t : Tally) : (t.times n).closing = n * t.closing := rfl
@[simp] theorem quotes_times (n : Nat) (t : Tally) : (t.times n).quotes = n * t.quotes := rfl

theorem times_zero (t : Tally) : t.times 0 = 0 := by
  ext <;> simp

theorem times_succ (n : Nat) (t : Tally) : t.times (n + 1) = t + t.times n := by
  ext <;> simp [Nat.succ_mul, Nat.add_comm]

end Tally

/-! ## Texts -/

/-- The text has this much markup, and no single quote. -/
structure Marks (text : String) (t : Tally) : Prop where
  opening : text.toList.count '<' = t.opening
  closing : text.toList.count '>' = t.closing
  quotes : text.toList.count '"' = t.quotes
  single : text.toList.count '\'' = 0

namespace Marks
variable {a b text : String} {s t : Tally}

theorem of_eq (h : Marks text s) (hst : s = t) : Marks text t := hst ▸ h

theorem append (ha : Marks a s) (hb : Marks b t) : Marks (a ++ b) (s + t) where
  opening := by simp [ha.opening, hb.opening]
  closing := by simp [ha.closing, hb.closing]
  quotes := by simp [ha.quotes, hb.quotes]
  single := by simp [ha.single, hb.single]

theorem of_not_mem (h : ∀ c ∈ text.toList, isSpecial c = false) : Marks text 0 where
  opening := List.count_eq_zero_of_not_mem fun hm => absurd (h _ hm) (by decide)
  closing := List.count_eq_zero_of_not_mem fun hm => absurd (h _ hm) (by decide)
  quotes := List.count_eq_zero_of_not_mem fun hm => absurd (h _ hm) (by decide)
  single := List.count_eq_zero_of_not_mem fun hm => absurd (h _ hm) (by decide)

theorem quiet (h : (text.toList.all fun c => !isSpecial c) = true) : Marks text 0 :=
  of_not_mem fun c hc => by simpa using List.all_eq_true.mp h c hc

theorem escape (text : String) : Marks (Html.escape text) 0 where
  opening := List.count_eq_zero_of_not_mem (special_not_mem_escape (by decide) (by decide) text)
  closing := List.count_eq_zero_of_not_mem (special_not_mem_escape (by decide) (by decide) text)
  quotes := List.count_eq_zero_of_not_mem (special_not_mem_escape (by decide) (by decide) text)
  single := List.count_eq_zero_of_not_mem (special_not_mem_escape (by decide) (by decide) text)

/-- A fixed text is counted letter by letter. -/
theorem fixed {cs : List Char} (h : text = String.ofList cs) (hs : cs.count '\'' = 0) :
    Marks text (.ofChars cs) := by
  rw [h]
  exact ⟨by rw [String.toList_ofList]; rfl, by rw [String.toList_ofList]; rfl,
    by rw [String.toList_ofList]; rfl, by rwa [String.toList_ofList]⟩

theorem join_map {α : Type} {f : α → String} {l : List α} (h : ∀ x ∈ l, Marks (f x) t) :
    Marks (String.join (l.map f)) (t.times l.length) := by
  induction l with
  | nil =>
    rw [List.length_nil, Tally.times_zero]
    exact .of_not_mem (by simp)
  | cons x l ih =>
    rw [List.map_cons, String.join_cons, List.length_cons, Tally.times_succ]
    exact (h x (by simp)).append (ih fun y hy => h y (by simp [hy]))

end Marks

end Marginalia.Html
