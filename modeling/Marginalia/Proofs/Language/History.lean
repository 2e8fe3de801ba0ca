import Marginalia.Proofs.Language.Claims

/-! Histories of a catalogue: languages enter by either call, and a call that fails changes nothing.
Whatever was called before, the last claim that was accepted is the one that counts. -/
namespace Marginalia.Catalogue
set_option autoImplicit false

/-- A call that brings a language. -/
inductive Call where
  | register (language : Language)
  | layer (language : Language)
  deriving DecidableEq, Repr

namespace Call

def language : Call → Language
  | .register l => l
  | .layer l => l

/-- What the call answers, and the catalogue after it. -/
def run (c : Catalogue) : Call → Except Conflict Unit × Catalogue
  | .register l => c.enter l
  | .layer l => (.ok (), c.layer l)

end Call

/-- The catalogue after the calls, those that fail among them. -/
def after (c : Catalogue) : List Call → Catalogue
  | [] => c
  | call :: later => after (call.run c).2 later

/-- The languages of the calls that succeed, in order. -/
def accepted (c : Catalogue) : List Call → List Language
  | [] => []
  | call :: later =>
    match (call.run c).1 with
    | .ok _ => call.language :: accepted (call.run c).2 later
    | .error _ => accepted (call.run c).2 later

/-! ## One call, all calls -/

theorem run_cases {c : Catalogue} {ls : List Language} (h : Follows c ls) (call : Call) :
    (∃ c', call.run c = (.ok (), c') ∧ Follows c' (ls ++ [call.language])) ∨
      ∃ conflict, call.run c = (.error conflict, c) := by
  cases call with
  | layer l => exact .inl ⟨c.layer l, rfl, h.layer l⟩
  | register l =>
    obtain ⟨conflict, -, he⟩ | ⟨-, he⟩ := enter_cases c l
    · exact .inr ⟨conflict, he⟩
    · exact .inl ⟨c.insert l, he, h.insert l⟩

theorem Follows.after {c : Catalogue} {ls : List Language} (h : Follows c ls) (calls : List Call) :
    Follows (after c calls) (ls ++ accepted c calls) := by
  induction calls generalizing c ls with
  | nil => simpa [Catalogue.after, accepted] using h
  | cons call later ih =>
    obtain ⟨c', he, hc⟩ | ⟨conflict, he⟩ := run_cases h call
    · have hrun := ih hc
      rw [List.append_assoc, List.singleton_append] at hrun
      rw [Catalogue.after, accepted, he]
      exact hrun
    · rw [Catalogue.after, accepted, he]
      exact ih h

theorem follows_after (calls : List Call) : Follows (after {} calls) (accepted {} calls) :=
  follows_empty.after calls

theorem after_append (c : Catalogue) (calls later : List Call) :
    after c (calls ++ later) = after (after c calls) later := by
  induction calls generalizing c with
  | nil => rfl
  | cons call calls ih =>
    rw [List.cons_append, after, after]
    exact ih _

/-! ## Conflicts -/

/-- The conflict names the first extension that somebody claimed before, and only where there is none
the first such file name, with the language that claimed it last and the newcomer. -/
def Blames (ls : List Language) (l : Language) : Conflict → Prop
  | .extension k holder newcomer =>
    (∃ front back, l.extensions = front ++ k :: back ∧
      ∀ j ∈ front, latest (·.extensions) ls j = none) ∧
    (latest (·.extensions) ls k).map (·.name) = some holder ∧ newcomer = l.name
  | .fileName k holder newcomer =>
    (∀ j ∈ l.extensions, latest (·.extensions) ls j = none) ∧
    (∃ front back, l.fileNames = front ++ k :: back ∧
      ∀ j ∈ front, latest (·.fileNames) ls j = none) ∧
    (latest (·.fileNames) ls k).map (·.name) = some holder ∧ newcomer = l.name

theorem Follows.blames {c : Catalogue} {ls : List Language} (h : Follows c ls) {l : Language}
    {conflict : Conflict} (he : c.register l = .error conflict) : Blames ls l conflict := by
  obtain ⟨front, k, back, holder, hkeys, hfront, hk, hr⟩ |
    ⟨hext, front, k, back, holder, hkeys, hfront, hk, hr⟩ | ⟨-, hr⟩ := h.register_cases l
  · rw [hr] at he
    cases he
    exact ⟨⟨front, back, hkeys, hfront⟩, by rw [hk, Option.map_some], rfl⟩
  · rw [hr] at he
    cases he
    exact ⟨hext, ⟨front, back, hkeys, hfront⟩, by rw [hk, Option.map_some], rfl⟩
  · rw [hr] at he
    cases he

theorem Follows.register_eq_ok_iff {c : Catalogue} {ls : List Language} (h : Follows c ls)
    {l : Language} {c' : Catalogue} : c.register l = .ok c' ↔ Free ls l ∧ c' = c.insert l := by
  obtain ⟨front, k, back, holder, hkeys, -, hk, hr⟩ |
    ⟨-, front, k, back, holder, hkeys, -, hk, hr⟩ | ⟨hfree, hr⟩ := h.register_cases l
  · refine iff_of_false (by simp [hr]) ?_
    rintro ⟨⟨hfree, -⟩, -⟩
    have hnone := hfree k (by simp [hkeys])
    rw [hk] at hnone
    cases hnone
  · refine iff_of_false (by simp [hr]) ?_
    rintro ⟨⟨-, hfree⟩, -⟩
    have hnone := hfree k (by simp [hkeys])
    rw [hk] at hnone
    cases hnone
  · simp [hr, hfree, eq_comm]

theorem Follows.register_error_iff {c : Catalogue} {ls : List Language} (h : Follows c ls)
    (l : Language) : (∃ conflict, c.register l = .error conflict) ↔ ¬ Free ls l := by
  cases hr : c.register l with
  | ok c' => exact iff_of_false (by simp) (not_not.mpr (h.register_eq_ok_iff.mp hr).1)
  | error conflict =>
    refine iff_of_true ⟨conflict, rfl⟩ fun hfree => ?_
    have hc := h.register_eq_ok_iff.mpr ⟨hfree, rfl⟩
    rw [hr] at hc
    cases hc

theorem free_iff {ls : List Language} {l : Language} :
    Free ls l ↔ ∀ other ∈ ls,
      (∀ k ∈ l.extensions, k ∉ other.extensions) ∧ ∀ k ∈ l.fileNames, k ∉ other.fileNames := by
  simp only [Free, latest_eq_none_iff]
  constructor
  · rintro ⟨hext, hname⟩ other ho
    exact ⟨fun k hk => hext k hk other ho, fun k hk => hname k hk other ho⟩
  · intro h
    exact ⟨fun k hk other ho => (h other ho).1 k hk, fun k hk other ho => (h other ho).2 k hk⟩

/-! ## Whole histories -/

/-- After any calls the last accepted claim is the one that counts, for extensions and for names of
files. A language is refused exactly where it claims what an accepted one claims, with the first such
claim named, and the refusal is never seen again. -/
theorem latest_claim_counts (calls : List Call) :
    (∀ k, (after {} calls).byExtension? k = latest (·.extensions) (accepted {} calls) k ∧
      ((after {} calls).byExtension? k = none ↔ ∀ l ∈ accepted {} calls, k ∉ l.extensions)) ∧
    (∀ path, (after {} calls).byPath? path = (Path.fileName? path).bind fun name =>
      (latest (·.fileNames) (accepted {} calls) name).or
        ((Path.extensionOf? name).bind (latest (·.extensions) (accepted {} calls)))) ∧
    (∀ l, (∃ conflict, (after {} calls).register l = .error conflict) ↔
      ∃ other ∈ accepted {} calls, (∃ k ∈ l.extensions, k ∈ other.extensions) ∨
        ∃ k ∈ l.fileNames, k ∈ other.fileNames) ∧
    ∀ l conflict, (after {} calls).register l = .error conflict →
      Blames (accepted {} calls) l conflict ∧
      ∀ later, after {} (calls ++ .register l :: later) = after {} (calls ++ later) := by
  have h := follows_after calls
  refine ⟨fun k => ⟨h.byExtension? k, ?_⟩, ?_, ?_, ?_⟩
  · rw [h.byExtension?, latest_eq_none_iff]
  · intro path
    have hext : (after {} calls).byExtension? = latest (·.extensions) (accepted {} calls) :=
      funext h.byExtension?
    simp only [byPath?_eq, h.byFileName?, hext]
  · intro l
    rw [h.register_error_iff, free_iff]
    simp only [not_forall, not_and_or, not_not, exists_prop]
  · intro l conflict he
    refine ⟨h.blames he, fun later => ?_⟩
    rw [after_append, after_append, after, Call.run, enter_of_error he]

/-- One language takes an extension from another, and the next one claims it among others. -/
theorem latest_claim_counts_after_takeover :
    ∃ conflict, (after {} [.register { Language.named "Old" with extensions := ["x", "y"] },
        .layer { Language.named "New" with extensions := ["x"] }]).register
          { Language.named "Late" with extensions := ["z", "x", "y"] } = .error conflict ∧
      conflict = .extension "x" "New" "Late" ∧
      Blames (accepted {} [.register { Language.named "Old" with extensions := ["x", "y"] },
        .layer { Language.named "New" with extensions := ["x"] }])
          { Language.named "Late" with extensions := ["z", "x", "y"] } conflict := by
  obtain ⟨-, -, -, hblames⟩ := latest_claim_counts
    [.register { Language.named "Old" with extensions := ["x", "y"] },
      .layer { Language.named "New" with extensions := ["x"] }]
  exact ⟨.extension "x" "New" "Late", rfl, rfl, (hblames _ _ rfl).1⟩

end Marginalia.Catalogue
