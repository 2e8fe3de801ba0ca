import Marginalia.Passage.Segment
import Mathlib.Data.List.Chain

/-! The two passes over the lines of a file, line by line and run by run. Filling the runs of blank
lines gives each line its kind from its neighbours, and the loop that adds line after line to the last
passage makes one passage of every longest run. -/
namespace Marginalia.Passage
set_option autoImplicit false

/-! ## Settled lines -/

/-- The kind of the first line that has one. -/
def firstKind? : List Classified → Option Kind
  | [] => none
  | c :: rest => c.kind.or (firstKind? rest)

theorem fill_append (k : Kind) (xs ys : List Classified) :
    fill k (xs ++ ys) = fill k xs ++ fill k ys :=
  List.map_append

/-- A run of blank lines gets the kind that the next line with one decides. -/
theorem settleFrom_eq (before : Option Kind) (blanks cs : List Classified) :
    settleFrom before blanks cs =
      fill (blankKind before (firstKind? cs)) blanks ++ settle before cs := by
  induction cs generalizing blanks with
  | nil => rw [settle, settleFrom, settleFrom, firstKind?]; exact (List.append_nil _).symm
  | cons c rest ih =>
    rw [settle, settleFrom, settleFrom, firstKind?]
    cases hk : c.kind with
    | none =>
      dsimp only
      rw [ih, ih, fill_append, List.append_assoc, Option.none_or]
      rfl
    | some k => rfl

@[simp] theorem settle_nil (before : Option Kind) : settle before [] = [] := rfl

/-- Line by line, a line without a kind gets one from the next line that has one and from what is
before it. -/
theorem settle_cons (before : Option Kind) (c : Classified) (rest : List Classified) :
    settle before (c :: rest) =
      ⟨c.kind.getD (blankKind before (firstKind? rest)), c.line, c.fold⟩ ::
        settle (c.kind.or before) rest := by
  rw [settle, settleFrom]
  cases hk : c.kind with
  | none =>
    dsimp only
    rw [settleFrom_eq]
    rfl
  | some k => rfl

theorem settle_lines (before : Option Kind) (cs : List Classified) :
    (settle before cs).map (·.line) = cs.map (·.line) := by
  induction cs generalizing before with
  | nil => rfl
  | cons c rest ih =>
    rw [settle_cons, List.map_cons, List.map_cons, ih]

/-! ## Runs of one kind -/

/-- The longest runs of lines of one kind. -/
def runs : List Settled → List (List Settled)
  | [] => []
  | a :: rest =>
    match runs rest with
    | (b :: bs) :: others =>
      if a.kind = b.kind then (a :: b :: bs) :: others else [a] :: (b :: bs) :: others
    | others => [a] :: others

/-- The kind of a run, which is that of all its lines. -/
def runKind : List Settled → Kind
  | [] => .code
  | s :: _ => s.kind

/-- What one more line does to the runs: it joins the first run, or it stands before them. -/
theorem runs_cons (a : Settled) (rest : List Settled) :
    (∃ b bs others, runs rest = (b :: bs) :: others ∧ a.kind = b.kind ∧
      runs (a :: rest) = (a :: b :: bs) :: others) ∨
    ((∀ b bs others, runs rest = (b :: bs) :: others → a.kind ≠ b.kind) ∧
      runs (a :: rest) = [a] :: runs rest) := by
  rw [runs]
  split
  next b bs others hr =>
    by_cases hk : a.kind = b.kind
    · exact .inl ⟨b, bs, others, hr, hk, by rw [if_pos hk]⟩
    · refine .inr ⟨?_, by rw [if_neg hk]; rw [hr]⟩
      intro b' bs' others' hr'
      rw [hr] at hr'
      cases hr'
      exact hk
  next hr => exact .inr ⟨fun b bs others h => absurd h (hr b bs others), rfl⟩

theorem runs_flatten (xs : List Settled) : (runs xs).flatten = xs := by
  induction xs with
  | nil => rfl
  | cons a rest ih =>
    obtain ⟨b, bs, others, hr, -, he⟩ | ⟨-, he⟩ := runs_cons a rest
    · rw [hr, List.flatten_cons] at ih
      rw [he, List.flatten_cons, List.cons_append, ih]
    · rw [he, List.flatten_cons, ih, List.singleton_append]

theorem runs_ne_nil (xs : List Settled) : ∀ r ∈ runs xs, r ≠ [] := by
  induction xs with
  | nil => simp [runs]
  | cons a rest ih =>
    obtain ⟨b, bs, others, hr, -, he⟩ | ⟨-, he⟩ := runs_cons a rest
    · rw [he]
      intro r hm
      cases hm with
      | head => simp
      | tail _ hm => exact ih r (by rw [hr]; exact List.mem_cons_of_mem _ hm)
    · rw [he]
      intro r hm
      cases hm with
      | head => simp
      | tail _ hm => exact ih r hm

theorem runs_alternate (xs : List Settled) :
    (runs xs).IsChain (fun r s => runKind r ≠ runKind s) := by
  induction xs with
  | nil => simp [runs]
  | cons a rest ih =>
    obtain ⟨b, bs, others, hr, hk, he⟩ | ⟨hk, he⟩ := runs_cons a rest
    · rw [hr] at ih
      rw [he]
      -- a longer first run has the kind it had, so its neighbour still differs
      have hsame : runKind (a :: b :: bs) = runKind (b :: bs) := hk
      cases others with
      | nil => exact .singleton _
      | cons s others =>
        rw [List.isChain_cons_cons] at ih ⊢
        exact ⟨hsame ▸ ih.1, ih.2⟩
    · rw [he]
      cases hr : runs rest with
      | nil => exact .singleton _
      | cons s others =>
        obtain ⟨b, bs, rfl⟩ := List.exists_cons_of_ne_nil
          (runs_ne_nil rest s (by rw [hr]; exact List.mem_cons_self ..))
        rw [List.isChain_cons_cons]
        exact ⟨hk b bs others hr, hr ▸ ih⟩

theorem runs_uniform (xs : List Settled) : ∀ r ∈ runs xs, ∀ s ∈ r, s.kind = runKind r := by
  induction xs with
  | nil => simp [runs]
  | cons a rest ih =>
    obtain ⟨b, bs, others, hr, hk, he⟩ | ⟨-, he⟩ := runs_cons a rest
    · rw [he]
      rw [hr] at ih
      intro r hm s hs
      cases hm with
      | head =>
        cases hs with
        | head => rfl
        | tail _ hs => exact (ih _ (List.mem_cons_self ..) s hs).trans hk.symm
      | tail _ hm => exact ih r (List.mem_cons_of_mem _ hm) s hs
    · rw [he]
      intro r hm s hs
      cases hm with
      | head => rw [List.mem_singleton.mp hs]; rfl
      | tail _ hm => exact ih r hm s hs

/-! ## Numbered passages -/

/-- Is a fold pending after the run, if it was or was not before? -/
def pendingAfter (pending : Bool) (run : List Settled) : Bool :=
  runKind run ≠ .code && pending || run.any (·.fold)

/-- The passages of the runs. `number` is the number of the next line. -/
def number (number : Nat) (pending : Bool) : List (List Settled) → List Passage
  | [] => []
  | run :: rest =>
    { kind := runKind run
      start := number
      lines := run.map (·.line)
      folded := runKind run = .code && pending } ::
    Passage.number (number + run.length) (pendingAfter pending run) rest

theorem Draft.addAll_append (d : Draft) (n : Nat) (xs ys : List Settled) :
    d.addAll n (xs ++ ys) = (d.addAll n xs).addAll (n + xs.length) ys := by
  induction xs generalizing d n with
  | nil => rfl
  | cons s rest ih =>
    rw [List.cons_append, addAll, ih, addAll, List.length_cons, Nat.add_assoc, Nat.add_comm 1]

theorem Draft.add_of_eq {p : Passage} {s : Settled} (earlier : List Passage) (pending : Bool)
    (n : Nat) (h : p.kind = s.kind) :
    add ⟨p :: earlier, pending⟩ n s =
      ⟨{ p with lines := p.lines ++ [s.line] } :: earlier, pending || s.fold⟩ :=
  if_pos h

theorem Draft.add_of_ne {d : Draft} {s : Settled} (n : Nat)
    (h : ∀ p ∈ d.passages.head?, p.kind ≠ s.kind) : d.add n s = d.begin n s := by
  rw [add]
  split
  next => rfl
  next p earlier hd => exact if_neg (h p (by rw [hd]; rfl))

/-- Lines of the kind of the last passage go with it, and each may leave a fold pending. -/
theorem Draft.addAll_last (p : Passage) (earlier : List Passage) (pending : Bool) (n : Nat)
    {run : List Settled} (hu : ∀ s ∈ run, s.kind = p.kind) :
    addAll ⟨p :: earlier, pending⟩ n run =
      ⟨{ p with lines := p.lines ++ run.map (·.line) } :: earlier,
        pending || run.any (·.fold)⟩ := by
  induction run generalizing p pending n with
  | nil => simp [addAll]
  | cons s rest ih =>
    have hs : p.kind = s.kind := (hu s (List.mem_cons_self ..)).symm
    have hrest : ∀ t ∈ rest, t.kind = p.kind := fun t ht => hu t (List.mem_cons_of_mem s ht)
    rw [addAll, add_of_eq _ _ _ hs, ih, List.append_assoc, Bool.or_assoc]
    · rfl
    · exact hrest

/-- A run of another kind than the last passage makes a passage of its own. -/
theorem Draft.addAll_run {d : Draft} (n : Nat) {run : List Settled} (hne : run ≠ [])
    (hu : ∀ s ∈ run, s.kind = runKind run) (h : ∀ p ∈ d.passages.head?, p.kind ≠ runKind run) :
    d.addAll n run =
      ⟨⟨runKind run, n, run.map (·.line), runKind run = .code && d.pending⟩ :: d.passages,
        pendingAfter d.pending run⟩ := by
  obtain ⟨s, rest, rfl⟩ := List.exists_cons_of_ne_nil hne
  have hrest : ∀ t ∈ rest, t.kind = s.kind := fun t ht => hu t (List.mem_cons_of_mem s ht)
  rw [addAll, add_of_ne n h, begin, addAll_last _ _ _ _ hrest, Bool.or_assoc]
  rfl

/-- Runs of alternating kinds make one passage each. -/
theorem Draft.addAll_flatten (d : Draft) (n : Nat) {rs : List (List Settled)}
    (hne : ∀ r ∈ rs, r ≠ []) (hu : ∀ r ∈ rs, ∀ s ∈ r, s.kind = runKind r)
    (halt : rs.IsChain fun r s => runKind r ≠ runKind s)
    (h : ∀ p ∈ d.passages.head?, ∀ r ∈ rs.head?, p.kind ≠ runKind r) :
    (d.addAll n rs.flatten).passages = (number n d.pending rs).reverse ++ d.passages := by
  induction rs generalizing d n with
  | nil => rfl
  | cons r rs ih =>
    have hr := addAll_run n (hne r (List.mem_cons_self ..)) (hu r (List.mem_cons_self ..))
      fun p hp => h p hp r rfl
    rw [List.flatten_cons, addAll_append, hr, ih]
    · rw [number, List.reverse_cons, List.append_assoc]
      rfl
    · exact fun s hs => hne s (List.mem_cons_of_mem r hs)
    · exact fun s hs => hu s (List.mem_cons_of_mem r hs)
    · exact halt.tail
    · intro p hp s hs
      cases hp
      obtain ⟨rest, rfl⟩ := List.head?_eq_some_iff.mp hs
      exact (List.isChain_cons_cons.mp halt).1

/-- The loop over the lines makes the passages of the longest runs. -/
theorem coalesce_eq (xs : List Settled) : coalesce xs = number 1 false (runs xs) := by
  have h := Draft.addAll_flatten {} 1 (runs_ne_nil xs) (runs_uniform xs) (runs_alternate xs) nofun
  rw [coalesce, ← runs_flatten xs, h, runs_flatten, List.append_nil, List.reverse_reverse]

theorem segment_eq (l : Language) (text : String) :
    segment l text = number 1 false (runs (settle none (classify l text))) :=
  coalesce_eq _

end Marginalia.Passage
