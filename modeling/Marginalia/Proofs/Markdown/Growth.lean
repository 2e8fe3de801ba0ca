import Marginalia.Markdown.Event
import Mathlib.Data.List.Infix

/-! The reader of blocks only adds: no step changes or drops a block that stands outside containers. -/
namespace Marginalia.Markdown
set_option autoImplicit false

namespace Reader

theorem blocks_add (r : Reader) (b : Block Leaf) : r.blocks <:+ (r.add b).blocks := by
  unfold add
  split
  · exact List.suffix_cons ..
  · exact List.suffix_rfl

theorem blocks_close (r : Reader) : r.blocks <:+ r.close.blocks := by
  unfold close
  split
  · exact List.suffix_rfl
  next f fs _ =>
    dsimp only
    have hadd : ∀ b, r.blocks <:+ (({ r with frames := fs } : Reader).add b).blocks := fun b =>
      blocks_add { r with frames := fs } b
    split
    · exact hadd _
    · exact hadd _
    · exact hadd _
    · split <;> exact List.suffix_rfl

theorem blocks_closeMany (n : Nat) (r : Reader) : r.blocks <:+ (closeMany n r).blocks := by
  induction n generalizing r with
  | zero => exact List.suffix_rfl
  | succ n ih => exact (blocks_close r).trans (ih r.close)

theorem blocks_endList (r : Reader) : r.blocks <:+ r.endList.blocks := by
  unfold endList
  dsimp only
  split
  · split
    · split <;> exact blocks_close r
    · split <;> exact List.suffix_rfl
  · split <;> exact List.suffix_rfl

theorem blocks_enterList (r : Reader) (delimiter : Char) (n : Nat) :
    r.blocks <:+ (r.enterList delimiter n).blocks := by
  unfold enterList
  dsimp only
  split
  · exact List.suffix_rfl
  · split
    · split
      · split <;> exact List.suffix_rfl
      · exact blocks_endList r
    · exact blocks_endList r

theorem blocks_enterFootnote (r : Reader) (label : List Char) :
    r.blocks <:+ (r.enterFootnote label).blocks := by
  unfold enterFootnote
  dsimp only
  refine (blocks_endList r).trans ?_
  split
  · split
    · exact blocks_close _
    · exact List.suffix_rfl
  · exact List.suffix_rfl

theorem blocks_enter (fuel : Nat) (r : Reader) (c : Cursor) :
    r.blocks <:+ (enter fuel r c).1.blocks := by
  induction fuel generalizing r c with
  | zero => exact List.suffix_rfl
  | succ fuel ih =>
    rw [enter]
    dsimp only
    split
    · exact List.suffix_rfl
    · split
      · exact (blocks_enterFootnote r _).trans (ih _ _)
      · split
        next mark e _ =>
          have hlist := blocks_enterList r mark.delimiter mark.number
          split
          · exact hlist
          · split
            next done e' _ =>
              split
              · exact hlist.trans (blocks_add (open_ _ (.item mark.indent)) (.task done))
              · refine .trans ?_ (ih _ e')
                exact hlist
            next =>
              refine .trans ?_ (ih _ e)
              exact hlist
        next =>
          split
          next e _ =>
            refine .trans ?_ (ih _ e)
            exact blocks_endList r
          next => exact List.suffix_rfl

theorem blocks_blankLine (r : Reader) : r.blocks <:+ r.blankLine.blocks := by
  unfold blankLine
  split
  · split
    · exact List.suffix_rfl
    · split
      · exact blocks_close r
      · exact List.suffix_rfl
    · exact List.suffix_rfl
  · exact List.suffix_rfl

theorem blocks_definition {r : Reader} {c : Cursor} {l : SourceLine} {ls : List SourceLine}
    {found : Reader × Nat} (h : r.definition c l ls = some found) : found.1.blocks = r.blocks := by
  unfold definition at h
  split at h
  · dsimp only at h
    obtain ⟨⟨label, target, rest⟩, -, rfl⟩ := Option.map_eq_some_iff.mp h
    dsimp only
    unfold define
    dsimp only
    split <;> rfl
  · cases h

theorem blocks_paragraph (r : Reader) (c : Cursor) (l : SourceLine) (ls : List SourceLine) :
    r.blocks <:+ (r.paragraph c l ls).1.blocks := by
  have hadd : ∀ b, r.blocks <:+ (({ r with box := none } : Reader).add b).blocks := fun b =>
    blocks_add { r with box := none } b
  unfold paragraph
  dsimp only
  split
  · exact hadd _
  · split <;> exact hadd _

theorem blocks_leafBlock (r : Reader) (c : Cursor) (l : SourceLine) (ls : List SourceLine) :
    r.blocks <:+ (r.leafBlock c l ls).1.blocks := by
  unfold leafBlock
  dsimp only
  split
  · exact blocks_add r _
  · split
    · exact blocks_add r _
    · split
      · exact blocks_add r _
      · split
        · exact blocks_add r _
        · split
          · exact blocks_add r _
          · split
            next hfound => rw [blocks_definition hfound]
            next => exact blocks_paragraph r _ l ls

theorem blocks_step (r : Reader) (l : SourceLine) (ls : List SourceLine) :
    r.blocks <:+ (r.step l ls).1.blocks := by
  have hclosed := blocks_closeMany (r.frames.length - (resume r.containers (.ofLine l)).1) r
  have henter := hclosed.trans (blocks_enter ((resume r.containers (.ofLine l)).2.rest.length + 1) _
    (resume r.containers (.ofLine l)).2)
  unfold step
  dsimp only
  split
  · exact henter
  · split
    · exact henter.trans (blocks_blankLine _)
    · refine .trans ?_ (blocks_leafBlock _ _ l ls)
      refine .trans ?_ (blocks_endList _)
      exact henter

theorem blocks_run (r : Reader) (ls : List SourceLine) : r.blocks <:+ (r.run ls).blocks := by
  fun_induction run r ls with
  | case1 => exact List.suffix_rfl
  | case2 r l ls next n hstep ih =>
    have h := blocks_step r l ls
    rw [hstep] at h
    exact h.trans ih

end Reader

end Marginalia.Markdown
