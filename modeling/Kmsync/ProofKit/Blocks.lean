import Mathlib.Data.List.SplitBy

/-! The maximal blocks of a list whose neighbours belong together, and what becomes of their effects
when two neighbours of one block are merged into one element. -/

namespace ProofKit

variable {α β : Type} {r : α → α → Bool} {a b x y : α} {l l' : List α}

theorem splitBy_cons_of_not (h : r x y = false) :
    (x :: y :: l).splitBy r = [x] :: (y :: l).splitBy r :=
  List.splitBy_append_cons (l := [x]) l fun z hz => by
    obtain rfl := Option.some.inj hz
    exact h

/-- The first block begins with the first element. -/
theorem exists_splitBy_cons (r : α → α → Bool) (y : α) (l : List α) :
    ∃ g gs, (y :: l).splitBy r = (y :: g) :: gs := by
  obtain ⟨block, gs, hSplit⟩ := List.exists_cons_of_ne_nil
    (List.splitBy_ne_nil.mpr (List.cons_ne_nil y l))
  obtain ⟨z, g, rfl⟩ := List.exists_cons_of_ne_nil
    (List.ne_nil_of_mem_splitBy (hSplit ▸ List.mem_cons_self))
  have hFlatten := List.flatten_splitBy r (y :: l)
  rw [hSplit] at hFlatten
  obtain rfl : z = y := (List.cons.inj hFlatten).1
  exact ⟨g, gs, hSplit⟩

theorem splitBy_cons_of_rel {g : List α} {gs : List (List α)} (h : r x y = true)
    (hSplit : (y :: l).splitBy r = (y :: g) :: gs) :
    (x :: y :: l).splitBy r = (x :: y :: g) :: gs := by
  obtain ⟨hFlatten, hNil, hChain, hNext⟩ := List.splitBy_eq_iff.mp hSplit
  refine List.splitBy_eq_iff.mpr ⟨?_, ?_, ?_, ?_⟩
  · rw [hFlatten]
    rfl
  · simpa using hNil
  · intro block hBlock
    rcases List.mem_cons.mp hBlock with rfl | hBlock
    · exact List.isChain_cons_cons.mpr ⟨h, hChain _ List.mem_cons_self⟩
    · exact hChain block (List.mem_cons_of_mem _ hBlock)
  · cases gs with
    | nil => exact List.isChain_singleton _
    | cons block gs =>
      obtain ⟨⟨hFirst, hBlock, hNot⟩, hRest⟩ := List.isChain_cons_cons.mp hNext
      refine List.isChain_cons_cons.mpr ⟨⟨List.cons_ne_nil _ _, hBlock, ?_⟩, hRest⟩
      rwa [List.getLast_cons hFirst]

/-- The effects of the blocks. -/
def blockEffects (r : α → α → Bool) (effect : List α → β) (l : List α) : List β :=
  (l.splitBy r).map effect

/-- Two neighbours of one block that are merged look the same to what stands around them, and have
the effect of both. -/
structure Merging (r : α → α → Bool) (merge : α → α → α) (effect : List α → β) : Prop where
  left : ∀ {a b} x, r a b = true → r x (merge a b) = r x a
  right : ∀ {a b} x, r a b = true → r (merge a b) x = r b x
  merged : ∀ {a b} g, r a b = true → effect (merge a b :: g) = effect (a :: b :: g)
  cons : ∀ {y y' g g'} x, effect (y :: g) = effect (y' :: g') →
    effect (x :: y :: g) = effect (x :: y' :: g')

/-- Two lists have the same effects, also behind any elements. -/
structure SameBlocks (r : α → α → Bool) (effect : List α → β) (l l' : List α) : Prop where
  effects : blockEffects r effect l = blockEffects r effect l'
  heads : (l.head?.map fun y x => r x y) = l'.head?.map fun y x => r x y

namespace SameBlocks

variable {effect : List α → β} {l'' : List α}

theorem refl (l : List α) : SameBlocks r effect l l := ⟨rfl, rfl⟩

theorem trans (h : SameBlocks r effect l l') (h' : SameBlocks r effect l' l'') :
    SameBlocks r effect l l'' :=
  ⟨h.effects.trans h'.effects, h.heads.trans h'.heads⟩

theorem cons (hCons : ∀ {y y' g g'} x, effect (y :: g) = effect (y' :: g') →
    effect (x :: y :: g) = effect (x :: y' :: g'))
    (h : SameBlocks r effect l l') (x : α) : SameBlocks r effect (x :: l) (x :: l') := by
  refine ⟨?_, rfl⟩
  cases l with
  | nil =>
    cases l' with
    | nil => rfl
    | cons y' l' => cases h.heads
  | cons y l =>
    cases l' with
    | nil => cases h.heads
    | cons y' l' =>
      obtain ⟨g, gs, hSplit⟩ := exists_splitBy_cons r y l
      obtain ⟨g', gs', hSplit'⟩ := exists_splitBy_cons r y' l'
      have hHeads : r x y = r x y' := congrFun (Option.some.inj h.heads) x
      have hEffects := h.effects
      rw [blockEffects, blockEffects, hSplit, hSplit', List.map_cons, List.map_cons] at hEffects
      obtain ⟨hFirst, hRest⟩ := List.cons.inj hEffects
      cases hRel : r x y with
      | true =>
        rw [blockEffects, blockEffects, splitBy_cons_of_rel hRel hSplit,
          splitBy_cons_of_rel (hHeads ▸ hRel) hSplit', List.map_cons, List.map_cons,
          hCons x hFirst, hRest]
      | false =>
        rw [blockEffects, blockEffects, splitBy_cons_of_not hRel, splitBy_cons_of_not
          (hHeads ▸ hRel), List.map_cons, List.map_cons, hSplit, hSplit', List.map_cons,
          List.map_cons, hFirst, hRest]

theorem append (hCons : ∀ {y y' g g'} x, effect (y :: g) = effect (y' :: g') →
    effect (x :: y :: g) = effect (x :: y' :: g'))
    (h : SameBlocks r effect l l') (before : List α) :
    SameBlocks r effect (before ++ l) (before ++ l') := by
  induction before with
  | nil => exact h
  | cons x before ih => exact ih.cons hCons x

end SameBlocks

/-- Two neighbours of one block may be merged. -/
theorem Merging.alike {merge : α → α → α} {effect : List α → β} (h : Merging r merge effect)
    (hRel : r a b = true) (l : List α) :
    SameBlocks r effect (a :: b :: l) (merge a b :: l) := by
  refine ⟨?_, congrArg some (funext fun x => (h.left x hRel).symm)⟩
  cases l with
  | nil =>
    rw [blockEffects, blockEffects, splitBy_cons_of_rel hRel (rfl : [b].splitBy r = [[b]])]
    exact congrArg (fun e => [e]) (h.merged [] hRel).symm
  | cons x l =>
    obtain ⟨g, gs, hSplit⟩ := exists_splitBy_cons r x l
    cases hNext : r b x with
    | true =>
      rw [blockEffects, blockEffects,
        splitBy_cons_of_rel hRel (splitBy_cons_of_rel hNext hSplit),
        splitBy_cons_of_rel ((h.right x hRel).trans hNext) hSplit, List.map_cons, List.map_cons,
        h.merged _ hRel]
    | false =>
      rw [blockEffects, blockEffects, splitBy_cons_of_rel hRel (splitBy_cons_of_not hNext),
        splitBy_cons_of_not ((h.right x hRel).trans hNext), List.map_cons, List.map_cons,
        h.merged _ hRel]

end ProofKit
