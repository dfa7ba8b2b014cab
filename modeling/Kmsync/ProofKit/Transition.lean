import Mathlib.Data.List.Basic

/-! Runs of a partial step function over a list of labels.  The rules carry an invariant along a
run; it may mention the labels that are still to come, so that it can say what a later step relies
on. -/

namespace ProofKit

variable {σ ℓ : Type} {step : σ → ℓ → Option σ}

/-- The state after all labels, if every step is enabled. -/
def run (step : σ → ℓ → Option σ) : σ → List ℓ → Option σ
  | s, [] => some s
  | s, a :: as => (step s a).bind fun s' => run step s' as

theorem run_cons_eq_some {s t : σ} {a : ℓ} {as : List ℓ} :
    run step s (a :: as) = some t ↔ ∃ s', step s a = some s' ∧ run step s' as = some t :=
  Option.bind_eq_some_iff

theorem run_append {s : σ} {as bs : List ℓ} :
    run step s (as ++ bs) = (run step s as).bind fun t => run step t bs := by
  induction as generalizing s with
  | nil => rfl
  | cons a as ih =>
    simp only [List.cons_append, run, Option.bind_assoc]
    exact congrArg _ (funext fun _ => ih)

/-- Every step of a run meets a condition on its state, its label and the labels behind it. -/
def Along (C : σ → ℓ → List ℓ → Prop) (step : σ → ℓ → Option σ) : σ → List ℓ → Prop
  | _, [] => True
  | s, a :: as => C s a as ∧ ∀ s', step s a = some s' → Along C step s' as

instance decidableAlong {C : σ → ℓ → List ℓ → Prop} [∀ s a as, Decidable (C s a as)] :
    (s : σ) → (as : List ℓ) → Decidable (Along C step s as)
  | _, [] => isTrue trivial
  | s, a :: as =>
    have : Decidable (∀ s', step s a = some s' → Along C step s' as) :=
      match step s a with
      | none => isTrue fun _ h => nomatch h
      | some s' =>
        have : Decidable (Along C step s' as) := decidableAlong s' as
        decidable_of_iff (Along C step s' as)
          ⟨fun h _ hs => Option.some.inj hs ▸ h, fun h => h s' rfl⟩
    inferInstanceAs (Decidable (_ ∧ _))

/-- Along a run that gets to its end, the condition is met at every place. -/
theorem along_iff {C : σ → ℓ → List ℓ → Prop} {s t : σ} {as : List ℓ}
    (hRun : run step s as = some t) :
    Along C step s as ↔ ∀ before a after s', as = before ++ a :: after →
      run step s before = some s' → C s' a after := by
  induction as generalizing s with
  | nil =>
    refine iff_of_true trivial fun before a after s' hSplit => ?_
    exact absurd hSplit.symm (by simp)
  | cons a as ih =>
    obtain ⟨s₁, hs₁, hRest⟩ := run_cons_eq_some.mp hRun
    constructor
    · intro h before b after s' hSplit hBefore
      cases before with
      | nil =>
        cases hSplit
        cases hBefore
        exact h.1
      | cons c before =>
        cases hSplit
        obtain ⟨s₂, hs₂, hBefore⟩ := run_cons_eq_some.mp hBefore
        cases hs₁.symm.trans hs₂
        exact (ih hRest).mp (h.2 s₁ hs₁) before b after s' rfl hBefore
    · intro h
      refine ⟨h [] a as s rfl rfl, fun s₂ hs₂ => ?_⟩
      cases hs₁.symm.trans hs₂
      refine (ih hRest).mpr fun before b after s' hSplit hBefore => ?_
      exact h (a :: before) b after s' (by rw [hSplit]; rfl)
        (run_cons_eq_some.mpr ⟨s₁, hs₁, hBefore⟩)

/-- A condition on the labels alone. -/
theorem along_of_forall {p : ℓ → Prop} {s : σ} {as : List ℓ} (h : ∀ a ∈ as, p a) :
    Along (fun _ a _ => p a) step s as := by
  induction as generalizing s with
  | nil => trivial
  | cons a as ih =>
    exact ⟨h a List.mem_cons_self, fun _ _ => ih fun b hb => h b (List.mem_cons_of_mem a hb)⟩

/-- Along a run that gets to its end, a condition on the labels alone is met by each of them. -/
theorem forall_of_along {p : ℓ → Prop} {s t : σ} {as : List ℓ} (hRun : run step s as = some t)
    (h : Along (fun _ a _ => p a) step s as) : ∀ a ∈ as, p a := by
  induction as generalizing s with
  | nil => exact fun a hMem => absurd hMem List.not_mem_nil
  | cons a as ih =>
    obtain ⟨s', hs', hRest⟩ := run_cons_eq_some.mp hRun
    exact List.forall_mem_cons.mpr ⟨h.1, ih hRest (h.2 s' hs')⟩

/-- Two conditions that agree on every step that is taken. -/
theorem along_congr {C D : σ → ℓ → List ℓ → Prop}
    (h : ∀ s a as s', step s a = some s' → (C s a as ↔ D s a as)) {s t : σ} {as : List ℓ}
    (hRun : run step s as = some t) : Along C step s as ↔ Along D step s as := by
  induction as generalizing s with
  | nil => exact Iff.rfl
  | cons a as ih =>
    obtain ⟨s', hs', hRest⟩ := run_cons_eq_some.mp hRun
    have hTail : (∀ s'', step s a = some s'' → Along C step s'' as) ↔
        ∀ s'', step s a = some s'' → Along D step s'' as :=
      forall_congr' fun s'' => forall_congr' fun hs'' => by
        cases hs'.symm.trans hs''
        exact ih hRest
    exact and_congr (h s a as s' hs') hTail

/-- Where each step keeps an invariant exactly when it meets a condition, the invariant holds all
along a run if and only if each of its steps meets the condition. -/
theorem invariant_iff_along {I : σ → Prop} {C : σ → ℓ → Prop}
    (hStep : ∀ s a s', I s → step s a = some s' → (I s' ↔ C s a)) {s t : σ} {as : List ℓ}
    (hStart : I s) (hRun : run step s as = some t) :
    (∀ before after s', as = before ++ after → run step s before = some s' → I s') ↔
      Along (fun s a _ => C s a) step s as := by
  induction as generalizing s with
  | nil =>
    refine iff_of_true (fun before after s' hSplit hBefore => ?_) trivial
    obtain ⟨rfl, rfl⟩ := List.append_eq_nil_iff.mp hSplit.symm
    cases hBefore
    exact hStart
  | cons a as ih =>
    obtain ⟨s₁, hs₁, hRest⟩ := run_cons_eq_some.mp hRun
    constructor
    · intro h
      have hNext : I s₁ := h [a] as s₁ rfl (run_cons_eq_some.mpr ⟨s₁, hs₁, rfl⟩)
      refine ⟨(hStep s a s₁ hStart hs₁).mp hNext, fun s₂ hs₂ => ?_⟩
      cases hs₁.symm.trans hs₂
      refine (ih hNext hRest).mp fun before after s' hSplit hBefore => ?_
      exact h (a :: before) after s' (by rw [hSplit]; rfl)
        (run_cons_eq_some.mpr ⟨s₁, hs₁, hBefore⟩)
    · intro h before after s' hSplit hBefore
      have hNext : I s₁ := (hStep s a s₁ hStart hs₁).mpr h.1
      cases before with
      | nil =>
        cases hBefore
        exact hStart
      | cons b before =>
        cases hSplit
        obtain ⟨s₂, hs₂, hBefore⟩ := run_cons_eq_some.mp hBefore
        cases hs₁.symm.trans hs₂
        exact (ih hNext hRest).mpr (h.2 s₁ hs₁) before after s' rfl hBefore

/-- A condition that does not look ahead holds along every first part of a run. -/
theorem Along.of_append {C : σ → ℓ → Prop} {s : σ} {as bs : List ℓ}
    (h : Along (fun s a _ => C s a) step s (as ++ bs)) : Along (fun s a _ => C s a) step s as := by
  induction as generalizing s with
  | nil => trivial
  | cons a as ih => exact ⟨h.1, fun s' hs' => ih (h.2 s' hs')⟩

/-- A fact that every step preserves, under the condition, holds at the end of a run. -/
theorem run_induction_along {C : σ → ℓ → List ℓ → Prop} {I : σ → List ℓ → Prop}
    (hStep : ∀ s a as s', I s (a :: as) → C s a as → step s a = some s' → I s' as) {s t : σ}
    {as : List ℓ} (hStart : I s as) (hAlong : Along C step s as) (hRun : run step s as = some t) :
    I t [] := by
  induction as generalizing s with
  | nil =>
    cases hRun
    exact hStart
  | cons a as ih =>
    obtain ⟨s', hs', hRest⟩ := run_cons_eq_some.mp hRun
    exact ih (hStep s a as s' hStart hAlong.1 hs') (hAlong.2 s' hs') hRest

theorem run_induction {I : σ → Prop} (hStep : ∀ s a s', I s → step s a = some s' → I s') {s t : σ}
    {as : List ℓ} (hStart : I s) (hRun : run step s as = some t) : I t := by
  induction as generalizing s with
  | nil =>
    cases hRun
    exact hStart
  | cons a as ih =>
    obtain ⟨s', hs', hRest⟩ := run_cons_eq_some.mp hRun
    exact ih (hStep s a s' hStart hs') hRest

/-- A fact that did not hold at first was brought about by one of the steps. -/
theorem exists_step_of_run {I M : σ → Prop} {P : σ → ℓ → Prop}
    (hKeep : ∀ s a s', I s → step s a = some s' → I s')
    (hStep : ∀ s a s', I s → step s a = some s' → M s' → M s ∨ P s a) {s t : σ} {as : List ℓ}
    (hI : I s) (hRun : run step s as = some t) (hEnd : M t) (hStart : ¬ M s) :
    ∃ before a after s', as = before ++ a :: after ∧ run step s before = some s' ∧ P s' a := by
  induction as generalizing s with
  | nil =>
    cases hRun
    exact absurd hEnd hStart
  | cons a as ih =>
    obtain ⟨s₁, hs₁, hRest⟩ := run_cons_eq_some.mp hRun
    by_cases hNow : M s₁
    · have hCause := (hStep s a s₁ hI hs₁ hNow).resolve_left hStart
      exact ⟨[], a, as, s, rfl, rfl, hCause⟩
    · obtain ⟨before, b, after, s', hSplit, hBefore, hCause⟩ := ih (hKeep s a s₁ hI hs₁) hRest hNow
      exact ⟨a :: before, b, after, s', by rw [hSplit]; rfl,
        run_cons_eq_some.mpr ⟨s₁, hs₁, hBefore⟩, hCause⟩

end ProofKit
