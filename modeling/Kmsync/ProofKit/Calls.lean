import Kmsync.ProofKit.Postcondition
import Mathlib.Data.List.Basic
import Mathlib.Data.List.Induction

/-! A component that is called again and again.  Each call ends in an answer, and leaves a state for
the next one whether it succeeds or fails. -/

namespace ProofKit

variable {ε σ α γ : Type}

/-- The state that a call leaves. -/
def stateAfter (m : EStateM ε σ α) (s : σ) : σ :=
  match m s with
  | .ok _ s' => s'
  | .error _ s' => s'

/-- What a call answers. -/
def answer (m : EStateM ε σ α) (s : σ) : Except ε α :=
  match m s with
  | .ok a _ => .ok a
  | .error e _ => .error e

variable (call : γ → EStateM ε σ α)

/-- The state after a history of calls. -/
def after (s : σ) (calls : List γ) : σ := calls.foldl (fun s c => stateAfter (call c) s) s

/-- The answers to one call after the other. -/
def answers : σ → List γ → List (Except ε α)
  | _, [] => []
  | s, c :: calls => answer (call c) s :: answers (stateAfter (call c) s) calls

/-- The calls of a history that succeed, with what they return. -/
def succeeded : σ → List γ → List (γ × α)
  | _, [] => []
  | s, c :: calls =>
    match call c s with
    | .ok a s' => (c, a) :: succeeded s' calls
    | .error _ s' => succeeded s' calls

variable {call} {m : EStateM ε σ α} {s s' : σ} {a : α} {e : ε} {c : γ}

theorem stateAfter_of_ok (h : m s = .ok a s') : stateAfter m s = s' := by rw [stateAfter, h]

theorem stateAfter_of_error (h : m s = .error e s') : stateAfter m s = s' := by rw [stateAfter, h]

theorem answer_of_ok (h : m s = .ok a s') : answer m s = .ok a := by rw [answer, h]

theorem answer_of_error (h : m s = .error e s') : answer m s = .error e := by rw [answer, h]

/-- What a program answers that ends in a result. -/
theorem Ends.exists_answer {Q : α → σ → Prop} (h : Ends m Q s) :
    ∃ a, answer m s = .ok a ∧ Q a (stateAfter m s) := by
  obtain ⟨a, s', hm, hQ⟩ := h.exists_ok
  rw [answer_of_ok hm, stateAfter_of_ok hm]
  exact ⟨a, rfl, hQ⟩

/-- What a program leaves that answers with a result. -/
theorem Meets.of_answer {Q : α → σ → Prop} {E : ε → σ → Prop} (h : Meets m Q E s)
    (hAnswer : answer m s = .ok a) : Q a (stateAfter m s) := by
  rcases h.ok_or_error with ⟨b, s', hm, hQ⟩ | ⟨e, s', hm, -⟩
  · rw [answer_of_ok hm] at hAnswer
    rw [stateAfter_of_ok hm, ← Except.ok.inj hAnswer]
    exact hQ
  · rw [answer_of_error hm] at hAnswer
    contradiction

theorem error_of_answer (h : answer m s = .error e) : ∃ s', m s = .error e s' := by
  cases hm : m s with
  | ok a s' =>
    rw [answer_of_ok hm] at h
    contradiction
  | error e' s' =>
    rw [answer_of_error hm] at h
    obtain rfl := Except.error.inj h
    exact ⟨s', rfl⟩

/-- What a call leaves, whether it succeeds or fails. -/
theorem meets_stateAfter {P : σ → Prop} :
    Meets m (fun _ => P) (fun _ => P) s ↔ P (stateAfter m s) := by
  rw [Meets, stateAfter]
  cases m s with
  | ok a s' => exact Iff.rfl
  | error e s' => exact Iff.rfl

theorem succeeded_cons_of_ok (h : call c s = .ok a s') (calls : List γ) :
    succeeded call s (c :: calls) = (c, a) :: succeeded call s' calls := by rw [succeeded, h]

theorem succeeded_cons_of_error (h : call c s = .error e s') (calls : List γ) :
    succeeded call s (c :: calls) = succeeded call s' calls := by rw [succeeded, h]

theorem after_cons (s : σ) (c : γ) (calls : List γ) :
    after call s (c :: calls) = after call (stateAfter (call c) s) calls := rfl

theorem after_snoc (s : σ) (calls : List γ) (c : γ) :
    after call s (calls ++ [c]) = stateAfter (call c) (after call s calls) := by
  rw [after, List.foldl_append]
  rfl

/-- States that a bisimulation relates answer every history of calls alike. -/
theorem answers_eq_of_bisim {R : σ → σ → Prop}
    (hCall : ∀ s t c, R s t → answer (call c) s = answer (call c) t ∧
      R (stateAfter (call c) s) (stateAfter (call c) t)) {s t : σ} (h : R s t) (calls : List γ) :
    answers call s calls = answers call t calls := by
  induction calls generalizing s t with
  | nil => rfl
  | cons c calls ih =>
    obtain ⟨hAnswer, hAfter⟩ := hCall s t c h
    rw [answers, answers, hAnswer, ih hAfter]

section Histories

/-- Every call of a history meets a condition on the calls before it. -/
def Throughout (P : List γ → γ → Prop) (calls : List γ) : Prop :=
  ∀ before c later, calls = before ++ c :: later → P before c

variable {P : List γ → γ → Prop} {calls calls' : List γ}

theorem throughout_nil : Throughout P [] := by
  intro before c later h
  exact absurd h.symm (List.append_ne_nil_of_right_ne_nil before (List.cons_ne_nil c later))

theorem throughout_snoc :
    Throughout P (calls ++ [c]) ↔ Throughout P calls ∧ P calls c := by
  constructor
  · intro h
    refine ⟨fun before d later hSplit => h before d (later ++ [c]) ?_, h calls c [] rfl⟩
    rw [hSplit, List.append_assoc, List.cons_append]
  · rintro ⟨h, hLast⟩ before d later hSplit
    cases later using List.reverseRecOn with
    | nil =>
      obtain ⟨rfl, hEq⟩ := List.append_inj' hSplit rfl
      obtain rfl := List.head_eq_of_cons_eq hEq
      exact hLast
    | append_singleton later e =>
      rw [← List.cons_append, ← List.append_assoc] at hSplit
      exact h before d later (List.append_inj_left' hSplit rfl)

theorem Throughout.of_append (h : Throughout P (calls ++ calls')) : Throughout P calls :=
  fun before c later hSplit => h before c (later ++ calls') (by rw [hSplit, List.append_assoc,
    List.cons_append])

/-- What every call preserves, under the condition, holds after the history. -/
theorem history_induction {I : List γ → Prop} (hStart : I [])
    (hStep : ∀ calls c, I calls → P calls c → I (calls ++ [c])) (h : Throughout P calls) :
    I calls := by
  induction calls using List.reverseRecOn with
  | nil => exact hStart
  | append_singleton calls c ih =>
    exact hStep calls c (ih h.of_append) (h calls c [] rfl)

/-- In a history there was a call that starts, and none that stops since. -/
def Since (start stop : List γ → γ → Prop) (calls : List γ) : Prop :=
  ∃ before c later, calls = before ++ c :: later ∧ start before c ∧
    Throughout (fun middle d => ¬ stop (before ++ c :: middle) d) later

variable {start stop : List γ → γ → Prop}

theorem not_since_nil : ¬ Since start stop [] := by
  rintro ⟨before, c, later, h, -⟩
  exact absurd h.symm (List.append_ne_nil_of_right_ne_nil before (List.cons_ne_nil c later))

theorem since_snoc :
    Since start stop (calls ++ [c]) ↔ start calls c ∨ Since start stop calls ∧ ¬ stop calls c := by
  constructor
  · rintro ⟨before, d, later, hSplit, hStart, hLater⟩
    cases later using List.reverseRecOn with
    | nil =>
      obtain ⟨rfl, hEq⟩ := List.append_inj' hSplit rfl
      obtain rfl := List.head_eq_of_cons_eq hEq
      exact .inl hStart
    | append_singleton later e =>
      rw [← List.cons_append, ← List.append_assoc] at hSplit
      obtain ⟨rfl, hEq⟩ := List.append_inj' hSplit rfl
      obtain rfl := List.head_eq_of_cons_eq hEq
      obtain ⟨hBefore, hLast⟩ := throughout_snoc.mp hLater
      exact .inr ⟨⟨before, d, later, rfl, hStart, hBefore⟩, hLast⟩
  · rintro (hStart | ⟨⟨before, d, later, rfl, hStart, hLater⟩, hLast⟩)
    · exact ⟨calls, c, [], rfl, hStart, throughout_nil⟩
    · exact ⟨before, d, later ++ [c], by rw [List.append_assoc, List.cons_append], hStart,
        throughout_snoc.mpr ⟨hLater, hLast⟩⟩

/-- The calls of a history that meet a condition on the calls before them. -/
def selected (p : List γ → γ → Bool) : List γ → List γ → List γ
  | _, [] => []
  | before, c :: calls =>
    if p before c then c :: selected p (before ++ [c]) calls else selected p (before ++ [c]) calls

theorem selected_snoc (p : List γ → γ → Bool) (before calls : List γ) (c : γ) :
    selected p before (calls ++ [c]) =
      selected p before calls ++ if p (before ++ calls) c then [c] else [] := by
  induction calls generalizing before with
  | nil => rw [List.nil_append, List.append_nil]; rfl
  | cons d calls ih =>
    rw [List.cons_append, selected, selected, ih, List.append_assoc, List.singleton_append]
    split
    next => rfl
    next => rfl

end Histories

end ProofKit
